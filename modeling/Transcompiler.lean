import Transcompiler.Breakdown
import Transcompiler.Clock
import Transcompiler.Configuration.Arguments
import Transcompiler.Configuration.Basic
import Transcompiler.Diagnostic.Basic
import Transcompiler.Diagnostic.Fragment
import Transcompiler.Diagnostic.Listing
import Transcompiler.Diagnostic.Report
import Transcompiler.Diagnostic.Tally
import Transcompiler.Edit
import Transcompiler.Event
import Transcompiler.Fault
import Transcompiler.FileSystem
import Transcompiler.Help
import Transcompiler.InMemory
import Transcompiler.Java.Scaffold
import Transcompiler.Java.Unit
import Transcompiler.Javac.Command
import Transcompiler.Javac.Placement
import Transcompiler.Javac.Service
import Transcompiler.Lexeme
import Transcompiler.Log
import Transcompiler.Main
import Transcompiler.Memory
import Transcompiler.Outline.Basic
import Transcompiler.Outline.Description
import Transcompiler.Path
import Transcompiler.Run
import Transcompiler.Service
import Transcompiler.Session
import Transcompiler.SourceFile
import Transcompiler.Status
import Transcompiler.Terminal
import Transcompiler.Text.Basic
import Transcompiler.Text.Blank
import Transcompiler.Text.Decimal
import Transcompiler.Text.LineBreak
import Transcompiler.Text.Printable
import Transcompiler.Text.Quoted
import Transcompiler.Text.Utf8
import Transcompiler.Token
import Transcompiler.Proofs.Letters
import Transcompiler.Proofs.Lexing
import Transcompiler.Proofs.Span
import Transcompiler.Proofs.Layout
import Transcompiler.Proofs.Splice
import Transcompiler.Proofs.Substitution
import Transcompiler.Proofs.Lines
import Transcompiler.Proofs.Relexing
import Transcompiler.Proofs.Invocation
import Transcompiler.Proofs.Headings
import Transcompiler.Proofs.Segments
import Transcompiler.Proofs.Printing
import Transcompiler.Proofs.Listing
import Transcompiler.Proofs.Trace
import Transcompiler.Proofs.Translation
import Transcompiler.Proofs.Encoding
import Transcompiler.Proofs.Reading
import Transcompiler.Proofs.Output
import Transcompiler.Proofs.JavaCompiler
import Transcompiler.Proofs.ExitCode
import Transcompiler.Proofs.Reporting
import Transcompiler.Proofs.Agreement
import Transcompiler.Proofs.Position
import Transcompiler.Proofs.Partition
import Transcompiler.Proofs.Literals
import Transcompiler.Proofs.Nesting
import Transcompiler.Proofs.EntryPoint
import Transcompiler.Proofs.Quotation
import Transcompiler.Proofs.Verdict
import Transcompiler.Proofs.Verbosity
import Transcompiler.Proofs.Naming
import Transcompiler.Proofs.WholeNames
import Transcompiler.Proofs.WellFormed
import Transcompiler.Proofs.Counting
import Transcompiler.Proofs.Size
