/-
# Listing diagnostics

The diagnostics of a unit are gone through in turn. Each is counted and recorded, and
then shown if the verbosity shows its kind. A diagnostic that cannot be shown ends the
listing; it has been counted by then, and those behind it are not.
-/

import Transcompiler.Diagnostic.Fragment
import Transcompiler.Diagnostic.Tally
import Transcompiler.Event

namespace Transcompiler

/-- What a listing leaves behind. -/
structure Listing where
  /-- How many diagnostics were counted. -/
  tally : Tally := {}
  /-- What was recorded. -/
  records : List Event := []
  /-- The texts that are shown, unless one of them could not be made. -/
  texts : Except Breakdown (List String) := .ok []

namespace Diagnostic

/-- The records of a diagnostic. A line that is to be quoted and is not there gets a
record of its own. A place that cannot be written is not recorded. -/
def records (verbosity : Verbosity) (file : String) (lines : List Text)
    (diagnostic : Diagnostic) : List Event :=
  match diagnostic.location file with
  | .error _ => []
  | .ok place =>
    .debug .diagnostics (place ++ ": " ++ diagnostic.kind.name) ::
      if verbosity.shows diagnostic.kind ∧ diagnostic.kind ≠ .note ∧
          lineAt? lines diagnostic.line = none then
        [.debug .diagnostics ("Linha " ++ toString diagnostic.line ++ " fora do texto gerado (" ++
          toString lines.length ++ " linhas)")]
      else []

/-- The listing of diagnostics, from a tally on. -/
def report (verbosity : Verbosity) (memory : Memory) (file : String) (lines : List Text) :
    Tally → List Diagnostic → Listing
  | tally, [] => { tally := tally }
  | tally, diagnostic :: diagnostics =>
    let counted := tally.record diagnostic.kind
    let recorded := diagnostic.records verbosity file lines
    let shown :=
      if verbosity.shows diagnostic.kind then
        (diagnostic.fragment memory file lines).map fun text => [text]
      else .ok []
    match shown with
    | .error breakdown => ⟨counted, recorded, .error breakdown⟩
    | .ok texts =>
      let rest := report verbosity memory file lines counted diagnostics
      ⟨rest.tally, recorded ++ rest.records, rest.texts.map (texts ++ ·)⟩

end Diagnostic

end Transcompiler
