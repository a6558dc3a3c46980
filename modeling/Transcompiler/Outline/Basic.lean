/-
# The outline of a ZeptoN unit

A ZeptoN unit reads `prog Name { … begin … }`, possibly behind a package clause.
Its outline is where those landmarks stand, together with the two kinds of
places that the generated Java text treats specially: opening braces that touch
what is in front of them, and uses of a `main` that the unit declares itself.

Landmarks are looked for among the tokens, so a keyword in a literal or a comment
does not count. The outline is found by splitting the token list at one landmark
after the other; the first landmark that cannot be found is the defect of the
unit. Whether the unit makes sense between its landmarks is left to the Java
compiler.
-/

import Transcompiler.Token

namespace Transcompiler

/-- The keywords that a unit holds exactly once. -/
inductive Keyword where
  | prog
  | begin
deriving DecidableEq, Repr

/-- The spelling of a keyword. -/
def Keyword.word : Keyword → String
  | .prog => "prog"
  | .begin => "begin"

/-- Why a text has no outline. -/
inductive Defect where
  /-- The keyword does not occur. -/
  | missing (keyword : Keyword)
  /-- The keyword occurs a second time, on the given line. -/
  | repeated (keyword : Keyword) (line : Nat)
  /-- No opening brace follows `prog`. -/
  | openBraceMissing
  /-- What stands between `prog` and its brace is not an identifier. -/
  | invalidName (name : Text)
  /-- The only `begin` stands in front of the program's opening brace. -/
  | beginOutside
  /-- No closing brace follows `begin`. -/
  | closeBraceMissing
  /-- No semicolon stands between `package` and `prog`. -/
  | packageUnterminated
  /-- Only white space stands between `package` and its semicolon. -/
  | packageUnnamed
deriving DecidableEq, Repr

namespace Defect

/-- The landmark that a defect is about. -/
def landmark : Defect → String
  | .missing keyword => keyword.word
  | .repeated keyword _ => keyword.word
  | .openBraceMissing => "\x7b"
  | .invalidName _ => "program name"
  | .beginOutside => "begin"
  | .closeBraceMissing => "\x7d"
  | .packageUnterminated => ";"
  | .packageUnnamed => "package"

/-- The text of a defect. -/
def message : Defect → String
  | .missing keyword => "Keyword '" ++ keyword.word ++ "' not found."
  | .repeated keyword line =>
    "Keyword '" ++ keyword.word ++ "' repeated at line " ++ toString line ++ "."
  | .openBraceMissing => "Opening brace '\x7b' after 'prog' not found."
  | .invalidName name => "Program name '" ++ String.ofList name ++ "' is not a valid identifier."
  | .beginOutside => "Keyword 'begin' must follow the program's opening brace."
  | .closeBraceMissing => "Closing brace '\x7d' after 'begin' not found."
  | .packageUnterminated => "Package declaration is missing its ';'."
  | .packageUnnamed => "Package declaration has no name."

end Defect

/-- The package clause of a unit. -/
structure PackageClause where
  /-- The offset of the keyword `package`. -/
  start : Nat
  /-- The offset of the semicolon that ends the clause. -/
  semicolon : Nat
  /-- The text between the two, without white space around it. -/
  name : Text
deriving DecidableEq, Repr

/-- Where the landmarks of a unit stand. All places are offsets. -/
structure Outline where
  /-- The keyword `prog`. -/
  prog : Nat
  /-- The opening brace of the program. -/
  openBrace : Nat
  /-- The keyword `begin`. -/
  begin : Nat
  /-- The last closing brace of the unit. -/
  closeBrace : Nat
  /-- The name of the program. -/
  programName : Text
  /-- The package clause in front of `prog`, if there is one. -/
  package : Option PackageClause
  /-- The opening braces with a character other than white space in front. -/
  bareBraces : List Nat
  /-- The uses of `main` that give way to the generated entry point. -/
  entryPoints : List Nat
deriving DecidableEq, Repr

namespace Outline

/-- Splits a list at the first element with a property. -/
def splitAtFirst {α : Type} (p : α → Bool) : List α → Option (List α × α × List α)
  | [] => none
  | a :: as =>
    if p a then some ([], a, as)
    else (splitAtFirst p as).map fun (front, found, rest) => (a :: front, found, rest)

/-- Splits tokens at a keyword that must occur exactly once among them. -/
def splitAtOnly (keyword : Keyword) (tokens : List Token) :
    Except Defect (List Token × Token × List Token) :=
  match splitAtFirst (·.isWord keyword.word) tokens with
  | none => .error (.missing keyword)
  | some (front, token, rest) =>
    match rest.find? (·.isWord keyword.word) with
    | none => .ok (front, token, rest)
    | some again => .error (.repeated keyword again.start.line)

/-- Whether a text is an identifier as a whole. -/
def isIdentifier : Text → Bool
  | [] => false
  | c :: cs => Lexeme.isIdentifierStart c && cs.all Lexeme.isIdentifierPart

/-- The text between two tokens, without white space around it. -/
def textBetween (text : Text) (left right : Token) : Text :=
  Text.strip (Text.slice text left.stop.offset right.start.offset)

/-- The package clause among the tokens in front of `prog`. It begins at the first
`package` and ends at the first semicolon behind that. -/
def packageClause (text : Text) (front : List Token) : Except Defect (Option PackageClause) :=
  match splitAtFirst (·.isWord "package") front with
  | none => .ok none
  | some (_, keyword, rest) =>
    match rest.find? (·.kind = .semicolon) with
    | none => .error .packageUnterminated
    | some semicolon =>
      let name := textBetween text keyword semicolon
      if name = [] then .error .packageUnnamed
      else .ok (some ⟨keyword.start.offset, semicolon.start.offset, name⟩)

/-- Whether an opening brace follows a character that is not white space. -/
def isBareBrace (text : Text) (token : Token) : Bool :=
  token.kind = .openBrace && token.start.offset ≠ 0 &&
    (text[token.start.offset - 1]?).any (!Text.isBlank ·)

/-- Whether `static void main` occurs among the tokens. -/
def declaresMain : List Token → Bool
  | a :: b :: c :: tokens =>
    (a.isWord "static" && b.isWord "void" && c.isWord "main") || declaresMain (b :: c :: tokens)
  | _ => false

/-- The tokens `main` that an opening parenthesis follows. -/
def mainUses : List Token → List Token
  | a :: b :: tokens =>
    if a.isWord "main" && b.kind = .openParen then a :: mainUses (b :: tokens)
    else mainUses (b :: tokens)
  | _ => []

/-- The uses of `main` to rename: all of them if the unit declares `main`, and
none otherwise. -/
def renamedMains (tokens : List Token) : List Token :=
  if declaresMain tokens then mainUses tokens else []

/-- The outline of a text, or its first defect. -/
def ofText (text : Text) : Except Defect Outline := do
  let tokens := Token.ofText text
  let (front, prog, rest) ← splitAtOnly .prog tokens
  let some (_, openBrace, inner) := splitAtFirst (·.kind = .openBrace) rest
    | throw .openBraceMissing
  let name := textBetween text prog openBrace
  unless isIdentifier name do throw (.invalidName name)
  let _ ← splitAtOnly .begin tokens
  let some (_, start, body) := splitAtFirst (·.isWord Keyword.begin.word) inner
    | throw .beginOutside
  let some closeBrace := (body.filter (·.kind = .closeBrace)).getLast?
    | throw .closeBraceMissing
  let package ← packageClause text front
  return {
    prog := prog.start.offset
    openBrace := openBrace.start.offset
    begin := start.start.offset
    closeBrace := closeBrace.start.offset
    programName := name
    package := package
    bareBraces := (tokens.filter (isBareBrace text)).map (·.start.offset)
    entryPoints := (renamedMains tokens).map (·.start.offset) }

end Outline

end Transcompiler
