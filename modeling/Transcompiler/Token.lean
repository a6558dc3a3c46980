/-
# Tokens and their places

A token is a significant lexeme together with the two positions between which it
stands. Positions count code points; only a line feed begins a new line, and
lines and columns are numbered from one.
-/

import Transcompiler.Lexeme

namespace Transcompiler

/-- A place between two characters of a text. -/
structure Position where
  /-- The number of characters in front of the place. -/
  offset : Nat
  /-- The number of the line, counted from one. -/
  line : Nat
  /-- The number of the column, counted from one. -/
  column : Nat
deriving DecidableEq, Repr

namespace Position

/-- The place in front of the first character. -/
def start : Position := ⟨0, 1, 1⟩

/-- The place behind a character. -/
def next (position : Position) (c : Char) : Position :=
  if c = '\n' then ⟨position.offset + 1, position.line + 1, 1⟩
  else ⟨position.offset + 1, position.line, position.column + 1⟩

/-- The place behind a stretch of text. -/
def after (position : Position) (text : Text) : Position :=
  text.foldl next position

theorem after_append (position : Position) (left right : Text) :
    position.after (left ++ right) = (position.after left).after right :=
  List.foldl_append

theorem offset_after (position : Position) (text : Text) :
    (position.after text).offset = position.offset + text.length := by
  induction text generalizing position with
  | nil => rfl
  | cons c cs ih =>
    have hnext : (position.next c).offset = position.offset + 1 := by
      unfold next
      split <;> rfl
    change ((position.next c).after cs).offset = _
    rw [ih, hnext, List.length_cons]
    omega

end Position

/-- A significant lexeme in its place. -/
structure Token where
  /-- The class of the token. -/
  kind : TokenKind
  /-- The characters of the token. -/
  text : Text
  /-- The place in front of its first character. -/
  start : Position
  /-- The place behind its last character. -/
  stop : Position
deriving DecidableEq, Repr

namespace Token

/-- The tokens among lexemes that stand one behind the other from a place on. -/
def placed : Position → List Lexeme → List Token
  | _, [] => []
  | position, lexeme :: lexemes =>
    let behind := position.after lexeme.text
    match lexeme.category with
    | .token kind => ⟨kind, lexeme.text, position, behind⟩ :: placed behind lexemes
    | .gap _ => placed behind lexemes

/-- The tokens of a text. Every text has them: a character that begins nothing
else is a token of its own. -/
def ofText (text : Text) : List Token :=
  placed .start (Lexeme.all text)

/-- Whether a token is the identifier `word` and no part of a longer one. -/
def isWord (token : Token) (word : String) : Bool :=
  token.kind = .identifier && token.text = word.toList

end Token

end Transcompiler
