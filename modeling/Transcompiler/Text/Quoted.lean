/-
# Quoted text

Names are quoted in messages and log records so that every character shows.
Single quotes surround the text, or double quotes if it holds a single quote and
no double quote. A backslash stands in front of a backslash and of the
surrounding quote; a character that does not print is written by its code.
-/

import Transcompiler.Text.Printable

namespace Transcompiler.Text

/-- The lower-case hexadecimal digits of a number, at least `width` of them. -/
def hexadecimal (width n : Nat) : Text :=
  let digits := Nat.toDigits 16 n
  List.replicate (width - digits.length) '0' ++ digits

/-- The code of a character behind a backslash: two, four or eight hexadecimal
digits. -/
def escapedCode (c : Char) : Text :=
  if c.toNat < 0x100 then '\\' :: 'x' :: hexadecimal 2 c.toNat
  else if c.toNat < 0x10000 then '\\' :: 'u' :: hexadecimal 4 c.toNat
  else '\\' :: 'U' :: hexadecimal 8 c.toNat

/-- A character as it stands between the quotes. -/
def quotedChar (quote c : Char) : Text :=
  if c = '\\' ∨ c = quote then ['\\', c]
  else if c = '\t' then ['\\', 't']
  else if c = '\n' then ['\\', 'n']
  else if c = '\r' then ['\\', 'r']
  else if isPrintable c then [c]
  else escapedCode c

/-- The quote that surrounds a text. -/
def quoteFor (text : Text) : Char :=
  if '\'' ∈ text ∧ '"' ∉ text then '"' else '\''

/-- A text in quotes. -/
def quoted (text : Text) : Text :=
  let quote := quoteFor text
  quote :: text.flatMap (quotedChar quote) ++ [quote]

end Transcompiler.Text
