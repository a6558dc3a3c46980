/-
# Colour on the terminal

Faults are shown in red. The control sequences for that, and any that the shown
texts hold themselves, are left out of output that does not go to a terminal.
-/

import Transcompiler.Text.Basic

namespace Transcompiler.Terminal

/-- A text in red. -/
def red (text : String) : String :=
  "\x1b[31m" ++ text ++ "\x1b[0m"

/-- Whether a character belongs to the parameters of a control sequence. -/
def isParameter (c : Char) : Bool := '0' ≤ c && c ≤ '?'

/-- Whether a character stands between the parameters and the end of a control
sequence. -/
def isIntermediate (c : Char) : Bool := ' ' ≤ c && c ≤ '/'

/-- Whether a character ends a control sequence. -/
def isFinal (c : Char) : Bool := '@' ≤ c && c ≤ '~'

/-- What stands behind a control sequence whose opening has been read, if it is
complete. -/
def behindSequence (text : Text) : Option Text :=
  match (text.dropWhile isParameter).dropWhile isIntermediate with
  | c :: rest => if isFinal c then some rest else none
  | [] => none

theorem length_lt_of_behindSequence {text rest : Text} (h : behindSequence text = some rest) :
    rest.length < text.length := by
  unfold behindSequence at h
  split at h
  · next c tail heq =>
    split at h
    · have hlength := congrArg List.length heq
      have hparameters := (List.dropWhile_suffix isParameter (l := text)).length_le
      have hintermediates :=
        (List.dropWhile_suffix isIntermediate (l := text.dropWhile isParameter)).length_le
      simp only [Option.some.injEq] at h
      subst h
      simp only [List.length_cons] at hlength
      omega
    · simp at h
  · simp at h

/-- A text without its control sequences. -/
def plain : Text → Text
  | [] => []
  | '\x1b' :: '[' :: rest =>
    match _h : behindSequence rest with
    | some behind => plain behind
    | none => '\x1b' :: plain ('[' :: rest)
  | c :: cs => c :: plain cs
termination_by text => text.length
decreasing_by
  · have := length_lt_of_behindSequence _h
    simp only [List.length_cons]
    omega
  · simp
  · simp

end Transcompiler.Terminal
