/-
# The quoted line of a diagnostic

Below a heading with a place the Java compiler quotes a line of the program and puts
a caret under it. The quoted line is passed over, so what the program says there
should not matter. It does not matter as long as the line has neither the form of a
heading nor that of a count: `Pending.absorb` then drops it unseen.

Lines are sorted by their form before it is asked which diagnostic is open. So a
quoted line with the form of a boundary closes the diagnostic that quotes it, which is
left without its caret, and everything from the quoted line on is read as if nothing
stood in front of it. `parse_quoting` states both, and that the second way never gives
the diagnostics of the first: it always gives more.
-/

import Transcompiler.Proofs.Printing

namespace Transcompiler

namespace Report

/-- A report that begins with a heading, the line that it quotes and a caret. -/
def quoting (head quoted caret rest : Text) : Text :=
  head ++ '\n' :: (quoted ++ '\n' :: (caret ++ '\n' :: rest))

/-- The diagnostics of lines, where the first lines may belong to a diagnostic that is
open already. -/
def parseFrom (open? : Option Pending) (lines : List Text) :
    Except LineNumberTooLong (List Diagnostic) :=
  (lines.mapM Line.ofText).map (diagnosticsFrom open?)

theorem parse_eq_parseFrom (text : Text) : parse text = parseFrom none (Text.reportLines text) := by
  rw [parse, parseFrom]
  cases (Text.reportLines text).mapM Line.ofText <;> rfl

theorem parse_quoting_eq_parseFrom {head quoted : Text} (hhead : Text.Unbroken head)
    (hquoted : Text.Unbroken quoted) (caret rest : Text) :
    parse (quoting head quoted caret rest) =
      parseFrom none (head :: quoted :: Text.reportLines (caret ++ '\n' :: rest)) := by
  rw [parse_eq_parseFrom, quoting, Text.reportLines_append_newline hhead,
    Text.reportLines_append_newline hquoted]

/-! ## One line in front -/

theorem ofText_of_placedHeading? {line : Text} {heading : Heading}
    (h : placedHeading? line = some heading) :
    Line.ofText line =
      if Text.digitLimit < heading.digits.length then .error ⟨heading.digits.length⟩
      else
        .ok (.heading heading.kind (Text.decimalValue heading.digits) heading.message) := by
  rw [Line.ofText, h]
  rfl

theorem ofText_of_not_boundary {line : Text} (h : isBoundary line = false) :
    Line.ofText line = .ok (.body line) := by
  have hopening : opening? line = none := by
    rw [isBoundary, Bool.or_eq_false_iff] at h
    simpa using h.1
  rw [ofText_eq_reading, reading_of_not_boundary h]
  intro heading hplaced
  rw [opening?, Option.orElse_eq_orElse, Option.orElse_eq_or, Option.or_eq_none_iff] at hopening
  rw [hopening.1] at hplaced
  contradiction

/-- A boundary that can be read is a heading or a count. -/
theorem ofText_ne_body {line : Text} (h : isBoundary line = true) (text : Text) :
    Line.ofText line ≠ .ok (.body text) := by
  intro hbody
  cases hopening : opening? line with
  | some heading =>
    have hheading : (placedHeading? line <|> unplacedHeading? line) = some heading := hopening
    rw [Line.ofText, hheading] at hbody
    simp only at hbody
    split_ifs at hbody
    · simp at hbody
  | none =>
    have hnone : (placedHeading? line <|> unplacedHeading? line) = none := hopening
    have hcount : isCount line = true := by simpa [isBoundary, hopening] using h
    rw [Line.ofText, hnone] at hbody
    simp [hcount] at hbody

section Front

variable {line : Text} {heading : Heading} {pending : Pending} (lines : List Text)

theorem parseFrom_of_error {open? : Option Pending} {fault : LineNumberTooLong}
    (h : Line.ofText line = .error fault) : parseFrom open? (line :: lines) = .error fault := by
  rw [parseFrom, List.mapM_cons, h]
  rfl

theorem parseFrom_of_ok {open? : Option Pending} {read : Line} (h : Line.ofText line = .ok read) :
    parseFrom open? (line :: lines) =
      (lines.mapM Line.ofText).map fun others => diagnosticsFrom open? (read :: others) := by
  rw [parseFrom, List.mapM_cons, h]
  cases lines.mapM Line.ofText <;> rfl

/-- A heading opens a diagnostic. -/
theorem parseFrom_placed (h : placedHeading? line = some heading)
    (hreadable : heading.digits.length ≤ Text.digitLimit) :
    parseFrom none (line :: lines) = parseFrom (some heading.pending) lines := by
  have hline := ofText_of_placedHeading? h
  rw [if_neg (Nat.not_lt.mpr hreadable)] at hline
  rw [parseFrom_of_ok lines hline]
  rfl

/-- A line that is no boundary goes to the diagnostic that is open. -/
theorem parseFrom_absorb (h : isBoundary line = false) :
    parseFrom (some pending) (line :: lines) = parseFrom (some (pending.absorb line)) lines := by
  rw [parseFrom_of_ok lines (ofText_of_not_boundary h)]
  rfl

/-- A boundary closes the diagnostic that is open. -/
theorem parseFrom_boundary (h : isBoundary line = true) :
    parseFrom (some pending) (line :: lines) =
      (parseFrom none (line :: lines)).map (pending.diagnostic :: ·) := by
  cases hline : Line.ofText line with
  | error fault =>
    rw [parseFrom_of_error lines hline, parseFrom_of_error lines hline]
    rfl
  | ok read =>
    rw [parseFrom_of_ok lines hline, parseFrom_of_ok lines hline]
    cases lines.mapM Line.ofText with
    | error fault => rfl
    | ok others =>
      cases read with
      | heading kind number message => rfl
      | count => rfl
      | body text => exact absurd hline (ofText_ne_body h text)

end Front

/-- Below a heading with a place, a line that is no boundary is passed over. -/
theorem parseFrom_quoted {head quoted : Text} {heading : Heading}
    (hhead : placedHeading? head = some heading)
    (hplace : 1 ≤ Text.decimalValue heading.digits)
    (hreadable : heading.digits.length ≤ Text.digitLimit) (hquoted : isBoundary quoted = false)
    (lines : List Text) :
    parseFrom none (head :: quoted :: lines) =
      parseFrom (some { heading.pending with sourceSeen := true }) lines := by
  have hpending : heading.pending.line ≠ 0 := Nat.ne_of_gt hplace
  rw [parseFrom_placed _ hhead hreadable, parseFrom_absorb _ hquoted,
    Pending.absorb_source hpending rfl]

/-! ## How many diagnostics there are -/

/-- What an open diagnostic says does not change how many there are. -/
theorem length_diagnosticsFrom_some (pending other : Pending) (lines : List Line) :
    (diagnosticsFrom (some pending) lines).length =
      (diagnosticsFrom (some other) lines).length := by
  induction lines generalizing pending other with
  | nil => rfl
  | cons line lines ih =>
    cases line with
    | heading kind number message => rfl
    | count => rfl
    | body text => exact ih (pending.absorb text) (other.absorb text)

/-- An open diagnostic is one more, and may take in lines that would be diagnostics of
their own. -/
theorem length_diagnosticsFrom_le (pending : Pending) (lines : List Line) :
    (diagnosticsFrom (some pending) lines).length ≤ (diagnosticsFrom none lines).length + 1 := by
  induction lines generalizing pending with
  | nil => exact Nat.le_refl 1
  | cons line lines ih =>
    cases line with
    | heading kind number message => simp [diagnosticsFrom]
    | count => simp [diagnosticsFrom]
    | body text =>
      rw [diagnosticsFrom, diagnosticsFrom]
      have hrest := ih (pending.absorb text)
      by_cases hblank : Text.strip text = []
      · simpa [hblank] using hrest
      · simp [hblank]
        omega

/-- Behind a boundary a caret is a line like any other, so there are no fewer
diagnostics from the boundary on than with the caret in an open diagnostic. -/
theorem length_le_of_boundary {line caret : Text} {lines : List Text} {pending : Pending}
    {diagnostics more : List Diagnostic} (hline : isBoundary line = true)
    (hcaret : isCaret caret = true)
    (hopen : parseFrom (some pending) (caret :: lines) = .ok diagnostics)
    (hclosed : parseFrom none (line :: caret :: lines) = .ok more) :
    diagnostics.length ≤ more.length := by
  have hbody := ofText_of_not_boundary (isBoundary_of_isCaret hcaret)
  have hstrip : Text.strip caret ≠ [] := by simp [isCaret_iff.mp hcaret]
  cases hread : Line.ofText line with
  | error fault =>
    rw [parseFrom_of_error _ hread] at hclosed
    contradiction
  | ok read =>
    rw [parseFrom_of_ok _ hread, List.mapM_cons, hbody] at hclosed
    rw [parseFrom_of_ok _ hbody] at hopen
    cases hlines : lines.mapM Line.ofText with
    | error fault =>
      rw [hlines] at hopen
      contradiction
    | ok others =>
      rw [hlines] at hopen hclosed
      cases hopen
      cases hclosed
      cases read with
      | body text => exact absurd hread (ofText_ne_body hline text)
      | heading kind number message =>
        exact Nat.le_of_eq (length_diagnosticsFrom_some _ _ others)
      | count =>
        have hle := length_diagnosticsFrom_le (pending.absorb caret) others
        simpa [diagnosticsFrom, hstrip] using hle

/-- The line that a diagnostic quotes below its heading. Two lines that are no
boundaries can be exchanged there. A boundary in their place closes the diagnostic,
which keeps nothing but its heading, is read as if nothing stood in front of it, and
never gives the same diagnostics. -/
theorem parse_quoting {head quoted other caret : Text} {heading : Heading}
    (hhead : placedHeading? head = some heading)
    (hplace : 1 ≤ Text.decimalValue heading.digits) (hunbroken : Text.Unbroken head)
    (hquoted : Text.Unbroken quoted) (hother : Text.Unbroken other)
    (hcaret : isCaret caret = true) (hplain : isBoundary other = false) (rest : Text) :
    (isBoundary quoted = false →
      parse (quoting head quoted caret rest) = parse (quoting head other caret rest)) ∧
    (isBoundary quoted = true → heading.digits.length ≤ Text.digitLimit →
      parse (quoting head quoted caret rest) =
        (parse (quoted ++ '\n' :: (caret ++ '\n' :: rest))).map (heading.diagnostic [] :: ·)) ∧
    (isBoundary quoted = true → Text.Unbroken caret → ∀ diagnostics,
      parse (quoting head other caret rest) = .ok diagnostics →
        parse (quoting head quoted caret rest) ≠ .ok diagnostics) := by
  rw [parse_quoting_eq_parseFrom hunbroken hquoted, parse_quoting_eq_parseFrom hunbroken hother]
  have hfault (hlong : ¬heading.digits.length ≤ Text.digitLimit) :
      Line.ofText head = .error ⟨heading.digits.length⟩ := by
    rw [ofText_of_placedHeading? hhead, if_pos (Nat.lt_of_not_le hlong)]
  refine ⟨fun hnone => ?_, fun hboundary hreadable => ?_, fun hboundary hline => ?_⟩
  · by_cases hreadable : heading.digits.length ≤ Text.digitLimit
    · rw [parseFrom_quoted hhead hplace hreadable hnone,
        parseFrom_quoted hhead hplace hreadable hplain]
    · rw [parseFrom_of_error _ (hfault hreadable), parseFrom_of_error _ (hfault hreadable)]
  · have halone : heading.pending.diagnostic = heading.diagnostic [] :=
      Pending.diagnostic_foldl_absorb heading []
    rw [parseFrom_placed _ hhead hreadable, parseFrom_boundary _ hboundary, halone,
      parse_eq_parseFrom, Text.reportLines_append_newline hquoted]
  · intro diagnostics hothers hsame
    have hreadable : heading.digits.length ≤ Text.digitLimit := by
      by_contra hlong
      rw [parseFrom_of_error _ (hfault hlong)] at hothers
      contradiction
    rw [Text.reportLines_append_newline hline] at hothers hsame
    rw [parseFrom_quoted hhead hplace hreadable hplain] at hothers
    rw [parseFrom_placed _ hhead hreadable, parseFrom_boundary _ hboundary] at hsame
    cases hmore : parseFrom none (quoted :: caret :: Text.reportLines rest) with
    | error fault =>
      rw [hmore] at hsame
      contradiction
    | ok more =>
      rw [hmore] at hsame
      cases hsame
      have hle := length_le_of_boundary hboundary hcaret hothers hmore
      exact absurd hle (Nat.not_succ_le_self more.length)

/-- A program line in which nothing looks like a heading is as good as a blank one. With
a heading in a string literal, the error loses its column and the literal becomes a
diagnostic. -/
theorem parse_quoting_of_heading_in_literal :
    parse (quoting "A:3: error: m".toList "  f(x);".toList "    ^".toList "1 error".toList) =
        parse (quoting "A:3: error: m".toList [] "    ^".toList "1 error".toList) ∧
      parse (quoting "A:3: error: m".toList "f(\"B:7: note: n\");".toList "  ^".toList
          "1 error".toList) =
        .ok [⟨.error, 3, 1, ['m']⟩, ⟨.note, 7, 1, "n\");".toList⟩] := by
  have hhead : placedHeading? "A:3: error: m".toList = some ⟨.error, ['3'], ['m']⟩ := by
    decide +kernel
  have hunbroken : Text.Unbroken "A:3: error: m".toList := Text.unbroken_of_all rfl
  have hblank : Text.Unbroken [] := Text.unbroken_of_all rfl
  refine ⟨?_, ?_⟩
  · exact (parse_quoting hhead (by decide) hunbroken (Text.unbroken_of_all rfl) hblank (by decide)
      (by decide) _).1 (by decide +kernel)
  · have hliteral : Text.Unbroken "f(\"B:7: note: n\");".toList := Text.unbroken_of_all rfl
    have hcaret : isCaret "  ^".toList = true := by decide
    rw [(parse_quoting hhead (by decide) hunbroken hliteral hblank hcaret (by decide) _).2.1
      (by decide +kernel) (by decide)]
    decide +kernel

end Report

end Transcompiler
