/-
# What the lines of a report are

Each line of a report is looked at on its own. This module says what a line is, without the
search for it. `Opens` holds of the lines that open a diagnostic: of all readings of a line
as a heading with a place, the one with the shortest path counts, and without any a word
at the front is enough. `IsCountLine` holds of the lines that say how many errors or
warnings there were.

What the reader of reports computes is settled against these by `opening?_eq_some_iff` and
`isCount_iff`.
-/

import Mathlib.Data.List.Basic
import Transcompiler.Diagnostic.Report
import Transcompiler.Proofs.Slice

namespace Transcompiler

namespace Report

/-! ## The forms of a line -/

/-- The word in front of a message, and what sets it off. -/
def Severity.label : Severity → Text
  | .error => "error: ".toList
  | .warning => "warning: ".toList
  | .note => "note: ".toList

/-- The word in front of a message without a place. -/
def Severity.unplacedLabel : Severity → Text
  | .error => "error: ".toList
  | .warning => "warning: ".toList
  | .note => "Note: ".toList

/-- The kind of a diagnostic with a severity and a message, with the categories written out
that the compiler may not leave out. -/
def Severity.kindOf (severity : Severity) (message : Text) : DiagnosticKind :=
  match severity with
  | .error => .error
  | .note => .note
  | .warning =>
    if ∃ category ∈ ["[deprecation]", "[removal]", "[unchecked]", "[preview]"],
        category.toList <+: message then .mandatoryWarning
    else .warning

/-- A line read as a heading with a place: a path, the line number, the severity and the
message, with colons between them. -/
structure ReadsAs (line path digits : Text) (severity : Severity) (message : Text) : Prop where
  line_eq : line = path ++ ':' :: (digits ++ (": ".toList ++ (severity.label ++ message)))
  path_ne_nil : path ≠ []
  digits_ne_nil : digits ≠ []
  isDecimal : ∀ c ∈ digits, Text.isDecimal c = true

/-- The reading of a line as a heading with a place that counts: the one with the
shortest path. -/
structure Matches (line path digits : Text) (severity : Severity) (message : Text) : Prop
    extends ReadsAs line path digits severity message where
  shortest : ∀ path' digits' severity' message',
    ReadsAs line path' digits' severity' message' → path.length ≤ path'.length

/-- The lines that open a diagnostic, with what they say. -/
inductive Opens : Text → Heading → Prop where
  | placed {line path digits : Text} {severity : Severity} {message : Text}
      (h : Matches line path digits severity message) :
      Opens line ⟨severity.kindOf message, digits, message⟩
  /-- Without a place, the severity comes first. -/
  | unplaced {severity : Severity} {message : Text}
      (h : ∀ path digits severity' message',
        ¬ReadsAs (severity.unplacedLabel ++ message) path digits severity' message') :
      Opens (severity.unplacedLabel ++ message) ⟨severity.kindOf message, [], message⟩

/-- A line that says how many errors or warnings there were, with white space around it. -/
inductive IsCountLine : Text → Prop where
  | intro {left digits right : Text} {word : String} :
      (∀ c ∈ left, Text.isBlank c = true) → digits ≠ [] →
      (∀ c ∈ digits, Text.isDecimal c = true) →
      word ∈ ["error", "errors", "warning", "warnings"] →
      (∀ c ∈ right, Text.isBlank c = true) →
      IsCountLine (left ++ (digits ++ ' ' :: word.toList ++ right))

/-- The lines at which a segment of a report begins. -/
def Begins (line : Text) : Prop :=
  (∃ heading, Opens line heading) ∨ IsCountLine line

/-! ## The search for a heading -/

/-- The heading that a line is, if it opens a diagnostic. -/
def opening? (line : Text) : Option Heading :=
  placedHeading? line <|> unplacedHeading? line

theorem Severity.kind_eq_kindOf (severity : Severity) (message : Text) :
    severity.kind message = severity.kindOf message := by
  cases severity with
  | error => rfl
  | note => rfl
  | warning => simp [kind, kindOf, mandatoryCategories]

theorem severity?_label (severity : Severity) (message : Text) :
    severity? (severity.label ++ message) = some (severity, message) := by
  cases severity <;> rfl

theorem headingBehindPath?_digits {digits : Text} (hne : digits ≠ [])
    (hdigits : ∀ c ∈ digits, Text.isDecimal c = true) (severity : Severity) (message : Text) :
    headingBehindPath? (':' :: (digits ++ (": ".toList ++ (severity.label ++ message)))) =
      some ⟨severity.kindOf message, digits, message⟩ := by
  have hcolon : Text.isDecimal ':' = false := by decide
  have htext : ": ".toList ++ (severity.label ++ message) =
      ':' :: ' ' :: (severity.label ++ message) := rfl
  have htake : (digits ++ (": ".toList ++ (severity.label ++ message))).takeWhile Text.isDecimal =
      digits := by
    rw [List.takeWhile_append_of_pos hdigits, htext]
    simp [hcolon]
  have hdrop : (digits ++ (": ".toList ++ (severity.label ++ message))).dropWhile Text.isDecimal =
      ':' :: ' ' :: (severity.label ++ message) := by
    rw [List.dropWhile_append_of_pos hdigits, htext]
    simp [hcolon]
  rw [headingBehindPath?, htake, hdrop]
  simp only [hne, if_false, severity?_label, Option.map_some, Severity.kind_eq_kindOf]

theorem headingBehindPath?_eq_none {text : Text} (h : ∀ c ∈ text.head?, c ≠ ':') :
    headingBehindPath? text = none := by
  cases text with
  | nil => rfl
  | cons c text =>
    rw [headingBehindPath?]
    intro rest heq
    injection heq with hc
    exact h c rfl hc

theorem severity?_eq_some_iff {text message : Text} {severity : Severity} :
    severity? text = some (severity, message) ↔ text = severity.label ++ message := by
  constructor
  · intro h
    simp only [severity?, Option.orElse_eq_orElse, Option.orElse_eq_or, Option.or_eq_some_iff,
      Option.map_eq_some_iff, List.isPrefixOf?_eq_some_iff_append_eq, Prod.mk.injEq] at h
    rcases h with
      ⟨rest, hrest, rfl, rfl⟩ | ⟨-, ⟨rest, hrest, rfl, rfl⟩ | ⟨-, rest, hrest, rfl, rfl⟩⟩
    · exact hrest.symm
    · exact hrest.symm
    · exact hrest.symm
  · rintro rfl
    exact severity?_label severity message

/-- What stands behind a path. -/
theorem headingBehindPath?_eq_some_iff {text : Text} {heading : Heading} :
    headingBehindPath? text = some heading ↔
      ∃ (digits : Text) (severity : Severity) (message : Text),
        text = ':' :: (digits ++ (": ".toList ++ (severity.label ++ message))) ∧
        digits ≠ [] ∧ (∀ c ∈ digits, Text.isDecimal c = true) ∧
        heading = ⟨severity.kindOf message, digits, message⟩ := by
  constructor
  · intro h
    fun_cases headingBehindPath? text with
    | case1 text digits rest hdrop hempty =>
      simp only [headingBehindPath?, hdrop] at h
      rw [if_pos hempty] at h
      contradiction
    | case2 text digits rest hdrop hdigits =>
      simp only [headingBehindPath?, hdrop] at h
      rw [if_neg hdigits] at h
      obtain ⟨⟨severity, message⟩, hseverity, rfl⟩ := Option.map_eq_some_iff.mp h
      have hrest := severity?_eq_some_iff.mp hseverity
      have htext : text = text.takeWhile Text.isDecimal ++ ':' :: ' ' :: rest := by
        rw [← hdrop, List.takeWhile_append_dropWhile]
      refine ⟨digits, severity, message, ?_, hdigits, List.all_eq_true.mp List.all_takeWhile, ?_⟩
      · rw [← hrest]
        exact congrArg (':' :: ·) htext
      · rw [← Severity.kind_eq_kindOf]
    | case3 text hother => simp [headingBehindPath?] at h
    | case4 => simp [headingBehindPath?] at h
  · rintro ⟨digits, severity, message, rfl, hne, hdecimal, rfl⟩
    exact headingBehindPath?_digits hne hdecimal severity message

/-- The search for a heading goes through the ends of paths from left to right. -/
theorem placedHeading?_eq_some {line : Text} {heading : Heading} :
    placedHeading? line = some heading ↔
      ∃ path rest, path ≠ [] ∧ line = path ++ rest ∧ headingBehindPath? rest = some heading ∧
        ∀ path' rest', path' ≠ [] → line = path' ++ rest' → path'.length < path.length →
          headingBehindPath? rest' = none := by
  induction line with
  | nil =>
    refine iff_of_false (by simp [placedHeading?]) ?_
    rintro ⟨path, rest, hpath, hline, -⟩
    exact hpath (List.append_eq_nil_iff.mp hline.symm).1
  | cons c line ih =>
    rw [placedHeading?, Option.orElse_eq_orElse, Option.orElse_eq_or, Option.or_eq_some_iff, ih]
    constructor
    · rintro (hhere | ⟨hnone, path, rest, hpath, rfl, hrest, hshorter⟩)
      · refine ⟨[c], line, by simp, rfl, hhere, ?_⟩
        intro path' rest' hpath' _ hlength
        exact absurd (List.length_pos_iff.mpr hpath') (by simpa using hlength)
      · refine ⟨c :: path, rest, by simp, rfl, hrest, ?_⟩
        intro path' rest' hpath' hline hlength
        obtain ⟨d, path', rfl⟩ := List.exists_cons_of_ne_nil hpath'
        have hline : path ++ rest = path' ++ rest' := (List.cons.inj hline).2
        by_cases hempty : path' = []
        · rw [hempty, List.nil_append] at hline
          rwa [← hline]
        · exact hshorter path' rest' hempty hline (Nat.lt_of_succ_lt_succ hlength)
    · rintro ⟨path, rest, hpath, hline, hrest, hshorter⟩
      obtain ⟨d, path, rfl⟩ := List.exists_cons_of_ne_nil hpath
      obtain ⟨rfl, rfl⟩ := List.cons.inj hline
      by_cases hempty : path = []
      · left
        rwa [hempty]
      · right
        have hlength : [c].length < (c :: path).length :=
          Nat.succ_lt_succ (List.length_pos_iff.mpr hempty)
        refine ⟨hshorter [c] _ (by simp) rfl hlength, path, rest, hempty, rfl, hrest, ?_⟩
        intro path' rest' hpath' hline' hlength'
        exact hshorter (c :: path') rest' (by simp) (congrArg (c :: ·) hline')
          (Nat.succ_lt_succ hlength')

/-- The heading that is found is the one with the shortest path. -/
theorem placedHeading?_eq_some_iff {line : Text} {heading : Heading} :
    placedHeading? line = some heading ↔
      ∃ path digits severity message, Matches line path digits severity message ∧
        heading = ⟨severity.kindOf message, digits, message⟩ := by
  rw [placedHeading?_eq_some]
  constructor
  · rintro ⟨path, rest, hpath, hline, hrest, hshorter⟩
    obtain ⟨digits, severity, message, rfl, hdigits, hdecimal, rfl⟩ :=
      headingBehindPath?_eq_some_iff.mp hrest
    refine ⟨path, digits, severity, message, ⟨⟨hline, hpath, hdigits, hdecimal⟩, ?_⟩, rfl⟩
    intro path' digits' severity' message' hreads
    by_contra hless
    have hnone := hshorter path' _ hreads.path_ne_nil hreads.line_eq (Nat.lt_of_not_le hless)
    rw [headingBehindPath?_digits hreads.digits_ne_nil hreads.isDecimal] at hnone
    contradiction
  · rintro ⟨path, digits, severity, message, ⟨hreads, hshortest⟩, rfl⟩
    refine ⟨path, _, hreads.path_ne_nil, hreads.line_eq,
      headingBehindPath?_digits hreads.digits_ne_nil hreads.isDecimal severity message, ?_⟩
    intro path' rest' hpath' hline hlength
    rw [Option.eq_none_iff_forall_ne_some]
    intro heading hheading
    obtain ⟨digits', severity', message', rfl, hdigits, hdecimal, -⟩ :=
      headingBehindPath?_eq_some_iff.mp hheading
    have hle := hshortest path' digits' severity' message' ⟨hline, hpath', hdigits, hdecimal⟩
    exact absurd hlength (Nat.not_lt.mpr hle)

theorem placedHeading?_ne_none {path rest : Text} (hpath : path ≠ [])
    (h : headingBehindPath? rest ≠ none) : placedHeading? (path ++ rest) ≠ none := by
  induction path with
  | nil => contradiction
  | cons c path ih =>
    rw [List.cons_append, placedHeading?, Option.orElse_eq_orElse, Option.orElse_eq_or, ne_eq,
      Option.or_eq_none_iff]
    rintro ⟨hhere, hlater⟩
    by_cases hempty : path = []
    · rw [hempty, List.nil_append] at hhere
      exact h hhere
    · exact ih hempty hlater

/-- No heading is found exactly if the line cannot be read as one. -/
theorem placedHeading?_eq_none_iff {line : Text} :
    placedHeading? line = none ↔
      ∀ path digits severity message, ¬ReadsAs line path digits severity message := by
  constructor
  · intro hnone path digits severity message hreads
    rw [hreads.line_eq] at hnone
    refine placedHeading?_ne_none hreads.path_ne_nil ?_ hnone
    rw [headingBehindPath?_digits hreads.digits_ne_nil hreads.isDecimal]
    exact Option.some_ne_none _
  · intro hnone
    rw [Option.eq_none_iff_forall_ne_some]
    intro heading hheading
    obtain ⟨path, digits, severity, message, hmatches, -⟩ := placedHeading?_eq_some_iff.mp hheading
    exact hnone path digits severity message hmatches.toReadsAs

theorem unplacedHeading?_eq_some_iff {line : Text} {heading : Heading} :
    unplacedHeading? line = some heading ↔
      ∃ (severity : Severity) (message : Text), line = severity.unplacedLabel ++ message ∧
        heading = ⟨severity.kindOf message, [], message⟩ := by
  constructor
  · intro h
    simp only [unplacedHeading?, Option.orElse_eq_orElse, Option.orElse_eq_or,
      Option.or_eq_some_iff, Option.map_eq_some_iff,
      List.isPrefixOf?_eq_some_iff_append_eq] at h
    rcases h with ⟨rest, rfl, rfl⟩ | ⟨-, ⟨rest, rfl, rfl⟩ | ⟨-, rest, rfl, rfl⟩⟩
    · exact ⟨.error, rest, rfl, rfl⟩
    · exact ⟨.warning, rest, rfl, by rw [Severity.kind_eq_kindOf]⟩
    · exact ⟨.note, rest, rfl, rfl⟩
  · rintro ⟨severity, message, rfl, rfl⟩
    rw [← Severity.kind_eq_kindOf]
    cases severity <;> rfl

theorem opening?_eq_some_iff {line : Text} {heading : Heading} :
    opening? line = some heading ↔ Opens line heading := by
  rw [opening?, Option.orElse_eq_orElse, Option.orElse_eq_or, Option.or_eq_some_iff,
    placedHeading?_eq_some_iff, unplacedHeading?_eq_some_iff, placedHeading?_eq_none_iff]
  constructor
  · rintro (⟨path, digits, severity, message, hmatches, rfl⟩ | ⟨hnone, severity, message, rfl, rfl⟩)
    · exact .placed hmatches
    · exact .unplaced hnone
  · intro hopens
    cases hopens with
    | placed hmatches => exact .inl ⟨_, _, _, _, hmatches, rfl⟩
    | unplaced hnone => exact .inr ⟨hnone, _, _, rfl, rfl⟩

/-! ## Counts -/

theorem opening?_eq_none_of_not_mem {line : Text} (h : ':' ∉ line) : opening? line = none := by
  have hplaced : placedHeading? line = none := by
    induction line with
    | nil => rfl
    | cons c line ih =>
      have hline : ':' ∉ line := fun hmem => h (List.mem_cons_of_mem _ hmem)
      have hbehind : headingBehindPath? line = none := by
        apply headingBehindPath?_eq_none
        rintro d hd rfl
        exact hline (List.mem_of_mem_head? hd)
      rw [placedHeading?, hbehind, ih hline]
      rfl
  have hlabel (label : Text) (hcolon : ':' ∈ label) : label.isPrefixOf? line = none := by
    rw [Option.eq_none_iff_forall_ne_some]
    intro rest hrest
    rw [List.isPrefixOf?_eq_some_iff_append_eq] at hrest
    rw [← hrest] at h
    exact h (List.mem_append_left rest hcolon)
  rw [opening?, hplaced, unplacedHeading?, hlabel _ (by decide), hlabel _ (by decide),
    hlabel _ (by decide)]
  rfl

theorem opening?_eq_none_of_isCount {line : Text} (h : isCount line = true) :
    opening? line = none := by
  apply opening?_eq_none_of_not_mem
  rw [isCount, Bool.and_eq_true] at h
  obtain ⟨left, right, hline, hleft, hright⟩ := Text.exists_blanks_of_strip line
  have hword : ':' ∉ (Text.strip line).dropWhile Text.isDecimal := by
    have hplain : ∀ word ∈ [" error", " errors", " warning", " warnings"],
        ':' ∉ word.toList := by decide
    obtain ⟨word, hmem, hword⟩ := List.any_eq_true.mp h.2
    rw [← of_decide_eq_true hword]
    exact hplain word hmem
  have hdigits : ':' ∉ (Text.strip line).takeWhile Text.isDecimal := by
    intro hmem
    have hdecimal := List.all_eq_true.mp List.all_takeWhile ':' hmem
    revert hdecimal
    decide
  rw [hline, ← List.takeWhile_append_dropWhile (p := Text.isDecimal) (l := Text.strip line)]
  simp only [List.mem_append, not_or]
  refine ⟨fun hmem => ?_, ⟨hdigits, hword⟩, fun hmem => ?_⟩
  · exact absurd (hleft ':' hmem) (by decide)
  · exact absurd (hright ':' hmem) (by decide)

/-- No digit is white space. -/
theorem isBlank_of_isDecimal {c : Char} (h : Text.isDecimal c = true) : Text.isBlank c = false := by
  have hapart : ∀ range ∈ Text.blankRanges, ∀ base ∈ Text.decimalZeros,
      range.last < base ∨ base + 9 < range.first := by decide +kernel
  rw [Text.isDecimal, Text.digitValue?, Option.isSome_map, List.find?_isSome] at h
  obtain ⟨base, hbase, hrange⟩ := h
  rw [Bool.and_eq_true, decide_eq_true_iff, decide_eq_true_iff] at hrange
  rw [Text.isBlank, List.any_eq_false]
  intro range hmem
  have hrange' := hapart range hmem base hbase
  rw [CodeRange.contains, Bool.and_eq_true, decide_eq_true_iff, decide_eq_true_iff]
  omega

theorem isCount_iff {line : Text} : isCount line = true ↔ IsCountLine line := by
  have hwords : ∀ word ∈ ["error", "errors", "warning", "warnings"],
      (' ' :: word.toList).getLast?.any Text.isBlank = false := by decide
  have hlabels : ∀ word ∈ ["error", "errors", "warning", "warnings"],
      " " ++ word ∈ [" error", " errors", " warning", " warnings"] := by decide
  constructor
  · intro h
    rw [isCount, Bool.and_eq_true, decide_eq_true_iff, List.any_eq_true] at h
    obtain ⟨hdigits, word, hword, hrest⟩ := h
    obtain ⟨left, right, hline, hleft, hright⟩ := Text.exists_blanks_of_strip line
    have hdecimal : ∀ c ∈ (Text.strip line).takeWhile Text.isDecimal, Text.isDecimal c = true :=
      List.all_eq_true.mp List.all_takeWhile
    obtain ⟨plain, hplain, htail⟩ : ∃ plain ∈ ["error", "errors", "warning", "warnings"],
        word.toList = ' ' :: plain.toList := by
      simp only [List.mem_cons, List.not_mem_nil, or_false] at hword
      rcases hword with rfl | rfl | rfl | rfl <;> simp
    have hstrip : Text.strip line =
        (Text.strip line).takeWhile Text.isDecimal ++ ' ' :: plain.toList := by
      rw [← htail, of_decide_eq_true hrest, List.takeWhile_append_dropWhile]
    rw [hline, hstrip]
    exact .intro hleft hdigits hdecimal hplain hright
  · rintro @⟨left, digits, right, word, hleft, hne, hdecimal, hword, hright⟩
    have hspace : Text.isDecimal ' ' = false := by decide
    have hfirst : ∀ c ∈ (digits ++ ' ' :: word.toList).head?, Text.isBlank c = false := by
      obtain ⟨d, ds, rfl⟩ := List.exists_cons_of_ne_nil hne
      rintro c ⟨⟩
      exact isBlank_of_isDecimal (hdecimal d List.mem_cons_self)
    have hlast : ∀ c ∈ (digits ++ ' ' :: word.toList).getLast?, Text.isBlank c = false := by
      rw [List.getLast?_append_of_ne_nil _ (List.cons_ne_nil _ _)]
      exact (Option.any_eq_false _ _).mp (hwords word hword)
    rw [isCount, Text.strip_append_of_ends hleft hfirst hlast hright,
      List.takeWhile_append_of_pos hdecimal, List.dropWhile_append_of_pos hdecimal,
      List.takeWhile_cons_of_neg (by simp [hspace]), List.dropWhile_cons_of_neg (by simp [hspace]),
      List.append_nil, decide_eq_true hne, Bool.true_and, List.any_eq_true]
    exact ⟨_, hlabels word hword, by simp⟩

/-- Whether a segment begins at a line. -/
def isBoundary (line : Text) : Bool :=
  (opening? line).isSome || isCount line

theorem isBoundary_iff {line : Text} : isBoundary line = true ↔ Begins line := by
  rw [isBoundary, Bool.or_eq_true, Option.isSome_iff_exists, isCount_iff, Begins]
  simp only [opening?_eq_some_iff]

end Report

end Transcompiler
