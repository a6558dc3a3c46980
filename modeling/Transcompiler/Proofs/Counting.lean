/-
# What the text of a tally tells

A listing goes through the diagnostics of a unit in turn: each is counted, and then shown
if the verbosity shows it. A diagnostic that cannot be shown ends the listing, and those
behind it are not counted.

The text of a tally lists only the kinds that occurred, with numbers of any width, and one
label can be the end of another. `Tally.listed` reads the counts back off the text, so two
texts are equal exactly if all counts are.
-/

import Transcompiler.Proofs.Listing
import Transcompiler.Proofs.WellFormed

namespace Transcompiler

namespace Tally

/-! ## Counting -/

/-- A tally has the numbers of some diagnostics. -/
structure Counts (tally : Tally) (diagnostics : List Diagnostic) : Prop where
  count_eq : ∀ kind, tally.count kind = diagnostics.countP (·.kind = kind)
  total_eq : tally.total = diagnostics.length

theorem counts_empty : Counts {} [] :=
  ⟨fun _ => rfl, rfl⟩

/-- One diagnostic more is counted. -/
theorem Counts.record {tally : Tally} {diagnostics : List Diagnostic}
    (h : tally.Counts diagnostics) (diagnostic : Diagnostic) :
    (tally.record diagnostic.kind).Counts (diagnostics ++ [diagnostic]) where
  count_eq kind := by
    by_cases hkind : diagnostic.kind = kind
    · simp [Tally.record, hkind, h.count_eq]
    · simp [Tally.record, hkind, Ne.symm hkind, h.count_eq]
  total_eq := by simp [Tally.record, h.total_eq]

/-- Any number of diagnostics more is counted. -/
theorem Counts.recordAll {tally : Tally} {front : List Diagnostic} (h : tally.Counts front)
    (diagnostics : List Diagnostic) :
    (tally.recordAll diagnostics).Counts (front ++ diagnostics) := by
  induction diagnostics generalizing tally front with
  | nil =>
    rw [List.append_nil]
    exact h
  | cons diagnostic diagnostics ih =>
    have hrest := ih (h.record diagnostic)
    rwa [List.append_assoc] at hrest

/-- No kind is counted if nothing is. -/
theorem Counts.count_eq_zero {tally : Tally} {diagnostics : List Diagnostic}
    (h : tally.Counts diagnostics) (htotal : tally.total = 0) (kind : DiagnosticKind) :
    tally.count kind = 0 := by
  have hempty : diagnostics = [] := by
    rw [h.total_eq] at htotal
    exact List.length_eq_zero_iff.mp (Int.ofNat_eq_zero.mp htotal)
  simp [h.count_eq, hempty]

/-! ## Reading the text of a tally -/

/-- The number at the front of a line of a tally, and the words behind it. -/
def entry (line : Text) : Nat × Text :=
  let unpadded := line.dropWhile (· = ' ')
  (Text.decimalValue (unpadded.takeWhile Char.isDigit), unpadded.dropWhile Char.isDigit)

/-- The number of a kind in the text of a tally, zero if the kind is not listed. -/
def listed (text : Text) (kind : DiagnosticKind) : Nat :=
  ((((Text.lines text).map entry).find? (·.2 = ' ' :: kind.label.toList)).map (·.1)).getD 0

/-- A line of a tally with a number, padded on the left. -/
def padded (indent : Text) (n : Int) (words : Text) : Text :=
  indent ++ ((Text.alignedInThree n).toList ++ ' ' :: words)

theorem toList_alignedInThree (n : Nat) :
    (Text.alignedInThree n).toList =
      List.replicate (3 - (toString n).length) ' ' ++ (toString n).toList := by
  rw [Text.alignedInThree, String.toList_append, String.toList_ofList]
  rfl

theorem entry_of_digits {blanks digits : Text} (hblanks : ∀ c ∈ blanks, c = ' ')
    (hne : digits ≠ []) (hdigits : ∀ c ∈ digits, c.isDigit = true) (words : Text) :
    entry (blanks ++ (digits ++ ' ' :: words)) = (Text.decimalValue digits, ' ' :: words) := by
  have hunpadded : (blanks ++ (digits ++ ' ' :: words)).dropWhile (· = ' ') =
      digits ++ ' ' :: words := by
    rw [List.dropWhile_append_of_pos fun c hc => decide_eq_true (hblanks c hc)]
    obtain ⟨c, cs, rfl⟩ := List.exists_cons_of_ne_nil hne
    have hc : c ≠ ' ' := by
      rintro rfl
      exact absurd (hdigits ' ' List.mem_cons_self) (by decide)
    rw [List.cons_append, List.dropWhile_cons_of_neg (by simpa using hc)]
  have htake : (digits ++ ' ' :: words).takeWhile Char.isDigit = digits := by
    rw [List.takeWhile_append_of_pos hdigits, List.takeWhile_cons_of_neg (by decide),
      List.append_nil]
  have hdrop : (digits ++ ' ' :: words).dropWhile Char.isDigit = ' ' :: words := by
    rw [List.dropWhile_append_of_pos hdigits, List.dropWhile_cons_of_neg (by decide)]
  rw [entry, hunpadded, htake, hdrop]

theorem entry_padded {indent : Text} (hindent : ∀ c ∈ indent, c = ' ') (n : Nat) (words : Text) :
    entry (padded indent n words) = (n, ' ' :: words) := by
  have hblanks : ∀ c ∈ indent ++ List.replicate (3 - (toString n).length) ' ', c = ' ' := by
    intro c hc
    rw [List.mem_append, List.mem_replicate] at hc
    exact hc.elim (hindent c) (·.2)
  rw [padded, toList_alignedInThree, List.append_assoc, ← List.append_assoc,
    entry_of_digits hblanks (Text.toList_toString_ne_nil n)
      (fun c hc => Text.isDigit_of_mem_toString hc),
    Text.decimalValue_toString]

theorem newline_not_mem_padded {indent words : Text} (hindent : '\n' ∉ indent)
    (hwords : '\n' ∉ words) (n : Nat) : '\n' ∉ padded indent n words := by
  have hdigits : '\n' ∉ (toString n).toList := (Text.unbroken_toString n).not_mem
  have hblanks : '\n' ∉ List.replicate (3 - (toString n).length) ' ' := by simp
  rw [padded, toList_alignedInThree, List.mem_append, List.mem_append, List.mem_append,
    List.mem_cons]
  rintro (hmem | (hmem | hmem) | hmem | hmem)
  · exact hindent hmem
  · exact hblanks hmem
  · exact hdigits hmem
  · exact absurd hmem (by decide)
  · exact hwords hmem

/-- The lines of a tally that counts something. -/
theorem toList_render {tally : Tally} (h : tally.total ≠ 0) :
    tally.render.toList =
      Text.unlines (padded [] tally.total "Diagnostic messages:".toList ::
        ((DiagnosticKind.all.filter (0 < tally.count ·)).map (fun kind =>
          padded "  ".toList (tally.count kind) kind.label.toList) ++ [[]])) := by
  rw [render, if_neg h, String.toList_intercalate, Text.unlines]
  simp [padded, Function.comp_def]

theorem lines_render {tally : Tally} {diagnostics : List Diagnostic}
    (hcounts : tally.Counts diagnostics) (h : tally.total ≠ 0) :
    Text.lines tally.render.toList =
      padded [] tally.total "Diagnostic messages:".toList ::
        ((DiagnosticKind.all.filter (0 < tally.count ·)).map (fun kind =>
          padded "  ".toList (tally.count kind) kind.label.toList) ++ [[]]) := by
  rw [toList_render h, Text.lines_unlines]
  · rw [hcounts.total_eq]
    exact newline_not_mem_padded (by decide) (by decide) _
  · intro line hline
    rw [List.mem_append, List.mem_map, List.mem_singleton] at hline
    rcases hline with ⟨kind, -, rfl⟩ | rfl
    · rw [hcounts.count_eq]
      apply newline_not_mem_padded (by decide)
      cases kind <;> decide
    · exact List.not_mem_nil

theorem label_eq_iff {kind kind' : DiagnosticKind} :
    ' ' :: kind.label.toList = ' ' :: kind'.label.toList ↔ kind = kind' := by
  cases kind <;> cases kind' <;> decide

theorem find?_filter_all (p : DiagnosticKind → Bool) (kind : DiagnosticKind) :
    (DiagnosticKind.all.filter p).find? (· = kind) = if p kind then some kind else none := by
  have hmem : kind ∈ DiagnosticKind.all := by cases kind <;> decide
  split_ifs with hp
  · cases hfind : (DiagnosticKind.all.filter p).find? (· = kind) with
    | none =>
      have hnone := List.find?_eq_none.mp hfind kind (List.mem_filter.mpr ⟨hmem, hp⟩)
      simp at hnone
    | some found =>
      have hfound := List.find?_some hfind
      rw [of_decide_eq_true hfound]
  · rw [List.find?_eq_none]
    intro found hfound heq
    exact hp (of_decide_eq_true heq ▸ (List.mem_filter.mp hfound).2)

theorem map_entry_lines_render {tally : Tally} {diagnostics : List Diagnostic}
    (hcounts : tally.Counts diagnostics) (h : tally.total ≠ 0) :
    (Text.lines tally.render.toList).map entry =
      (diagnostics.length, ' ' :: "Diagnostic messages:".toList) ::
        ((DiagnosticKind.all.filter (0 < tally.count ·)).map (fun kind =>
          (diagnostics.countP (·.kind = kind), ' ' :: kind.label.toList)) ++ [(0, [])]) := by
  have hheader : entry (padded [] tally.total "Diagnostic messages:".toList) =
      (diagnostics.length, ' ' :: "Diagnostic messages:".toList) := by
    rw [hcounts.total_eq]
    exact entry_padded (by simp) _ _
  have hkind (kind : DiagnosticKind) :
      entry (padded "  ".toList (tally.count kind) kind.label.toList) =
        (diagnostics.countP (·.kind = kind), ' ' :: kind.label.toList) := by
    rw [hcounts.count_eq]
    exact entry_padded (by simp) _ _
  have hend : entry [] = (0, []) := rfl
  rw [lines_render hcounts h, List.map_cons, List.map_append, List.map_map, List.map_singleton,
    hheader, hend]
  simp only [Function.comp_def, hkind]

/-- The count of every kind can be read off the text of a tally. -/
theorem listed_render {tally : Tally} {diagnostics : List Diagnostic}
    (h : tally.Counts diagnostics) (kind : DiagnosticKind) :
    listed tally.render.toList kind = tally.count kind := by
  by_cases htotal : tally.total = 0
  · rw [render, if_pos htotal, h.count_eq_zero htotal]
    cases kind <;> decide
  · have hheader : ' ' :: "Diagnostic messages:".toList ≠ ' ' :: kind.label.toList := by
      cases kind <;> decide
    rw [listed, map_entry_lines_render h htotal,
      List.find?_cons_of_neg (by simpa using hheader), List.find?_append, List.find?_map]
    simp only [Function.comp_def, label_eq_iff, find?_filter_all]
    -- A kind that did not occur has no line, and no other line ends in its label alone.
    by_cases hpos : 0 < tally.count kind
    · rw [if_pos (decide_eq_true hpos), h.count_eq]
      rfl
    · have hzero : diagnostics.countP (·.kind = kind) = 0 := by
        rw [h.count_eq] at hpos
        omega
      rw [if_neg (by simpa using hpos), h.count_eq, hzero]
      simp

/-- Every diagnostic is of one kind. -/
theorem length_eq_countP (diagnostics : List Diagnostic) :
    diagnostics.length = diagnostics.countP (·.kind = .error) +
      diagnostics.countP (·.kind = .mandatoryWarning) + diagnostics.countP (·.kind = .note) +
      diagnostics.countP (·.kind = .other) + diagnostics.countP (·.kind = .warning) := by
  induction diagnostics with
  | nil => rfl
  | cons diagnostic diagnostics ih =>
    simp only [List.countP_cons, List.length_cons, ih]
    cases diagnostic.kind <;> simp <;> omega

theorem Counts.total_eq_sum {tally : Tally} {diagnostics : List Diagnostic}
    (h : tally.Counts diagnostics) :
    tally.total = tally.count .error + tally.count .mandatoryWarning + tally.count .note +
      tally.count .other + tally.count .warning := by
  simp only [h.total_eq, h.count_eq]
  exact_mod_cast length_eq_countP diagnostics

/-- The texts of two tallies are equal exactly if the tallies agree in every kind. -/
theorem render_eq_iff {tally tally' : Tally} {diagnostics diagnostics' : List Diagnostic}
    (h : tally.Counts diagnostics) (h' : tally'.Counts diagnostics') :
    tally.render = tally'.render ↔ ∀ kind, tally.count kind = tally'.count kind := by
  constructor
  · intro heq kind
    rw [← listed_render h kind, heq, listed_render h' kind]
  · intro hcount
    have htotal : tally.total = tally'.total := by
      simp only [h.total_eq_sum, h'.total_eq_sum, hcount]
    rw [render, render, htotal, funext hcount]

/-- A number of at most `Text.digitLimit` digits can be written. -/
theorem isWritable_of_lt {n : Nat} (h : n < 10 ^ Text.digitLimit) : Text.isWritable n = true :=
  decide_eq_true (Text.length_toString_le_iff.mpr h)

theorem Counts.written_eq {tally : Tally} {diagnostics : List Diagnostic}
    (h : tally.Counts diagnostics) (hlength : diagnostics.length < 10 ^ Text.digitLimit) :
    tally.written = .ok tally.render := by
  have hkind (kind : DiagnosticKind) : Text.isWritable (tally.count kind) = true := by
    rw [h.count_eq]
    exact isWritable_of_lt (Nat.lt_of_le_of_lt List.countP_le_length hlength)
  have htotal : Text.isWritable tally.total = true := by
    rw [h.total_eq]
    exact isWritable_of_lt hlength
  have hall : tally.numbers.all Text.isWritable = true := by
    rw [numbers]
    split_ifs
    · rfl
    · rw [List.all_cons, htotal, Bool.true_and, List.all_eq_true]
      intro n hn
      obtain ⟨kind, -, rfl⟩ := List.mem_map.mp (List.mem_filter.mp hn).1
      exact hkind kind
  rw [written, if_pos hall]

end Tally

namespace Diagnostic

/-! ## Listings and their tallies -/

section Report

variable {verbosity : Verbosity} {memory : Memory} {lines : List Text}
  {diagnostics : List Diagnostic}

/-- A listing counts some of the diagnostics, if not all of them. -/
theorem exists_counts_report (verbosity : Verbosity) (memory : Memory) (file : String)
    (lines : List Text) (diagnostics : List Diagnostic) :
    ∃ front, front <+: diagnostics ∧
      (report verbosity memory file lines {} diagnostics).tally.Counts front := by
  obtain ⟨front, hfront, htally, -⟩ :=
    exists_prefix_report verbosity memory lines diagnostics file {}
  refine ⟨front, hfront, ?_⟩
  rw [htally]
  exact Tally.counts_empty.recordAll front

theorem counts_report_of_allShowable (h : AllShowable verbosity memory lines diagnostics)
    (file : String) :
    (report verbosity memory file lines {} diagnostics).tally.Counts diagnostics := by
  rw [report_of_allShowable h]
  exact Tally.counts_empty.recordAll diagnostics

theorem render_report_of_perm {diagnostics' : List Diagnostic}
    (hperm : diagnostics.Perm diagnostics') (h : AllShowable verbosity memory lines diagnostics)
    (file : String) :
    (report verbosity memory file lines {} diagnostics).tally.render =
      (report verbosity memory file lines {} diagnostics').tally.render := by
  have hcounts := counts_report_of_allShowable h file
  have h' : AllShowable verbosity memory lines diagnostics' :=
    fun diagnostic hmem => h diagnostic (hperm.mem_iff.mpr hmem)
  have hcounts' := counts_report_of_allShowable h' file
  rw [Tally.render_eq_iff hcounts hcounts']
  intro kind
  rw [hcounts.count_eq, hcounts'.count_eq, hperm.countP_eq]

end Report

/-- A listing counts every diagnostic, and shows those that the verbosity shows, unless one
of them cannot be shown: then it counts up to that one. The text of what it counted has
every count in it, so it is the same for two listings exactly if all counts are. -/
theorem report_faithful (verbosity : Verbosity) (memory : Memory) (file : String)
    (lines : List Text) (diagnostics : List Diagnostic) :
    let listing := report verbosity memory file lines {} diagnostics
    (AllShowable verbosity memory lines diagnostics →
      listing.tally.Counts diagnostics ∧
        listing.texts = .ok (fragments verbosity file lines diagnostics)) ∧
    (∀ front last rest breakdown, diagnostics = front ++ last :: rest →
      AllShowable verbosity memory lines front → verbosity.shows last.kind = true →
      last.Unshowable memory lines breakdown →
      listing.tally.Counts (front ++ [last]) ∧ listing.texts = .error breakdown) ∧
    (verbosity = .brief ∨ verbosity = .mute → AllShowable verbosity memory lines diagnostics) ∧
    (∀ verbosity' memory' file' lines' diagnostics',
      let listing' := report verbosity' memory' file' lines' {} diagnostics'
      listing.tally.render = listing'.tally.render ↔
        ∀ kind, listing.tally.count kind = listing'.tally.count kind) ∧
    (∀ diagnostics', diagnostics.Perm diagnostics' →
      AllShowable verbosity memory lines diagnostics →
      listing.tally.render =
        (report verbosity memory file lines {} diagnostics').tally.render) ∧
    (∀ kind, Tally.listed listing.tally.render.toList kind = listing.tally.count kind) ∧
    (diagnostics.length < 10 ^ Text.digitLimit →
      listing.tally.written = .ok listing.tally.render) := by
  intro listing
  obtain ⟨counted, hprefix, hcounts⟩ : ∃ front, front <+: diagnostics ∧
      listing.tally.Counts front :=
    exists_counts_report verbosity memory file lines diagnostics
  refine ⟨fun hall => ⟨counts_report_of_allShowable hall file, ?_⟩, ?_, ?_, ?_,
    fun diagnostics' hperm hall => render_report_of_perm hperm hall file,
    Tally.listed_render hcounts,
    fun hlength => hcounts.written_eq (Nat.lt_of_le_of_lt hprefix.length_le hlength)⟩
  · simp only [listing, report_of_allShowable hall]
  · rintro front last rest breakdown rfl hfront hshows hbroken
    simp only [listing, report_of_unshowable hfront hshows hbroken]
    exact ⟨Tally.counts_empty.recordAll _, trivial⟩
  · rintro (rfl | rfl)
    · exact allShowable_of_silent (fun _ => rfl) diagnostics
    · exact allShowable_of_silent (fun _ => rfl) diagnostics
  · intro verbosity' memory' file' lines' diagnostics' listing'
    obtain ⟨_, -, hcounts'⟩ :=
      exists_counts_report verbosity' memory' file' lines' diagnostics'
    exact Tally.render_eq_iff hcounts hcounts'

/-- A warning whose blanks cannot be counted off. -/
def farWarning : Diagnostic := ⟨.warning, 1, 10000000000000000000, ['m']⟩

/-- A warning for whose blanks there is no room. -/
def broadWarning : Diagnostic := ⟨.warning, 1, 1002, ['m']⟩

/-- A warning whose line number is too long. There is no such line. -/
def longWarning : Diagnostic := ⟨.warning, (10 ^ Text.digitLimit : Nat), 1, ['m']⟩

theorem unshowable_farWarning : farWarning.Unshowable smallMemory [[]] .textTooLong := by
  have hshort : ¬farWarning.HasLongNumber := by
    unfold HasLongNumber farWarning
    decide +kernel
  exact .count (by decide) hshort (by decide) (by decide) (by decide)

theorem unshowable_broadWarning : broadWarning.Unshowable smallMemory [[]] .outOfMemory := by
  have hshort : ¬broadWarning.HasLongNumber := by
    unfold HasLongNumber broadWarning
    decide +kernel
  exact .room (by decide) hshort (by decide) (by decide) (by decide) (by decide)

theorem unshowable_longWarning : longWarning.Unshowable smallMemory [[]] .numberTooLong :=
  .number (by decide) (.inl Nat.le.refl)

/-- In full, a listing of a warning with an error behind it breaks off over the warning, and
counts nothing behind it. In brief, it counts both. -/
def BreaksOffOver (warning : Diagnostic) (breakdown : Breakdown) : Prop :=
  let diagnostics := [warning, ⟨.error, 1, 1, ['e']⟩]
  let full := report .full smallMemory "a" [[]] {} diagnostics
  let brief := report .brief smallMemory "a" [[]] {} diagnostics
  full.tally.Counts [warning] ∧ full.texts = .error breakdown ∧
    brief.tally.Counts diagnostics ∧ brief.texts = .ok []

theorem report_faithful_of_unshowable_warnings :
    BreaksOffOver farWarning .textTooLong ∧ BreaksOffOver broadWarning .outOfMemory ∧
      BreaksOffOver longWarning .numberTooLong := by
  have hover {warning : Diagnostic} {breakdown : Breakdown}
      (h : warning.Unshowable smallMemory [[]] breakdown) : BreaksOffOver warning breakdown := by
    have hfull := (report_faithful .full smallMemory "a" [[]] _).2.1 [] warning
      [⟨.error, 1, 1, ['e']⟩] breakdown rfl allShowable_nil rfl h
    have hbrief := report_faithful .brief smallMemory "a" [[]] [warning, ⟨.error, 1, 1, ['e']⟩]
    have hsilent := hbrief.1 (hbrief.2.2.1 (.inl rfl))
    exact ⟨hfull.1, hfull.2, hsilent.1, hsilent.2⟩
  exact ⟨hover unshowable_farWarning, hover unshowable_broadWarning, hover unshowable_longWarning⟩

end Diagnostic

end Transcompiler
