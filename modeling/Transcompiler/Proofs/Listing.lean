/-
# What a listing comes to

A listing goes through diagnostics in turn, and showing one of them can break down. This
module says when, without showing anything: `Unshowable` lists the causes from the numbers
of a diagnostic alone, and `BreaksOff` puts them together for a list. A diagnostic that is
not shown never matters, and neither does a note, of which no number is shown.

If every shown diagnostic can be shown, the listing counts, records and shows all that it
should (`report_of_allShowable`). Otherwise it ends at the first one that cannot, which is
counted still (`report_of_unshowable`).
-/

import Mathlib.Data.Nat.Digits.Defs
import Transcompiler.Diagnostic.Listing

namespace Transcompiler

/-! ## Showing one diagnostic -/

theorem Text.length_toString_le_iff {n : Nat} :
    (toString n).length ≤ digitLimit ↔ n < 10 ^ digitLimit := by
  rw [Nat.toString_eq_ofList_toDigits, String.length_ofList]
  exact Nat.length_toDigits_le_iff (by decide) (by decide)

theorem Text.written_of_lt {n : Int} (h : n.natAbs < 10 ^ digitLimit) :
    written n = .ok (toString n) :=
  if_pos (decide_eq_true (length_toString_le_iff.mpr h))

theorem Text.written_of_le {n : Int} (h : 10 ^ digitLimit ≤ n.natAbs) :
    written n = .error .numberTooLong := by
  refine if_neg fun hwritable => ?_
  have hlt := length_toString_le_iff.mp (of_decide_eq_true hwritable)
  exact absurd h (Nat.not_le.mpr hlt)

namespace Diagnostic

/-- The line number or the column number has more digits than are written. -/
def HasLongNumber (diagnostic : Diagnostic) : Prop :=
  10 ^ Text.digitLimit ≤ diagnostic.line.natAbs ∨ 10 ^ Text.digitLimit ≤ diagnostic.column.natAbs

/-- Why a diagnostic cannot be shown. -/
inductive Unshowable (memory : Memory) (lines : List Text) (diagnostic : Diagnostic) :
    Breakdown → Prop where
  /-- A number cannot be written. It does not matter whether the line is there. -/
  | number : diagnostic.kind ≠ .note → diagnostic.HasLongNumber →
      Unshowable memory lines diagnostic .numberTooLong
  /-- The line is there, but the blanks in front of its caret cannot be counted off. -/
  | count : diagnostic.kind ≠ .note → ¬diagnostic.HasLongNumber →
      1 ≤ diagnostic.line → diagnostic.line ≤ lines.length →
      countLimit + 1 < diagnostic.column → Unshowable memory lines diagnostic .textTooLong
  /-- The line is there, but there is no room for the blanks in front of its caret. -/
  | room : diagnostic.kind ≠ .note → ¬diagnostic.HasLongNumber →
      1 ≤ diagnostic.line → diagnostic.line ≤ lines.length →
      memory.blanks + 1 < diagnostic.column → diagnostic.column ≤ countLimit + 1 →
      Unshowable memory lines diagnostic .outOfMemory

/-- The quoted line with a caret below it, whatever room it takes. -/
def quotation (lines : List Text) (line column : Int) : Text :=
  match lineAt? lines line with
  | none => []
  | some text => text ++ '\n' :: (List.replicate (indent column) ' ' ++ ['^'])

/-- The text of a diagnostic that can be shown. -/
def shownText (file : String) (lines : List Text) (diagnostic : Diagnostic) : String :=
  let heading := "Error: " ++ file ++ "."
  match diagnostic.kind with
  | .note => String.intercalate "\n" [heading, String.ofList diagnostic.message, ""]
  | kind =>
    String.intercalate "\n"
      [ heading,
        "Line " ++ toString diagnostic.line ++ " At " ++ toString diagnostic.column ++ ": " ++
          kind.name ++ ": " ++ String.ofList diagnostic.headline,
        String.ofList (quotation lines diagnostic.line diagnostic.column),
        "" ]

theorem lineAt?_eq_none_iff {lines : List Text} {number : Int} :
    lineAt? lines number = none ↔ ¬(1 ≤ number ∧ number ≤ lines.length) := by
  rw [lineAt?]
  split_ifs with hnumber
  · rw [List.getElem?_eq_none_iff]
    omega
  · exact iff_of_true rfl fun h => hnumber h.1

theorem exists_lineAt? {lines : List Text} {number : Int} (hfirst : 1 ≤ number)
    (hlast : number ≤ lines.length) : ∃ text, lineAt? lines number = some text := by
  rw [← Option.ne_none_iff_exists', ne_eq, lineAt?_eq_none_iff, not_not]
  exact ⟨hfirst, hlast⟩

section Fragment

variable {memory : Memory} {lines : List Text} {diagnostic : Diagnostic}

theorem fragment_of_note (h : diagnostic.kind = .note) (file : String) :
    diagnostic.fragment memory file lines = .ok (diagnostic.shownText file lines) := by
  simp only [fragment, shownText, h]

theorem fragment_of_long (hkind : diagnostic.kind ≠ .note) (hlong : diagnostic.HasLongNumber)
    (file : String) : diagnostic.fragment memory file lines = .error .numberTooLong := by
  have hwritten : Text.written diagnostic.line = .error .numberTooLong ∨
      Text.written diagnostic.line = .ok (toString diagnostic.line) ∧
        Text.written diagnostic.column = .error .numberTooLong := by
    by_cases hline : 10 ^ Text.digitLimit ≤ diagnostic.line.natAbs
    · exact .inl (Text.written_of_le hline)
    · exact .inr ⟨Text.written_of_lt (Nat.lt_of_not_le hline),
        Text.written_of_le (hlong.resolve_left hline)⟩
  cases hother : diagnostic.kind with
  | note => exact absurd hother hkind
  | _ =>
    rcases hwritten with hline | ⟨hline, hcolumn⟩
    · simp only [fragment, hother, hline]
      rfl
    · simp only [fragment, hother, hline, hcolumn]
      rfl

theorem fragment_of_error (hkind : diagnostic.kind ≠ .note) (hshort : ¬diagnostic.HasLongNumber)
    {breakdown : Breakdown}
    (h : snippet memory lines diagnostic.line diagnostic.column = .error breakdown)
    (file : String) : diagnostic.fragment memory file lines = .error breakdown := by
  rw [HasLongNumber, not_or, Nat.not_le, Nat.not_le] at hshort
  cases hother : diagnostic.kind with
  | note => exact absurd hother hkind
  | _ =>
    simp only [fragment, hother, Text.written_of_lt hshort.1, Text.written_of_lt hshort.2, h]
    rfl

theorem fragment_of_ok (hkind : diagnostic.kind ≠ .note) (hshort : ¬diagnostic.HasLongNumber)
    (h : snippet memory lines diagnostic.line diagnostic.column =
      .ok (quotation lines diagnostic.line diagnostic.column))
    (file : String) :
    diagnostic.fragment memory file lines = .ok (diagnostic.shownText file lines) := by
  rw [HasLongNumber, not_or, Nat.not_le, Nat.not_le] at hshort
  cases hother : diagnostic.kind with
  | note => exact absurd hother hkind
  | _ =>
    simp only [fragment, shownText, hother, Text.written_of_lt hshort.1,
      Text.written_of_lt hshort.2, h]
    rfl

/-- What cannot be shown is not shown. -/
theorem Unshowable.fragment_eq {breakdown : Breakdown}
    (h : diagnostic.Unshowable memory lines breakdown) (file : String) :
    diagnostic.fragment memory file lines = .error breakdown := by
  cases h with
  | number hkind hlong => exact fragment_of_long hkind hlong file
  | count hkind hshort hfirst hlast hcolumn =>
    obtain ⟨text, htext⟩ := exists_lineAt? hfirst hlast
    have hindent : countLimit < indent diagnostic.column := by
      rw [indent]
      omega
    apply fragment_of_error hkind hshort
    rw [snippet, htext, pointer, if_pos hindent]
    rfl
  | room hkind hshort hfirst hlast hcolumn hcount =>
    obtain ⟨text, htext⟩ := exists_lineAt? hfirst hlast
    have hindent : memory.blanks < indent diagnostic.column := by
      rw [indent]
      omega
    have hcounted : ¬countLimit < indent diagnostic.column := by
      rw [indent]
      omega
    apply fragment_of_error hkind hshort
    rw [snippet, htext, pointer, if_neg hcounted, if_pos hindent]
    rfl

/-- A snippet is made if its line is not there or there is room for its caret. -/
theorem snippet_of_room {line column : Int}
    (h : 1 ≤ line → line ≤ lines.length → column ≤ memory.blanks + 1) :
    snippet memory lines line column = .ok (quotation lines line column) := by
  rw [snippet, quotation]
  cases hline : lineAt? lines line with
  | none => rfl
  | some text =>
    have hmem : 1 ≤ line ∧ line ≤ lines.length := by
      by_contra hout
      rw [lineAt?_eq_none_iff.mpr hout] at hline
      contradiction
    have hroom := h hmem.1 hmem.2
    have hcount := memory.blanks_le
    have hfits : indent column ≤ memory.blanks := by
      rw [indent]
      omega
    rw [pointer, if_neg (by omega), if_neg (by omega)]
    rfl

/-- What can be shown is shown. -/
theorem fragment_of_showable (h : ∀ breakdown, ¬diagnostic.Unshowable memory lines breakdown)
    (file : String) :
    diagnostic.fragment memory file lines = .ok (diagnostic.shownText file lines) := by
  by_cases hkind : diagnostic.kind = .note
  · exact fragment_of_note hkind file
  · have hshort : ¬diagnostic.HasLongNumber := fun hlong => h _ (.number hkind hlong)
    refine fragment_of_ok hkind hshort (snippet_of_room fun hfirst hlast => ?_) file
    by_contra hroom
    by_cases hcount : diagnostic.column ≤ countLimit + 1
    · exact h _ (.room hkind hshort hfirst hlast (Int.not_le.mp hroom) hcount)
    · exact h _ (.count hkind hshort hfirst hlast (Int.not_le.mp hcount))

end Fragment

/-! ## Showing one after the other -/

/-- Every diagnostic that the verbosity shows can be shown. -/
def AllShowable (verbosity : Verbosity) (memory : Memory) (lines : List Text)
    (diagnostics : List Diagnostic) : Prop :=
  ∀ diagnostic ∈ diagnostics, verbosity.shows diagnostic.kind = true →
    ∀ breakdown, ¬diagnostic.Unshowable memory lines breakdown

/-- The first diagnostic that the verbosity shows and that cannot be shown, with the
reason. -/
inductive BreaksOff (verbosity : Verbosity) (memory : Memory) (lines : List Text) :
    List Diagnostic → Breakdown → Prop where
  | intro {front rest : List Diagnostic} {diagnostic : Diagnostic} {breakdown : Breakdown} :
      AllShowable verbosity memory lines front → verbosity.shows diagnostic.kind = true →
      diagnostic.Unshowable memory lines breakdown →
      BreaksOff verbosity memory lines (front ++ diagnostic :: rest) breakdown

/-- The texts of diagnostics that can be shown, as far as the verbosity shows them. -/
def fragments (verbosity : Verbosity) (file : String) (lines : List Text)
    (diagnostics : List Diagnostic) : List String :=
  (diagnostics.filter (verbosity.shows ·.kind)).map (shownText file lines)

section Listing

variable {verbosity : Verbosity} {memory : Memory} {lines : List Text}

theorem allShowable_nil : AllShowable verbosity memory lines [] :=
  fun _ hmem => absurd hmem List.not_mem_nil

theorem allShowable_cons {diagnostic : Diagnostic} {diagnostics : List Diagnostic} :
    AllShowable verbosity memory lines (diagnostic :: diagnostics) ↔
      (verbosity.shows diagnostic.kind = true →
        ∀ breakdown, ¬diagnostic.Unshowable memory lines breakdown) ∧
      AllShowable verbosity memory lines diagnostics :=
  List.forall_mem_cons

theorem BreaksOff.not_allShowable {diagnostics : List Diagnostic} {breakdown : Breakdown}
    (h : BreaksOff verbosity memory lines diagnostics breakdown) :
    ¬AllShowable verbosity memory lines diagnostics := by
  intro hall
  cases h with
  | intro _ hshows hbroken =>
    exact hall _ (List.mem_append_right _ List.mem_cons_self) hshows _ hbroken

/-- A list either can be shown or breaks off. -/
theorem allShowable_or_breaksOff (verbosity : Verbosity) (memory : Memory) (lines : List Text)
    (diagnostics : List Diagnostic) :
    AllShowable verbosity memory lines diagnostics ∨
      ∃ breakdown, BreaksOff verbosity memory lines diagnostics breakdown := by
  induction diagnostics with
  | nil => exact .inl allShowable_nil
  | cons diagnostic diagnostics ih =>
    by_cases hfirst : verbosity.shows diagnostic.kind = true →
        ∀ breakdown, ¬diagnostic.Unshowable memory lines breakdown
    · rcases ih with hrest | ⟨breakdown, @⟨front, rest, last, _, hfront, hshows, hbroken⟩⟩
      · exact .inl (allShowable_cons.mpr ⟨hfirst, hrest⟩)
      · have hmore : AllShowable verbosity memory lines (diagnostic :: front) :=
          allShowable_cons.mpr ⟨hfirst, hfront⟩
        exact .inr ⟨breakdown, .intro hmore hshows hbroken⟩
    · push Not at hfirst
      obtain ⟨hshows, breakdown, hbroken⟩ := hfirst
      have hnone : AllShowable verbosity memory lines [] := allShowable_nil
      exact .inr ⟨breakdown, .intro hnone hshows hbroken⟩

/-- A verbosity that shows nothing has nothing to break off over. -/
theorem allShowable_of_silent (h : ∀ kind, verbosity.shows kind = false)
    (diagnostics : List Diagnostic) : AllShowable verbosity memory lines diagnostics := by
  intro diagnostic _ hshows
  rw [h] at hshows
  contradiction

/-- Less is shown in a verbosity that shows fewer kinds. -/
theorem AllShowable.of_shows {quiet : Verbosity} {diagnostics : List Diagnostic}
    (h : AllShowable verbosity memory lines diagnostics)
    (hshows : ∀ kind, quiet.shows kind = true → verbosity.shows kind = true) :
    AllShowable quiet memory lines diagnostics :=
  fun diagnostic hmem hshown => h diagnostic hmem (hshows _ hshown)

theorem BreaksOff.exists_mem {diagnostics : List Diagnostic} {breakdown : Breakdown}
    (h : BreaksOff verbosity memory lines diagnostics breakdown) :
    ∃ diagnostic ∈ diagnostics, verbosity.shows diagnostic.kind = true ∧
      diagnostic.Unshowable memory lines breakdown := by
  cases h with
  | intro _ hshows hbroken =>
    exact ⟨_, List.mem_append_right _ List.mem_cons_self, hshows, hbroken⟩

/-- A diagnostic that can be shown, or that is not shown, in front of others. -/
theorem report_cons_of_showable {diagnostic : Diagnostic}
    (h : verbosity.shows diagnostic.kind = true →
      ∀ breakdown, ¬diagnostic.Unshowable memory lines breakdown)
    (file : String) (tally : Tally) (diagnostics : List Diagnostic) :
    let rest := report verbosity memory file lines (tally.record diagnostic.kind) diagnostics
    report verbosity memory file lines tally (diagnostic :: diagnostics) =
      ⟨rest.tally, diagnostic.records verbosity file lines ++ rest.records,
        rest.texts.map (fragments verbosity file lines [diagnostic] ++ ·)⟩ := by
  intro rest
  rw [report]
  cases hshows : verbosity.shows diagnostic.kind with
  | false =>
    have hnone : fragments verbosity file lines [diagnostic] = [] := by simp [fragments, hshows]
    simp [hnone, rest]
  | true =>
    have hone : fragments verbosity file lines [diagnostic] =
        [diagnostic.shownText file lines] := by
      simp [fragments, hshows]
    simp [hone, rest, fragment_of_showable (h hshows) file, Except.map]

/-- Diagnostics that can be shown in front of others. -/
theorem report_append {front : List Diagnostic} (h : AllShowable verbosity memory lines front)
    (file : String) (tally : Tally) (diagnostics : List Diagnostic) :
    let rest := report verbosity memory file lines (tally.recordAll front) diagnostics
    report verbosity memory file lines tally (front ++ diagnostics) =
      ⟨rest.tally, front.flatMap (records verbosity file lines) ++ rest.records,
        rest.texts.map (fragments verbosity file lines front ++ ·)⟩ := by
  induction front generalizing tally with
  | nil =>
    intro rest
    have htexts : rest.texts.map (fragments verbosity file lines [] ++ ·) = rest.texts := by
      cases rest.texts <;> rfl
    rw [htexts]
    rfl
  | cons diagnostic front ih =>
    intro rest
    obtain ⟨hfirst, hfront⟩ := allShowable_cons.mp h
    have hlater := ih hfront (tally.record diagnostic.kind)
    have hfragments : fragments verbosity file lines (diagnostic :: front) =
        fragments verbosity file lines [diagnostic] ++ fragments verbosity file lines front := by
      simp only [fragments, ← List.map_append, ← List.filter_append, List.singleton_append]
    have htally : tally.recordAll (diagnostic :: front) =
        (tally.record diagnostic.kind).recordAll front := rfl
    rw [List.cons_append, report_cons_of_showable hfirst, hlater]
    simp only [rest, hfragments, htally, List.flatMap_cons, List.append_assoc]
    cases (report verbosity memory file lines
      ((tally.record diagnostic.kind).recordAll front) diagnostics).texts <;> simp [Except.map]

/-- If all that is shown can be shown, the listing is complete. -/
theorem report_of_allShowable {diagnostics : List Diagnostic}
    (h : AllShowable verbosity memory lines diagnostics) (file : String) (tally : Tally) :
    report verbosity memory file lines tally diagnostics =
      ⟨tally.recordAll diagnostics, diagnostics.flatMap (records verbosity file lines),
        .ok (fragments verbosity file lines diagnostics)⟩ := by
  have happend := report_append h file tally []
  rw [List.append_nil] at happend
  rw [happend]
  simp [report, Except.map]

/-- Otherwise the listing ends with the first diagnostic that cannot be shown, and that
one is the last counted. -/
theorem report_of_unshowable {front : List Diagnostic} {last : Diagnostic} {breakdown : Breakdown}
    (hfront : AllShowable verbosity memory lines front)
    (hshows : verbosity.shows last.kind = true)
    (hbroken : last.Unshowable memory lines breakdown)
    (rest : List Diagnostic) (file : String) (tally : Tally) :
    report verbosity memory file lines tally (front ++ last :: rest) =
      ⟨tally.recordAll (front ++ [last]),
        (front ++ [last]).flatMap (records verbosity file lines), .error breakdown⟩ := by
  have htally : tally.recordAll (front ++ [last]) = (tally.recordAll front).record last.kind := by
    rw [Tally.recordAll, List.foldl_append]
    rfl
  have hlast : report verbosity memory file lines (tally.recordAll front) (last :: rest) =
      ⟨(tally.recordAll front).record last.kind, last.records verbosity file lines,
        .error breakdown⟩ := by
    rw [report]
    simp [hshows, hbroken.fragment_eq file, Except.map]
  rw [report_append hfront, hlast, htally]
  simp [Except.map]

/-- A listing has gone through the front of its list, whether it is complete or not. -/
theorem exists_prefix_report (verbosity : Verbosity) (memory : Memory) (lines : List Text)
    (diagnostics : List Diagnostic) (file : String) (tally : Tally) :
    ∃ front, front <+: diagnostics ∧
      (report verbosity memory file lines tally diagnostics).tally = tally.recordAll front ∧
      (report verbosity memory file lines tally diagnostics).records =
        front.flatMap (records verbosity file lines) := by
  rcases allShowable_or_breaksOff verbosity memory lines diagnostics with
    hall | ⟨breakdown, @⟨front, rest, last, _, hfront, hshows, hbroken⟩⟩
  · rw [report_of_allShowable hall]
    exact ⟨diagnostics, List.prefix_rfl, rfl, rfl⟩
  · rw [report_of_unshowable hfront hshows hbroken]
    exact ⟨front ++ [last], ⟨rest, List.append_assoc front [last] rest⟩, rfl, rfl⟩

theorem BreaksOff.texts_report {diagnostics : List Diagnostic} {breakdown : Breakdown}
    (h : BreaksOff verbosity memory lines diagnostics breakdown) (file : String) (tally : Tally) :
    (report verbosity memory file lines tally diagnostics).texts = .error breakdown := by
  cases h with
  | intro hfront hshows hbroken => rw [report_of_unshowable hfront hshows hbroken]

theorem texts_report_eq_error_iff (file : String) (tally : Tally) {diagnostics : List Diagnostic}
    {breakdown : Breakdown} :
    (report verbosity memory file lines tally diagnostics).texts = .error breakdown ↔
      BreaksOff verbosity memory lines diagnostics breakdown := by
  refine ⟨fun hbroken => ?_, fun h => h.texts_report file tally⟩
  rcases allShowable_or_breaksOff verbosity memory lines diagnostics with hall | ⟨cause, hcause⟩
  · rw [report_of_allShowable hall] at hbroken
    contradiction
  · rw [hcause.texts_report file tally, Except.error.injEq] at hbroken
    rwa [← hbroken]

end Listing

end Diagnostic

/-- Room for lines of a thousand columns. -/
def smallMemory : Memory := ⟨1000, by decide⟩

end Transcompiler
