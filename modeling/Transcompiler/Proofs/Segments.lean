/-
# A report as a list of segments

`Report.parse` goes through the lines of a report once, with one diagnostic open
at a time. Here the lines are first cut in front of every heading and every
count (`Cuts`), and each segment is then looked at as a whole (`Yields`): a heading
with the lines below it is one diagnostic, and all other lines that are not blank stand
for themselves.

The main statement is `parse_eq_segments`: both ways give the same diagnostics.
What the fold does to an open diagnostic is said once, by `diagnostic_foldl_absorb`;
the rest follows the cuts, which `segments` and `segmentDiagnostics` compute. Line numbers
that are too long to be read are left out.
-/

import Mathlib.Data.List.Forall2
import Mathlib.Data.List.SplitBy
import Transcompiler.Proofs.Headings

namespace Transcompiler

namespace Text

/-- White space can be taken away around a character exactly if the character is all
that is not white space. -/
theorem strip_eq_singleton_iff {text : Text} {c : Char} (hc : isBlank c = false) :
    strip text = [c] ↔ text.filter (!isBlank ·) = [c] := by
  constructor
  · intro hstrip
    obtain ⟨left, right, htext, hleft, hright⟩ := exists_blanks_of_strip text
    have hnone (blanks : Text) (hblanks : ∀ d ∈ blanks, isBlank d = true) :
        blanks.filter (!isBlank ·) = [] := by
      simpa using hblanks
    rw [htext, hstrip, List.filter_append, List.filter_append, hnone left hleft,
      hnone right hright]
    simp [hc]
  · intro hfilter
    obtain ⟨left, right, rfl, hleft, -, hright⟩ := List.filter_eq_cons_iff.mp hfilter
    have hmiddle : ∀ d ∈ [c], isBlank d = false := by simpa using hc
    exact strip_append (by simpa using hleft) hmiddle (by simpa using hright)

theorem length_takeWhile_ne (text : Text) (c : Char) :
    (text.takeWhile (· ≠ c)).length = text.idxOf c := by
  induction text with
  | nil => rfl
  | cons d text ih =>
    by_cases hd : d = c
    · simp [hd]
    · simpa [hd] using ih

end Text

namespace Report

/-! ## Cutting a report -/

/-- The lines of a report are cut in front of every line at which a segment begins. Only
the first segment may begin with another line. -/
structure Cuts (lines : List Text) (segments : List (List Text)) : Prop where
  flatten_eq : segments.flatten = lines
  ne_nil : ∀ segment ∈ segments, segment ≠ []
  not_begins : ∀ segment ∈ segments, ∀ line ∈ segment.tail, ¬Begins line
  begins : ∀ segment ∈ segments.tail, ∀ line ∈ segment.head?, Begins line

/-- The lines of a report, cut in front of every boundary. -/
def segments (lines : List Text) : List (List Text) :=
  lines.splitBy fun _ next => !isBoundary next

/-! ## The diagnostics of a segment -/

/-- Whether a caret is all that stands on a line. -/
def isCaret (line : Text) : Bool :=
  line.filter (!Text.isBlank ·) = ['^']

/-- The lines that are not blank, without the white space around them. -/
def detailsOf (body : List Text) : List Text :=
  (body.map Text.strip).filter (· ≠ [])

/-- The column that the first caret below a quoted line gives. -/
def columnOf (body : List Text) : Nat :=
  ((body.find? isCaret).map (·.idxOf '^' + 1)).getD 1

/-- The diagnostic of a heading with the lines below it. Below a place, the first
line is passed over and the first caret gives the column. -/
def Heading.diagnostic (heading : Heading) (body : List Text) : Diagnostic :=
  let line := Text.decimalValue heading.digits
  if line = 0 then
    { kind := heading.kind
      line := 0
      column := 0
      message := Text.unlines (heading.message :: detailsOf body) }
  else
    { kind := heading.kind
      line := line
      column := columnOf (body.drop 1)
      message :=
        Text.unlines (heading.message :: detailsOf ((body.drop 1).eraseP isCaret)) }

/-- The diagnostics of lines outside of every diagnostic. -/
def looseDiagnostics (body : List Text) : List Diagnostic :=
  (detailsOf body).map (⟨.other, 0, 0, ·⟩)

/-- The diagnostics of a segment. A heading has one with the lines below it. A count has
none, and neither has the start of a report: each line there stands for itself. -/
inductive Yields : List Text → List Diagnostic → Prop where
  | heading {first : Text} {body : List Text} {heading : Heading} :
      Opens first heading → Yields (first :: body) [heading.diagnostic body]
  | count {first : Text} {body : List Text} :
      IsCountLine first → Yields (first :: body) (looseDiagnostics body)
  | start {first : Text} {body : List Text} :
      ¬Begins first → Yields (first :: body) (looseDiagnostics (first :: body))

/-- The diagnostics of a segment, from the form of its first line. -/
def segmentDiagnostics : List Text → List Diagnostic
  | [] => []
  | first :: body =>
    match opening? first with
    | some heading => [heading.diagnostic body]
    | none => looseDiagnostics (if isCount first then body else first :: body)

/-! ## Lines that are read -/

/-- The diagnostic that a heading opens, without any line below it. -/
def Heading.pending (heading : Heading) : Pending where
  kind := heading.kind
  line := Text.decimalValue heading.digits
  message := heading.message

/-- What a line of a report is, if its line number can be read. -/
def reading (text : Text) : Line :=
  match opening? text with
  | some opening =>
    .heading opening.kind (Text.decimalValue opening.digits) opening.message
  | none => if isCount text then .count else .body text

theorem digits_of_unplacedHeading? {line : Text} {heading : Heading}
    (h : unplacedHeading? line = some heading) : heading.digits = [] := by
  simp only [unplacedHeading?, Option.orElse_eq_orElse, Option.orElse_eq_or,
    Option.or_eq_some_iff, Option.map_eq_some_iff] at h
  grind

theorem ofText_eq_reading {line : Text}
    (h : ∀ heading ∈ placedHeading? line, heading.digits.length ≤ Text.digitLimit) :
    Line.ofText line = .ok (reading line) := by
  have hdigits : ∀ heading ∈ opening? line, heading.digits.length ≤ Text.digitLimit := by
    intro heading hopening
    rw [opening?, Option.orElse_eq_orElse, Option.orElse_eq_or, Option.mem_def,
      Option.or_eq_some_iff] at hopening
    rcases hopening with hplaced | ⟨-, hunplaced⟩
    · exact h heading hplaced
    · rw [digits_of_unplacedHeading? hunplaced]
      exact Nat.zero_le _
  rw [Line.ofText, reading]
  change (match opening? line with | some opening => _ | none => _) = _
  cases hopening : opening? line with
  | none => rfl
  | some heading => simp [hdigits heading hopening]

theorem reading_of_not_boundary {line : Text} (h : isBoundary line = false) :
    reading line = .body line := by
  rw [isBoundary, Bool.or_eq_false_iff] at h
  have hnone : opening? line = none := by simpa using h.1
  simp [reading, hnone, h.2]

/-! ## An open diagnostic takes lines in -/

theorem isCaret_iff {line : Text} : isCaret line = true ↔ Text.strip line = ['^'] := by
  rw [isCaret, decide_eq_true_iff]
  exact (Text.strip_eq_singleton_iff (by decide)).symm

theorem detailsOf_append (front rest : List Text) :
    detailsOf (front ++ rest) = detailsOf front ++ detailsOf rest := by
  rw [detailsOf, List.map_append, List.filter_append]
  rfl

namespace Pending

theorem absorb_source {pending : Pending} (hplaced : pending.line ≠ 0)
    (hseen : pending.sourceSeen = false) (line : Text) :
    pending.absorb line = { pending with sourceSeen := true } := by
  simp [absorb, hplaced, hseen]

/-- A line that is neither passed over nor looked at for a caret goes to the details. -/
theorem absorb_detail {pending : Pending} {line : Text}
    (h : pending.line = 0 ∨
      pending.sourceSeen = true ∧ (pending.column ≠ 0 ∨ isCaret line = false)) :
    pending.absorb line = { pending with details := pending.details ++ detailsOf [line] } := by
  have hsource : ¬(pending.line ≠ 0 ∧ ¬pending.sourceSeen) := by grind
  have hcaret : ¬(pending.line ≠ 0 ∧ pending.column = 0 ∧ Text.strip line = ['^']) := by
    rw [← isCaret_iff]
    grind
  rw [absorb]
  simp only [hsource, hcaret, if_false]
  by_cases hblank : Text.strip line = []
  · simp [detailsOf, hblank]
  · simp [detailsOf, hblank]

theorem absorb_caret {pending : Pending} {line : Text} (hplaced : pending.line ≠ 0)
    (hseen : pending.sourceSeen = true) (hcolumn : pending.column = 0)
    (hcaret : isCaret line = true) :
    pending.absorb line = { pending with column := line.idxOf '^' + 1 } := by
  have hstrip := isCaret_iff.mp hcaret
  rw [absorb, Text.length_takeWhile_ne]
  simp [hplaced, hseen, hcolumn, hstrip]

/-- Once no caret is looked for, all lines go to the details. -/
theorem foldl_absorb_of_settled {pending : Pending}
    (h : pending.line = 0 ∨ pending.sourceSeen = true ∧ pending.column ≠ 0) (body : List Text) :
    body.foldl absorb pending =
      { pending with details := pending.details ++ detailsOf body } := by
  induction body generalizing pending with
  | nil => simp [detailsOf]
  | cons line body ih =>
    have hline : pending.absorb line =
        { pending with details := pending.details ++ detailsOf [line] } :=
      absorb_detail (h.imp_right fun hplaced => ⟨hplaced.1, Or.inl hplaced.2⟩)
    have hdetails : detailsOf (line :: body) = detailsOf [line] ++ detailsOf body :=
      detailsOf_append [line] body
    rw [List.foldl_cons, hline, ih, hdetails, List.append_assoc]
    exact h

/-- As long as a caret is looked for, the first one gives the column and all other
lines go to the details. -/
theorem foldl_absorb_of_seeking {pending : Pending} (hplaced : pending.line ≠ 0)
    (hseen : pending.sourceSeen = true) (hcolumn : pending.column = 0) (body : List Text) :
    body.foldl absorb pending =
      { pending with
        column := ((body.find? isCaret).map (·.idxOf '^' + 1)).getD 0
        details := pending.details ++ detailsOf (body.eraseP isCaret) } := by
  induction body generalizing pending with
  | nil => simp [detailsOf, ← hcolumn]
  | cons line body ih =>
    rw [List.foldl_cons]
    by_cases hcaret : isCaret line = true
    · rw [absorb_caret hplaced hseen hcolumn hcaret, foldl_absorb_of_settled]
      · simp [hcaret]
      · exact Or.inr ⟨hseen, Nat.succ_ne_zero _⟩
    · have hcaret : isCaret line = false := by simpa using hcaret
      have hdetails : detailsOf (line :: body.eraseP isCaret) =
          detailsOf [line] ++ detailsOf (body.eraseP isCaret) := detailsOf_append [line] _
      rw [absorb_detail (Or.inr ⟨hseen, Or.inr hcaret⟩), ih]
      · simp [hcaret, hdetails]
      · exact hplaced
      · exact hseen
      · exact hcolumn

/-- A heading with the lines below it becomes the diagnostic of the two. -/
theorem diagnostic_foldl_absorb (heading : Heading) (body : List Text) :
    (body.foldl absorb heading.pending).diagnostic = heading.diagnostic body := by
  by_cases hplaced : Text.decimalValue heading.digits = 0
  · rw [foldl_absorb_of_settled (Or.inl hplaced)]
    simp [diagnostic, Heading.diagnostic, Heading.pending, hplaced]
  · cases body with
    | nil => simp [diagnostic, Heading.diagnostic, Heading.pending, hplaced, columnOf, detailsOf]
    | cons source body =>
      rw [List.foldl_cons, absorb_source hplaced rfl, foldl_absorb_of_seeking hplaced rfl rfl]
      cases hfind : body.find? isCaret with
      | none => simp [diagnostic, Heading.diagnostic, Heading.pending, hplaced, columnOf, hfind]
      | some line =>
        simp [diagnostic, Heading.diagnostic, Heading.pending, hplaced, columnOf, hfind]

end Pending

/-! ## Going through the lines -/

/-- Lines that are no boundary go to the diagnostic that is open. -/
theorem diagnosticsFrom_some_append (pending : Pending) {body : List Text}
    (hbody : ∀ line ∈ body, isBoundary line = false) (rest : List Text) :
    diagnosticsFrom (some pending) ((body ++ rest).map reading) =
      diagnosticsFrom (some (body.foldl Pending.absorb pending)) (rest.map reading) := by
  induction body generalizing pending with
  | nil => rfl
  | cons line body ih =>
    rw [List.cons_append, List.map_cons, reading_of_not_boundary (hbody line (by simp)),
      diagnosticsFrom, ih, List.foldl_cons]
    exact fun other hmem => hbody other (List.mem_cons_of_mem _ hmem)

/-- Lines that are no boundary stand for themselves if no diagnostic is open. -/
theorem diagnosticsFrom_none_append {body : List Text}
    (hbody : ∀ line ∈ body, isBoundary line = false) (rest : List Text) :
    diagnosticsFrom none ((body ++ rest).map reading) =
      looseDiagnostics body ++ diagnosticsFrom none (rest.map reading) := by
  induction body with
  | nil => rfl
  | cons line body ih =>
    rw [List.cons_append, List.map_cons, reading_of_not_boundary (hbody line (by simp)),
      diagnosticsFrom, ih fun other hmem => hbody other (List.mem_cons_of_mem _ hmem)]
    by_cases hblank : Text.strip line = []
    · simp [looseDiagnostics, detailsOf, hblank]
    · simp [looseDiagnostics, detailsOf, hblank]

/-- A boundary, or the end, closes the diagnostic that is open. -/
theorem diagnosticsFrom_some_of_boundary (pending : Pending) {rest : List Text}
    (hrest : ∀ line ∈ rest.head?, isBoundary line = true) :
    diagnosticsFrom (some pending) (rest.map reading) =
      pending.diagnostic :: diagnosticsFrom none (rest.map reading) := by
  cases rest with
  | nil => rfl
  | cons line rest =>
    have hline : isBoundary line = true := hrest line rfl
    rw [List.map_cons, reading]
    cases hopening : opening? line with
    | some heading => rfl
    | none =>
      have hcount : isCount line = true := by simpa [isBoundary, hopening] using hline
      rw [if_pos hcount]
      rfl

/-- The lines of a segment in front of the next one. -/
theorem diagnosticsFrom_segment {first : Text} {body rest : List Text}
    (hbody : ∀ line ∈ body, isBoundary line = false)
    (hrest : ∀ line ∈ rest.head?, isBoundary line = true) :
    diagnosticsFrom none ((first :: body ++ rest).map reading) =
      segmentDiagnostics (first :: body) ++ diagnosticsFrom none (rest.map reading) := by
  rw [segmentDiagnostics]
  cases hopening : opening? first with
  | some heading =>
    have hreading : reading first =
        .heading heading.kind (Text.decimalValue heading.digits) heading.message := by
      simp [reading, hopening]
    rw [List.cons_append, List.map_cons, hreading, diagnosticsFrom]
    change [] ++ diagnosticsFrom (some heading.pending) _ = _
    rw [diagnosticsFrom_some_append _ hbody, diagnosticsFrom_some_of_boundary _ hrest,
      Pending.diagnostic_foldl_absorb]
    rfl
  | none =>
    by_cases hcount : isCount first = true
    · have hreading : reading first = .count := by simp [reading, hopening, hcount]
      rw [List.cons_append, List.map_cons, hreading, diagnosticsFrom,
        diagnosticsFrom_none_append hbody]
      simp [hcount]
    · have hfirst : isBoundary first = false := by simp [isBoundary, hopening, hcount]
      rw [diagnosticsFrom_none_append (by simpa [hfirst] using hbody)]
      simp [hcount]

section Cuts

/-- Lines are cut into a segment and what comes behind it, up to the end. -/
theorem cut_induction {motive : List Text → Prop} (nil : motive [])
    (cons : ∀ first body rest, (∀ line ∈ body, isBoundary line = false) →
      (∀ line ∈ rest.head?, isBoundary line = true) → motive rest →
      motive (first :: body ++ rest))
    (lines : List Text) : motive lines := by
  -- Each step takes off one whole segment, so the induction is on the length.
  induction hlength : lines.length using Nat.strong_induction_on generalizing lines with
  | h length ih =>
    cases lines with
    | nil => exact nil
    | cons first lines =>
      have hbody : ∀ line ∈ lines.takeWhile (!isBoundary ·), isBoundary line = false := by
        intro line hmem
        simpa using List.all_eq_true.mp List.all_takeWhile line hmem
      have hrest : ∀ line ∈ (lines.dropWhile (!isBoundary ·)).head?, isBoundary line = true := by
        intro line hfirst
        simpa using head?_dropWhile_eq_false (!isBoundary ·) lines line hfirst
      have hshorter : (lines.dropWhile (!isBoundary ·)).length < length := by
        rw [← hlength, List.length_cons]
        exact Nat.lt_succ_of_le (List.dropWhile_suffix _).length_le
      have hstep := cons first _ _ hbody hrest (ih _ hshorter _ rfl)
      rwa [List.cons_append, List.takeWhile_append_dropWhile] at hstep

/-- The first segment ends in front of the next boundary. -/
theorem segments_cons_append {first : Text} {body rest : List Text}
    (hbody : ∀ line ∈ body, isBoundary line = false)
    (hrest : ∀ line ∈ rest.head?, isBoundary line = true) :
    segments (first :: body ++ rest) = (first :: body) :: segments rest := by
  have hchain : (first :: body).IsChain fun _ next => (!isBoundary next) = true := by
    apply List.Pairwise.isChain
    rw [List.pairwise_cons]
    constructor
    · intro next hnext
      simp [hbody next hnext]
    · apply List.pairwise_of_forall_mem_list
      intro _ _ next hnext
      simp [hbody next hnext]
  calc
    segments (first :: body ++ rest) = segments (first :: body) ++ segments rest := by
      apply List.splitBy_append
      intro _ _ line hfirst
      simp [hrest line hfirst]
    _ = _ := by
      rw [segments, List.splitBy_of_isChain (List.cons_ne_nil _ _) hchain]
      rfl

theorem diagnosticsFrom_eq_segments (lines : List Text) :
    diagnosticsFrom none (lines.map reading) = (segments lines).flatMap segmentDiagnostics := by
  induction lines using cut_induction with
  | nil => rfl
  | cons first body rest hbody hrest ih =>
    rw [segments_cons_append hbody hrest, List.flatMap_cons, ← ih,
      diagnosticsFrom_segment hbody hrest]

theorem isBoundary_eq_false_iff {line : Text} : isBoundary line = false ↔ ¬Begins line := by
  rw [← isBoundary_iff, Bool.not_eq_true]

/-- The first lines of the segments behind the first one. -/
theorem Cuts.head?_flatten {lines : List Text} {first : List Text} {rest : List (List Text)}
    (h : Cuts lines (first :: rest)) : ∀ line ∈ rest.flatten.head?, Begins line := by
  cases rest with
  | nil => simp
  | cons second rest =>
    obtain ⟨line, body, rfl⟩ := List.exists_cons_of_ne_nil (h.ne_nil second (by simp))
    rintro _ ⟨⟩
    exact h.begins _ List.mem_cons_self line rfl

/-- There is one way to cut the lines of a report. -/
theorem Cuts.eq_segments {lines : List Text} {parts : List (List Text)} (h : Cuts lines parts) :
    parts = segments lines := by
  induction parts generalizing lines with
  | nil =>
    rw [← h.flatten_eq]
    rfl
  | cons first rest ih =>
    have hrest : Cuts rest.flatten rest :=
      ⟨rfl, fun part hpart => h.ne_nil part (List.mem_cons_of_mem _ hpart),
        fun part hpart => h.not_begins part (List.mem_cons_of_mem _ hpart),
        fun part hpart => h.begins part (List.mem_of_mem_tail hpart)⟩
    have hhead := h.head?_flatten
    obtain ⟨line, body, rfl⟩ := List.exists_cons_of_ne_nil (h.ne_nil first List.mem_cons_self)
    have hbody : ∀ other ∈ body, isBoundary other = false := fun other hother =>
      isBoundary_eq_false_iff.mpr (h.not_begins _ List.mem_cons_self other hother)
    rw [← h.flatten_eq, List.flatten_cons,
      segments_cons_append hbody fun other hother => isBoundary_iff.mpr (hhead other hother),
      ← ih hrest]

/-- If a segment begins at the first line, then every segment begins where it should. -/
theorem begins_of_mem_segments {lines : List Text}
    (h : ∀ line ∈ lines.head?, isBoundary line = true) :
    ∀ part ∈ segments lines, ∀ line ∈ part.head?, Begins line := by
  induction lines using cut_induction with
  | nil => simp [segments]
  | cons first body rest hbody hrest ih =>
    rw [segments_cons_append hbody hrest]
    refine List.forall_mem_cons.mpr ⟨?_, ih hrest⟩
    rintro _ ⟨⟩
    exact isBoundary_iff.mp (h first rfl)

/-- The lines of every report can be cut. -/
theorem cuts_segments (lines : List Text) : Cuts lines (segments lines) := by
  induction lines using cut_induction with
  | nil => exact ⟨rfl, by simp [segments], by simp [segments], by simp [segments]⟩
  | cons first body rest hbody hrest ih =>
    rw [segments_cons_append hbody hrest]
    refine ⟨?_, ?_, ?_, ?_⟩
    · rw [List.flatten_cons, ih.flatten_eq]
    · exact List.forall_mem_cons.mpr ⟨List.cons_ne_nil _ _, ih.ne_nil⟩
    · refine List.forall_mem_cons.mpr ⟨fun line hline => ?_, ih.not_begins⟩
      exact isBoundary_eq_false_iff.mp (hbody line hline)
    · exact begins_of_mem_segments hrest

end Cuts

theorem mapM_ofText {lines : List Text}
    (h : ∀ line ∈ lines, Line.ofText line = .ok (reading line)) :
    lines.mapM Line.ofText = .ok (lines.map reading) := by
  induction lines with
  | nil => rfl
  | cons line lines ih =>
    rw [List.mapM_cons, h line (by simp), ih fun other hmem => h other (by simp [hmem])]
    rfl

section Yields

variable {first : Text} {body : List Text}

theorem segmentDiagnostics_of_opens {heading : Heading} (h : Opens first heading) :
    segmentDiagnostics (first :: body) = [heading.diagnostic body] := by
  rw [segmentDiagnostics, opening?_eq_some_iff.mpr h]

theorem segmentDiagnostics_of_count (h : IsCountLine first) :
    segmentDiagnostics (first :: body) = looseDiagnostics body := by
  have hcount := isCount_iff.mpr h
  rw [segmentDiagnostics, opening?_eq_none_of_isCount hcount]
  simp [hcount]

theorem segmentDiagnostics_of_start (h : ¬Begins first) :
    segmentDiagnostics (first :: body) = looseDiagnostics (first :: body) := by
  rw [← isBoundary_iff, isBoundary, Bool.or_eq_true, not_or, Option.not_isSome_iff_eq_none] at h
  simp [segmentDiagnostics, h.1, h.2]

/-- A segment yields the diagnostics that are computed for it, and no others. -/
theorem yields_iff {diagnostics : List Diagnostic} :
    Yields (first :: body) diagnostics ↔ diagnostics = segmentDiagnostics (first :: body) := by
  constructor
  · intro h
    cases h with
    | heading hopens => exact (segmentDiagnostics_of_opens hopens).symm
    | count hcount => exact (segmentDiagnostics_of_count hcount).symm
    | start hloose => exact (segmentDiagnostics_of_start hloose).symm
  · rintro rfl
    by_cases hopens : ∃ heading, Opens first heading
    · obtain ⟨heading, hopens⟩ := hopens
      rw [segmentDiagnostics_of_opens hopens]
      exact .heading hopens
    · by_cases hcount : IsCountLine first
      · rw [segmentDiagnostics_of_count hcount]
        exact .count hcount
      · have hloose : ¬Begins first := not_or.mpr ⟨hopens, hcount⟩
        rw [segmentDiagnostics_of_start hloose]
        exact .start hloose

end Yields

theorem forall₂_yields_iff {parts : List (List Text)} (h : ∀ part ∈ parts, part ≠ [])
    {diagnostics : List (List Diagnostic)} :
    List.Forall₂ Yields parts diagnostics ↔ diagnostics = parts.map segmentDiagnostics := by
  induction parts generalizing diagnostics with
  | nil => simp
  | cons part parts ih =>
    rw [List.forall_mem_cons] at h
    obtain ⟨first, body, rfl⟩ := List.exists_cons_of_ne_nil h.1
    rw [List.forall₂_cons_left_iff, List.map_cons]
    simp only [yields_iff, ih h.2]
    constructor
    · rintro ⟨_, _, rfl, rfl, rfl⟩
      rfl
    · rintro rfl
      exact ⟨_, _, rfl, rfl, rfl⟩

/-- If the line numbers in a report can be read, its lines can be cut into segments, and
however they are cut the report has the diagnostics of the segments, in their order. -/
theorem parse_eq_segments (text : Text)
    (h : ∀ line ∈ Text.reportLines text, ∀ path digits severity message,
      Matches line path digits severity message → digits.length ≤ Text.digitLimit) :
    (∃ parts diagnostics, Cuts (Text.reportLines text) parts ∧
      List.Forall₂ Yields parts diagnostics) ∧
    ∀ parts diagnostics, Cuts (Text.reportLines text) parts →
      List.Forall₂ Yields parts diagnostics → parse text = .ok diagnostics.flatten := by
  have hreadable : ∀ line ∈ Text.reportLines text, ∀ heading ∈ placedHeading? line,
      heading.digits.length ≤ Text.digitLimit := by
    intro line hline heading hheading
    obtain ⟨path, digits, severity, message, hmatches, rfl⟩ :=
      placedHeading?_eq_some_iff.mp hheading
    exact h line hline path digits severity message hmatches
  have hcuts := cuts_segments (Text.reportLines text)
  refine ⟨⟨_, _, hcuts, (forall₂_yields_iff hcuts.ne_nil).mpr rfl⟩, ?_⟩
  intro parts diagnostics hparts hyields
  have hlines : (Text.reportLines text).mapM Line.ofText =
      .ok ((Text.reportLines text).map reading) :=
    mapM_ofText fun line hmem => ofText_eq_reading (hreadable line hmem)
  rw [(forall₂_yields_iff hparts.ne_nil).mp hyields, hparts.eq_segments, parse, hlines,
    ← List.flatMap_def, ← diagnosticsFrom_eq_segments]
  rfl

/-- The segments of a report with headings of every kind, with and without a place, with
counts, and with lines outside of every diagnostic. -/
def mixedSegments : List (List Text) :=
  [ ["x"],
    ["A:3: warning: w", "s", "  ^", " ^ "],
    ["A:4: warning: [removal] r", "s"],
    ["A:15: error: e", "", " d "],
    ["A:0: note: p", "^"],
    ["Note: n", " d "],
    ["warning: [preview] u", ""],
    ["error: v"],
    [" 2 errors", " y "],
    ["1 warning"] ].map (·.map String.toList)

/-- What its segments yield. -/
def mixedDiagnostics : List (List Diagnostic) :=
  [ [⟨.other, 0, 0, "x".toList⟩],
    [⟨.warning, 3, 3, "w\n^".toList⟩],
    [⟨.mandatoryWarning, 4, 1, "[removal] r".toList⟩],
    [⟨.error, 15, 1, "e\nd".toList⟩],
    [⟨.note, 0, 0, "p\n^".toList⟩],
    [⟨.note, 0, 0, "n\nd".toList⟩],
    [⟨.mandatoryWarning, 0, 0, "[preview] u".toList⟩],
    [⟨.error, 0, 0, "v".toList⟩],
    [⟨.other, 0, 0, "y".toList⟩],
    [] ]

theorem parse_eq_segments_of_mixed_report :
    Cuts (Text.reportLines (Text.unlines mixedSegments.flatten)) mixedSegments ∧
      List.Forall₂ Yields mixedSegments mixedDiagnostics ∧
      parse (Text.unlines mixedSegments.flatten) = .ok mixedDiagnostics.flatten := by
  have hlines : Text.reportLines (Text.unlines mixedSegments.flatten) = mixedSegments.flatten := by
    decide +kernel
  have hsegments : segments mixedSegments.flatten = mixedSegments := by decide +kernel
  have hcuts : Cuts (Text.reportLines (Text.unlines mixedSegments.flatten)) mixedSegments := by
    rw [hlines]
    exact hsegments ▸ cuts_segments mixedSegments.flatten
  have hyields : List.Forall₂ Yields mixedSegments mixedDiagnostics :=
    (forall₂_yields_iff hcuts.ne_nil).mpr (by decide +kernel)
  refine ⟨hcuts, hyields, (parse_eq_segments _ ?_).2 _ _ hcuts hyields⟩
  intro line hline path digits severity message hmatches
  have hreadable : ∀ line ∈ mixedSegments.flatten, ∀ heading ∈ placedHeading? line,
      heading.digits.length ≤ Text.digitLimit := by decide +kernel
  exact hreadable line (hlines ▸ hline) _
    (placedHeading?_eq_some_iff.mpr ⟨path, digits, severity, message, hmatches, rfl⟩)

end Report

end Transcompiler
