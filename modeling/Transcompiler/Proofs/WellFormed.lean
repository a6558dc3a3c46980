/-
# Well-formed diagnostics

The Java compiler may print anything, and its report may be cut off anywhere. Still every
diagnostic that is read from a report keeps to the rules of the data: a column is known
exactly if a line is, only a line outside of every diagnostic has no severity, and below
the first line of a message stand only lines with something on them. This is
`Diagnostic.WellFormed`.

A diagnostic that is being read changes with every line, so the rules are carried along by
`Pending.Sound`, which one line keeps and from which the end of the diagnostic gives
`WellFormed`.
-/

import Transcompiler.Proofs.Lines
import Transcompiler.Proofs.Quotation

namespace Transcompiler

namespace Text

/-! ## Lines with something on them -/

/-- A line that is not empty, with no white space around it and no line break in it. -/
structure IsStrippedLine (line : Text) : Prop where
  ne_nil : line ≠ []
  stripped : strip line = line
  unbroken : Unbroken line

theorem head?_strip (text : Text) : ∀ c ∈ (strip text).head?, isBlank c = false := by
  intro c hc
  obtain ⟨suffix, hsuffix⟩ : strip text <+: text.dropWhile isBlank := by
    rw [strip, ← List.reverse_suffix, List.reverse_reverse]
    exact List.dropWhile_suffix _
  apply head?_dropWhile_eq_false isBlank text c
  rw [← hsuffix, List.head?_append, hc]
  rfl

theorem getLast?_strip (text : Text) : ∀ c ∈ (strip text).getLast?, isBlank c = false := by
  intro c hc
  rw [strip, List.getLast?_reverse] at hc
  exact head?_dropWhile_eq_false isBlank _ c hc

theorem dropWhile_eq_self {text : Text} (h : ∀ c ∈ text.head?, isBlank c = false) :
    text.dropWhile isBlank = text := by
  have hdrop : ([] ++ text).dropWhile isBlank = text := dropWhile_append_of_blank (by simp) h
  rwa [List.nil_append] at hdrop

theorem strip_strip (text : Text) : strip (strip text) = strip text := by
  have hlast : ∀ c ∈ (strip text).reverse.head?, isBlank c = false := by
    rw [List.head?_reverse]
    exact getLast?_strip text
  rw [strip, dropWhile_eq_self (head?_strip text), dropWhile_eq_self hlast, List.reverse_reverse]

theorem Unbroken.strip {text : Text} (h : Unbroken text) : Unbroken (strip text) := by
  obtain ⟨left, right, htext, -, -⟩ := exists_blanks_of_strip text
  intro c hc
  apply h c
  rw [htext]
  simp [hc]

theorem isStrippedLine_strip {text : Text} (h : Unbroken text) (hne : strip text ≠ []) :
    IsStrippedLine (strip text) :=
  ⟨hne, strip_strip text, h.strip⟩

theorem Unbroken.not_mem {text : Text} (h : Unbroken text) : '\n' ∉ text := by
  intro hmem
  exact absurd (h '\n' hmem) (by decide)

theorem unbroken_of_mem_reportLines (text : Text) : ∀ line ∈ reportLines text, Unbroken line := by
  have hempty : Unbroken [] := unbroken_of_all rfl
  fun_induction reportLines text with
  | case1 => simp
  | case2 cs ih => exact List.forall_mem_cons.mpr ⟨hempty, ih⟩
  | case3 c cs _ hbreak ih => exact List.forall_mem_cons.mpr ⟨hempty, ih⟩
  | case4 c cs _ hbreak hlines ih =>
    have hc : Unbroken [c] := by simpa [Unbroken] using hbreak
    simpa using hc
  | case5 c cs _ hbreak line rest hlines ih =>
    rw [hlines, List.forall_mem_cons] at ih
    have hline : Unbroken (c :: line) :=
      List.forall_mem_cons.mpr ⟨by simpa using hbreak, ih.1⟩
    exact List.forall_mem_cons.mpr ⟨hline, ih.2⟩

/-- The lines of joined lines are these lines. -/
theorem lines_unlines {line : Text} {lines : List Text} (hline : '\n' ∉ line)
    (h : ∀ other ∈ lines, '\n' ∉ other) : Text.lines (unlines (line :: lines)) = line :: lines := by
  induction lines generalizing line with
  | nil =>
    have hjoined : unlines [line] = line := by simp [unlines]
    rw [hjoined, lines_of_not_mem hline]
  | cons next lines ih =>
    have hjoined : unlines (line :: next :: lines) = line ++ '\n' :: unlines (next :: lines) := by
      simp [unlines, List.intercalate]
    rw [hjoined, lines_append hline, ih (h next (by simp))]
    exact fun other hmem => h other (List.mem_cons_of_mem _ hmem)

theorem takeWhile_of_lines {text line : Text} {rest : List Text}
    (h : Text.lines text = line :: rest) : text.takeWhile (· ≠ '\n') = line := by
  have htake (front : Text) (hfront : '\n' ∉ front) (behind : Text) :
      (front ++ behind).takeWhile (· ≠ '\n') = front ++ behind.takeWhile (· ≠ '\n') := by
    apply List.takeWhile_append_of_pos
    intro c hc
    exact decide_eq_true fun heq => hfront (heq ▸ hc)
  induction text using lines_induction with
  | last text hmem =>
    rw [lines_of_not_mem hmem] at h
    have hwhole := htake text hmem []
    rw [List.append_nil] at hwhole
    rw [hwhole, ← (List.cons.inj h).1]
    simp
  | more first behind hfirst _ =>
    rw [lines_append hfirst] at h
    rw [htake first hfirst, (List.cons.inj h).1]
    simp

end Text

namespace Report

/-! ## Headings -/

theorem Severity.kindOf_ne_other (severity : Severity) (message : Text) :
    severity.kindOf message ≠ .other := by
  cases severity with
  | error => simp [kindOf]
  | note => simp [kindOf]
  | warning =>
    rw [kindOf]
    split_ifs <;> simp

theorem Opens.kind_ne_other {line : Text} {heading : Heading} (h : Opens line heading) :
    heading.kind ≠ .other := by
  cases h with
  | placed => exact Severity.kindOf_ne_other _ _
  | unplaced => exact Severity.kindOf_ne_other _ _

/-- The message of a heading ends its line. -/
theorem Opens.suffix {line : Text} {heading : Heading} (h : Opens line heading) :
    heading.message <:+ line := by
  cases h with
  | @placed line path digits severity message hmatches =>
    refine ⟨path ++ ':' :: (digits ++ (": ".toList ++ severity.label)), ?_⟩
    simp [hmatches.line_eq]
  | unplaced => exact List.suffix_append _ _

end Report

namespace Diagnostic

/-- The rules that hold of the diagnostics of a report. -/
structure WellFormed (diagnostic : Diagnostic) : Prop where
  line_nonneg : 0 ≤ diagnostic.line
  column_nonneg : 0 ≤ diagnostic.column
  /-- A column is known exactly if a line is. -/
  column_eq_zero_iff : diagnostic.column = 0 ↔ diagnostic.line = 0
  /-- What has no severity has no place. -/
  line_of_other : diagnostic.kind = .other → diagnostic.line = 0
  /-- What has no severity is one line. -/
  message_of_other : diagnostic.kind = .other → Text.IsStrippedLine diagnostic.message
  /-- Below its first line, a message has no empty lines and no white space around any. -/
  further : ∀ line ∈ (Text.lines diagnostic.message).tail, Text.IsStrippedLine line

/-- What a diagnostic has from the line that opened it. -/
def opening (diagnostic : Diagnostic) : DiagnosticKind × Int × Text :=
  (diagnostic.kind, diagnostic.line, diagnostic.headline)

end Diagnostic

namespace Report

/-! ## Lines in turn -/

namespace Pending

/-- What holds of a diagnostic at every line that it takes in. -/
structure Sound (pending : Pending) : Prop where
  kind_ne_other : pending.kind ≠ .other
  message_unbroken : Text.Unbroken pending.message
  /-- Without a place, no column is looked for. -/
  column_eq_zero : pending.line = 0 → pending.column = 0
  details : ∀ detail ∈ pending.details, Text.IsStrippedLine detail

/-- What an open diagnostic has from its heading. -/
def opening (pending : Pending) : DiagnosticKind × Int × Text :=
  (pending.kind, pending.line, pending.message)

theorem opening_absorb (pending : Pending) (line : Text) :
    (pending.absorb line).opening = pending.opening := by
  simp only [absorb]
  split_ifs <;> rfl

/-- One line keeps a diagnostic sound. -/
theorem Sound.absorb {pending : Pending} (h : pending.Sound) {line : Text}
    (hline : Text.Unbroken line) : (pending.absorb line).Sound := by
  simp only [Pending.absorb]
  split_ifs with hsource hblank hcaret
  · exact { h with }
  · exact h
  · exact { h with column_eq_zero := fun hplace => absurd hplace hcaret.1 }
  · refine { h with details := ?_ }
    intro detail hdetail
    rcases List.mem_append.mp hdetail with hdetail | hdetail
    · exact h.details detail hdetail
    · rw [List.mem_singleton.mp hdetail]
      exact Text.isStrippedLine_strip hline hblank

theorem Sound.lines_message {pending : Pending} (h : pending.Sound) :
    Text.lines pending.diagnostic.message = pending.message :: pending.details :=
  Text.lines_unlines h.message_unbroken.not_mem
    fun detail hdetail => (h.details detail hdetail).unbroken.not_mem

/-- The end of a sound diagnostic is well formed. -/
theorem Sound.wellFormed {pending : Pending} (h : pending.Sound) :
    pending.diagnostic.WellFormed where
  line_nonneg := Int.natCast_nonneg _
  column_nonneg := by
    simp only [diagnostic]
    split_ifs <;> omega
  column_eq_zero_iff := by
    have hcolumn := h.column_eq_zero
    simp only [diagnostic]
    split_ifs <;> omega
  line_of_other := fun hkind => absurd hkind h.kind_ne_other
  message_of_other := fun hkind => absurd hkind h.kind_ne_other
  further := by
    rw [h.lines_message]
    exact h.details

theorem Sound.opening_diagnostic {pending : Pending} (h : pending.Sound) :
    pending.diagnostic.opening = pending.opening := by
  have hheadline : pending.diagnostic.headline = pending.message :=
    Text.takeWhile_of_lines h.lines_message
  rw [Diagnostic.opening, hheadline]
  rfl

end Pending

namespace Line

/-- What holds of the lines of a report once they are read. -/
def Sound : Line → Prop
  | .heading kind _ message => kind ≠ .other ∧ Text.Unbroken message
  | .count => True
  | .body text => Text.Unbroken text

/-- What a line says about the diagnostic that it opens. -/
def opening? : Line → Option (DiagnosticKind × Int × Text)
  | .heading kind line message => some (kind, line, message)
  | .count => none
  | .body _ => none

end Line

/-- Diagnostics keep to the rules, and those with a severity have the openings of some
headings, in their order. -/
structure Conforms (diagnostics : List Diagnostic)
    (openings : List (DiagnosticKind × Int × Text)) : Prop where
  wellFormed : ∀ diagnostic ∈ diagnostics, diagnostic.WellFormed
  openings_eq : (diagnostics.filter (·.kind ≠ .other)).map Diagnostic.opening = openings

theorem conforms_nil : Conforms [] [] :=
  ⟨by simp, rfl⟩

theorem Conforms.append {front rest : List Diagnostic}
    {openings more : List (DiagnosticKind × Int × Text)} (hfront : Conforms front openings)
    (hrest : Conforms rest more) : Conforms (front ++ rest) (openings ++ more) where
  wellFormed := List.forall_mem_append.mpr ⟨hfront.wellFormed, hrest.wellFormed⟩
  openings_eq := by
    rw [List.filter_append, List.map_append, hfront.openings_eq, hrest.openings_eq]

/-- The diagnostic that is open, if there is one, is closed. -/
theorem conforms_open {open? : Option Pending} (hopen : ∀ pending ∈ open?, pending.Sound) :
    Conforms (open?.map (·.diagnostic)).toList (open?.map (·.opening)).toList := by
  cases open? with
  | none => exact conforms_nil
  | some pending =>
    have hsound := hopen pending rfl
    have hkind : pending.diagnostic.kind ≠ .other := hsound.kind_ne_other
    constructor
    · simpa using hsound.wellFormed
    · simp [hkind, hsound.opening_diagnostic]

/-- A line outside of every diagnostic is one of its own. -/
theorem conforms_loose {text : Text} (h : Text.Unbroken text) (hne : Text.strip text ≠ []) :
    Conforms [⟨.other, 0, 0, Text.strip text⟩] [] := by
  refine ⟨List.forall_mem_singleton.mpr ?_, by simp⟩
  exact {
    line_nonneg := Int.le_refl 0
    column_nonneg := Int.le_refl 0
    column_eq_zero_iff := Iff.rfl
    line_of_other := fun _ => rfl
    message_of_other := fun _ => Text.isStrippedLine_strip h hne
    further := by simp [Text.lines_of_not_mem h.strip.not_mem] }

theorem sound_heading {kind : DiagnosticKind} {line : Nat} {message : Text}
    (h : (Line.heading kind line message).Sound) :
    Pending.Sound { kind := kind, line := line, message := message } where
  kind_ne_other := h.1
  message_unbroken := h.2
  column_eq_zero := fun _ => rfl
  details := by simp

/-- The diagnostics of all lines of a report. -/
theorem conforms_diagnosticsFrom {open? : Option Pending} {lines : List Line}
    (hopen : ∀ pending ∈ open?, pending.Sound) (hlines : ∀ line ∈ lines, line.Sound) :
    Conforms (diagnosticsFrom open? lines)
      ((open?.map (·.opening)).toList ++ lines.filterMap (·.opening?)) := by
  -- A heading or a count closes the diagnostic that is open. A body line only absorbs into
  -- it, so what its heading said is still owed by the rest of the lines.
  fun_induction diagnosticsFrom open? lines with
  | case1 open? =>
    rw [List.filterMap_nil, List.append_nil]
    exact conforms_open hopen
  | case2 open? lines kind line message ih =>
    rw [List.forall_mem_cons] at hlines
    apply (conforms_open hopen).append
    apply ih _ hlines.2
    rintro pending ⟨⟩
    exact sound_heading hlines.1
  | case3 open? lines ih =>
    rw [List.forall_mem_cons] at hlines
    exact (conforms_open hopen).append (ih (by simp) hlines.2)
  | case4 pending text lines ih =>
    rw [List.forall_mem_cons] at hlines
    have hrest := ih (fun _ hother => by cases hother; exact (hopen pending rfl).absorb hlines.1)
      hlines.2
    rwa [Option.map_some, pending.opening_absorb] at hrest
  | case5 text lines stripped hblank ih =>
    rw [List.forall_mem_cons] at hlines
    exact ih (by simp) hlines.2
  | case6 text lines stripped hblank ih =>
    rw [List.forall_mem_cons] at hlines
    exact (conforms_loose hlines.1 hblank).append (ih (by simp) hlines.2)

/-! ## Reports that are read -/

theorem sound_reading {line : Text} (h : Text.Unbroken line) : (reading line).Sound := by
  rw [reading]
  cases hopening : opening? line with
  | some heading =>
    have hopens := opening?_eq_some_iff.mp hopening
    exact ⟨hopens.kind_ne_other, fun c hc => h c (hopens.suffix.subset hc)⟩
  | none =>
    dsimp only
    split_ifs
    · trivial
    · exact h

/-- What a heading says about its diagnostic. -/
def Heading.opening (heading : Heading) : DiagnosticKind × Int × Text :=
  (heading.kind, Text.decimalValue heading.digits, heading.message)

theorem opening?_reading (line : Text) :
    (reading line).opening? = (opening? line).map (·.opening) := by
  rw [reading]
  cases hopening : opening? line with
  | some heading => rfl
  | none =>
    dsimp only
    split_ifs <;> rfl

/-- A report whose line numbers can all be read is read line by line. -/
theorem parse_of_readable {text : Text}
    (h : ∀ line ∈ Text.reportLines text, ∀ heading ∈ placedHeading? line,
      heading.digits.length ≤ Text.digitLimit) :
    parse text = .ok (diagnosticsFrom none ((Text.reportLines text).map reading)) := by
  rw [parse, mapM_ofText fun line hmem => ofText_eq_reading (h line hmem)]
  rfl

theorem exists_error_mapM_ofText {lines : List Text} {line : Text} {fault : LineNumberTooLong}
    (hmem : line ∈ lines) (hline : Line.ofText line = .error fault) :
    ∃ fault', lines.mapM Line.ofText = .error fault' := by
  induction hmem with
  | head lines =>
    refine ⟨fault, ?_⟩
    rw [List.mapM_cons, hline]
    rfl
  | tail first _ ih =>
    obtain ⟨fault', hrest⟩ := ih
    rw [List.mapM_cons, hrest]
    cases Line.ofText first with
    | error other => exact ⟨other, rfl⟩
    | ok read => exact ⟨fault', rfl⟩

/-- A report is refused exactly if a line number in it cannot be read. -/
theorem exists_error_parse_iff {text : Text} :
    (∃ fault, parse text = .error fault) ↔
      ∃ line ∈ Text.reportLines text, ∃ heading ∈ placedHeading? line,
        Text.digitLimit < heading.digits.length := by
  constructor
  · rintro ⟨fault, hfault⟩
    by_contra hnone
    push Not at hnone
    rw [parse_of_readable hnone] at hfault
    contradiction
  · rintro ⟨line, hmem, heading, hheading, hlong⟩
    have hline := ofText_of_placedHeading? hheading
    rw [if_pos hlong] at hline
    obtain ⟨fault, hfault⟩ := exists_error_mapM_ofText hmem hline
    refine ⟨fault, ?_⟩
    rw [parse, hfault]
    rfl

/-- The diagnostics of a report that is read keep to the rules, and have the openings of
the headings in it. -/
theorem conforms_parse {text : Text} {diagnostics : List Diagnostic}
    (h : parse text = .ok diagnostics) :
    Conforms diagnostics
      ((Text.reportLines text).filterMap fun line => (opening? line).map (·.opening)) := by
  have hreadable : ∀ line ∈ Text.reportLines text, ∀ heading ∈ placedHeading? line,
      heading.digits.length ≤ Text.digitLimit := by
    by_contra hlong
    push Not at hlong
    obtain ⟨fault, hfault⟩ := exists_error_parse_iff.mpr hlong
    rw [h] at hfault
    contradiction
  have hsound : ∀ line ∈ (Text.reportLines text).map reading, line.Sound := by
    intro read hread
    obtain ⟨line, hline, rfl⟩ := List.mem_map.mp hread
    exact sound_reading (Text.unbroken_of_mem_reportLines text line hline)
  rw [parse_of_readable hreadable] at h
  obtain rfl := Except.ok.inj h
  have hall := @conforms_diagnosticsFrom none _ (by simp) hsound
  rw [List.filterMap_map] at hall
  simpa [Function.comp_def, opening?_reading] using hall

instance (line : Text) : Decidable (∃ heading, Opens line heading) :=
  decidable_of_iff ((opening? line).isSome = true)
    (Option.isSome_iff_exists.trans (exists_congr fun _ => opening?_eq_some_iff))

/-- The line that starts a diagnostic gives it its kind, its line number and the first line
of its message. -/
def Starts (line : Text) (diagnostic : Diagnostic) : Prop :=
  ∃ heading, Opens line heading ∧ diagnostic.kind = heading.kind ∧
    diagnostic.line = Text.decimalValue heading.digits ∧ diagnostic.headline = heading.message

theorem forall₂_starts {lines : List Text} {diagnostics : List Diagnostic}
    (h : diagnostics.map Diagnostic.opening =
      lines.filterMap fun line => (opening? line).map (·.opening)) :
    List.Forall₂ Starts (lines.filter fun line => ∃ heading, Opens line heading) diagnostics := by
  induction lines generalizing diagnostics with
  | nil =>
    rw [List.filterMap_nil, List.map_eq_nil_iff] at h
    rw [h]
    exact .nil
  | cons line lines ih =>
    cases hopening : opening? line with
    | none =>
      have hnot : ¬∃ heading, Opens line heading := by
        simp [← opening?_eq_some_iff, hopening]
      rw [List.filterMap_cons_none (by rw [hopening]; rfl)] at h
      rw [List.filter_cons_of_neg (by simpa using hnot)]
      exact ih h
    | some heading =>
      have hopens := opening?_eq_some_iff.mp hopening
      rw [List.filterMap_cons_some (by rw [hopening]; rfl)] at h
      obtain ⟨first, rest, rfl, hfirst, hrest⟩ := List.map_eq_cons_iff.mp h
      rw [List.filter_cons_of_pos (by simpa using ⟨heading, hopens⟩)]
      simp only [Diagnostic.opening, Heading.opening, Prod.mk.injEq] at hfirst
      obtain ⟨hkind, hline, hheadline⟩ := hfirst
      exact .cons ⟨heading, hopens, hkind, hline, hheadline⟩ (ih hrest)

/-- Every diagnostic that is read from a report is well formed, and those with a severity
are started one by one by the headings in it. Only a line number with too many digits keeps
a report from being read. -/
theorem parse_wellFormed (text : Text) :
    (∀ diagnostics, parse text = .ok diagnostics →
      (∀ diagnostic ∈ diagnostics, diagnostic.WellFormed) ∧
        List.Forall₂ Starts
          ((Text.reportLines text).filter fun line => ∃ heading, Opens line heading)
          (diagnostics.filter (·.kind ≠ .other))) ∧
      ((∃ fault, parse text = .error fault) ↔
        ∃ line ∈ Text.reportLines text, ∃ path digits severity message,
          Matches line path digits severity message ∧ Text.digitLimit < digits.length) := by
  constructor
  · intro diagnostics hparse
    have hconforms := conforms_parse hparse
    exact ⟨hconforms.wellFormed, forall₂_starts hconforms.openings_eq⟩
  · rw [exists_error_parse_iff]
    refine exists_congr fun line => and_congr_right fun _ => ?_
    constructor
    · rintro ⟨heading, hheading, hlong⟩
      obtain ⟨path, digits, severity, message, hmatches, rfl⟩ :=
        placedHeading?_eq_some_iff.mp hheading
      exact ⟨path, digits, severity, message, hmatches, hlong⟩
    · rintro ⟨path, digits, severity, message, hmatches, hlong⟩
      exact ⟨_, placedHeading?_eq_some_iff.mpr ⟨path, digits, severity, message, hmatches, rfl⟩,
        hlong⟩

/-- A heading with the line number zero and a caret below it, one without a place, and a
line outside of both. -/
theorem parse_wellFormed_of_line_zero :
    parse "A:0: error: m\n x\n  ^\nwarning: w\n\n1 error\n y ".toList =
        .ok [⟨.error, 0, 0, "m\nx\n^".toList⟩, ⟨.warning, 0, 0, ['w']⟩, ⟨.other, 0, 0, ['y']⟩] ∧
      Diagnostic.WellFormed ⟨.error, 0, 0, "m\nx\n^".toList⟩ := by
  have hparse : parse "A:0: error: m\n x\n  ^\nwarning: w\n\n1 error\n y ".toList =
      .ok [⟨.error, 0, 0, "m\nx\n^".toList⟩, ⟨.warning, 0, 0, ['w']⟩, ⟨.other, 0, 0, ['y']⟩] := by
    decide +kernel
  exact ⟨hparse, ((parse_wellFormed _).1 _ hparse).1 _ (by simp)⟩

end Report

end Transcompiler
