/-
# Printing a report and reading it back

The Java compiler prints its messages one below the other: a heading, below a
place the quoted line and a caret under it, then details, and at the end the
counts. A `Record` is such a message, and its fields carry what keeps it apart
from its neighbours; `printed` gives the lines.

The main statement is `parse_printed`: reading what was printed gives the records
back as diagnostics, whether or not the last line ends in a line feed. A path may
not hold a colon, so the first colon of a heading with a place is the one behind
the path, whatever the message looks like.
-/

import Transcompiler.Proofs.Segments

namespace Transcompiler

namespace Text

/-! ## Lines and numbers that are written -/

/-- No character ends a line of a report. -/
def Unbroken (text : Text) : Prop :=
  ∀ c ∈ text, isLineBreak c = false

theorem Unbroken.append {front rest : Text} (hfront : Unbroken front) (hrest : Unbroken rest) :
    Unbroken (front ++ rest) := by
  intro c hc
  exact (List.mem_append.mp hc).elim (hfront c) (hrest c)

theorem unbroken_of_all {text : Text} (h : text.all (!isLineBreak ·) = true) : Unbroken text := by
  intro c hc
  simpa using List.all_eq_true.mp h c hc

theorem reportLines_cons {c : Char} (hc : isLineBreak c = false) (text : Text) :
    reportLines (c :: text) =
      match reportLines text with
      | [] => [[c]]
      | line :: rest => (c :: line) :: rest := by
  have hreturn : c ≠ '\r' := by
    rintro rfl
    contradiction
  rw [reportLines.eq_3 _ _ (fun _ h => absurd h hreturn), hc]
  rfl

theorem reportLines_append_newline {line : Text} (hline : Unbroken line) (rest : Text) :
    reportLines (line ++ '\n' :: rest) = line :: reportLines rest := by
  induction line with
  | nil =>
    rw [List.nil_append, reportLines.eq_3 _ _ (by simp)]
    rfl
  | cons c line ih =>
    rw [List.cons_append, reportLines_cons (hline c (by simp)),
      ih fun d hd => hline d (List.mem_cons_of_mem _ hd)]

theorem reportLines_of_unbroken {line : Text} (hline : Unbroken line) (hne : line ≠ []) :
    reportLines line = [line] := by
  induction line with
  | nil => contradiction
  | cons c line ih =>
    rw [reportLines_cons (hline c (by simp))]
    by_cases hend : line = []
    · rw [hend]
      rfl
    · rw [ih (fun d hd => hline d (List.mem_cons_of_mem _ hd)) hend]

/-- Lines that are each ended are the lines of the text. -/
theorem reportLines_flatMap_newline {lines : List Text} (h : ∀ line ∈ lines, Unbroken line) :
    reportLines (lines.flatMap (· ++ ['\n'])) = lines := by
  induction lines with
  | nil => rfl
  | cons line lines ih =>
    rw [List.flatMap_cons, List.append_assoc, List.singleton_append,
      reportLines_append_newline (h line (by simp)),
      ih fun other hmem => h other (List.mem_cons_of_mem _ hmem)]

/-- Lines that are joined are the lines of the text if the last one can be seen. -/
theorem reportLines_unlines {lines : List Text} (h : ∀ line ∈ lines, Unbroken line)
    (hlast : ∀ line ∈ lines.getLast?, line ≠ []) : reportLines (unlines lines) = lines := by
  induction lines with
  | nil => rfl
  | cons line lines ih =>
    cases lines with
    | nil =>
      have hjoined : unlines [line] = line := by simp [unlines]
      rw [hjoined]
      exact reportLines_of_unbroken (h line (by simp)) (hlast line rfl)
    | cons next lines =>
      have hjoined : unlines (line :: next :: lines) = line ++ '\n' :: unlines (next :: lines) := by
        simp [unlines, List.intercalate]
      rw [hjoined, reportLines_append_newline (h line (by simp)), ih]
      · exact fun other hmem => h other (List.mem_cons_of_mem _ hmem)
      · simpa using hlast

theorem toNat_of_isDigit {c : Char} (h : c.isDigit = true) : 48 ≤ c.toNat ∧ c.toNat ≤ 57 := by
  simpa [Char.isDigit, UInt32.le_iff_toNat_le] using h

theorem digitValue?_of_isDigit {c : Char} (h : c.isDigit = true) :
    digitValue? c = some (c.toNat - '0'.toNat) := by
  have hrange := toNat_of_isDigit h
  have hfind : decimalZeros.find? (fun base => base ≤ c.toNat && c.toNat < base + 10) =
      some 48 := by
    apply List.find?_cons_of_pos
    rw [Bool.and_eq_true, decide_eq_true_iff, decide_eq_true_iff]
    exact ⟨hrange.1, Nat.lt_succ_of_le hrange.2⟩
  rw [digitValue?, hfind]
  rfl

theorem isDigit_of_mem_toString {n : Nat} {c : Char} (h : c ∈ (toString n).toList) :
    c.isDigit = true := by
  rw [Nat.toString_eq_repr, Nat.toList_repr] at h
  exact Nat.isDigit_of_mem_toDigits (by decide) (by decide) h

/-- The digits that a number is written with denote the number. -/
theorem decimalValue_toString (n : Nat) : decimalValue (toString n).toList = n := by
  have hdigits : ∀ (digits : Text) (value : Nat), (∀ c ∈ digits, c.isDigit = true) →
      digits.foldl (fun value c => 10 * value + (digitValue? c).getD 0) value =
        Nat.ofDigitChars 10 digits value := by
    intro digits
    induction digits with
    | nil =>
      intro value _
      rfl
    | cons c digits ih =>
      intro value hall
      rw [List.foldl_cons, digitValue?_of_isDigit (hall c (by simp)),
        ih _ fun d hd => hall d (List.mem_cons_of_mem _ hd)]
      rfl
  calc
    decimalValue (toString n).toList = Nat.ofDigitChars 10 (toString n).toList 0 :=
      hdigits _ 0 fun _ hmem => isDigit_of_mem_toString hmem
    _ = n := by
      rw [Nat.toString_eq_repr, Nat.toList_repr]
      exact Nat.ofDigitChars_toDigits (by decide) (by decide)

theorem isDecimal_of_mem_toString {n : Nat} {c : Char} (h : c ∈ (toString n).toList) :
    isDecimal c = true := by
  rw [isDecimal, digitValue?_of_isDigit (isDigit_of_mem_toString h)]
  rfl

theorem unbroken_toString (n : Nat) : Unbroken (toString n).toList := by
  intro c hc
  have hdigit := toNat_of_isDigit (isDigit_of_mem_toString hc)
  have hapart : ∀ range ∈ lineBreakRanges, range.last < 48 ∨ 57 < range.first := by decide
  rw [isLineBreak, List.any_eq_false]
  intro range hrange
  have hrange := hapart range hrange
  rw [CodeRange.contains, Bool.and_eq_true, decide_eq_true_iff, decide_eq_true_iff]
  omega

theorem toList_toString_ne_nil (n : Nat) : (toString n).toList ≠ [] := by
  rw [Nat.toString_eq_repr, Nat.toList_repr]
  exact Nat.toDigits_ne_nil

end Text

namespace Report

/-! ## Records and how they are printed -/

/-- A place, and the line that is quoted from there. -/
structure Place where
  /-- The path of the file. -/
  path : Text
  /-- The number of the line. -/
  line : Nat
  /-- The number of the column. -/
  column : Nat
  /-- The quoted line. -/
  source : Text
  path_ne_nil : path ≠ []
  path_unbroken : Text.Unbroken path
  colon_not_mem : ':' ∉ path
  line_pos : 1 ≤ line
  line_readable : (toString line).length ≤ Text.digitLimit
  column_pos : 1 ≤ column
  source_unbroken : Text.Unbroken source
  source_plain : isBoundary source = false

namespace Place

/-- The place in front of the message. -/
def label (place : Place) : Text :=
  place.path ++ ':' :: (toString place.line).toList ++ ": ".toList

/-- The quoted line and the caret under the column. -/
def quotation (place : Place) : List Text :=
  [place.source, List.replicate (place.column - 1) ' ' ++ ['^']]

end Place

/-- A line that can stand below a message. -/
structure IsDetail (line : Text) : Prop where
  ne_nil : line ≠ []
  unbroken : Text.Unbroken line
  stripped : Text.strip line = line
  plain : isBoundary line = false

/-- A message of the compiler. -/
structure Record where
  /-- How bad it is. -/
  severity : Severity
  /-- Its place, if it has one. -/
  place : Option Place
  /-- The message. -/
  message : Text
  /-- The lines below it. -/
  details : List Text
  message_unbroken : Text.Unbroken message
  details_isDetail : ∀ line ∈ details, IsDetail line
  /-- A message without a place does not look as if it had one. -/
  not_placed : place = none → placedHeading? (severity.unplacedLabel ++ message) = none

namespace Record

/-- The first line of a record. -/
def heading (record : Record) : Text :=
  match record.place with
  | some place => place.label ++ record.severity.label ++ record.message
  | none => record.severity.unplacedLabel ++ record.message

/-- The lines below the first one. -/
def body (record : Record) : List Text :=
  (record.place.map (·.quotation)).getD [] ++ record.details

/-- The kind of a record. -/
def kind (record : Record) : DiagnosticKind :=
  record.severity.kindOf record.message

/-- A record as a diagnostic. -/
def diagnostic (record : Record) : Diagnostic where
  kind := record.kind
  line := (record.place.map (·.line)).getD 0
  column := (record.place.map (·.column)).getD 0
  message := Text.unlines (record.message :: record.details)

end Record

/-- A line with a count, as it ends a report. -/
structure CountLine where
  /-- The line. -/
  text : Text
  isCount_text : isCount text = true
  unbroken : Text.Unbroken text

/-- The lines of a report of records, with counts at the end. -/
def printed (records : List Record) (counts : List CountLine) : List Text :=
  records.flatMap (fun record => record.heading :: record.body) ++ counts.map (·.text)

/-! ## The heading of a record -/

/-- The path of a heading ends at the first colon, if a heading begins there. -/
theorem placedHeading?_of_path {path rest : Text} {heading : Heading} (hne : path ≠ [])
    (hcolon : ':' ∉ path) (h : headingBehindPath? (':' :: rest) = some heading) :
    placedHeading? (path ++ ':' :: rest) = some heading := by
  induction path with
  | nil => contradiction
  | cons c path ih =>
    rw [List.cons_append, placedHeading?]
    cases path with
    | nil =>
      rw [List.nil_append, h]
      rfl
    | cons d path =>
      have hd : d ≠ ':' := by
        rintro rfl
        simp at hcolon
      rw [headingBehindPath?_eq_none (by simpa using hd), ih (by simp)]
      · rfl
      · exact fun hmem => hcolon (List.mem_cons_of_mem _ hmem)

namespace Record

/-- The digits of the line number, if there is one. -/
def digits (record : Record) : Text :=
  (record.place.map fun place => (toString place.line).toList).getD []

theorem opening?_heading (record : Record) :
    opening? record.heading = some ⟨record.kind, record.digits, record.message⟩ := by
  cases hplace : record.place with
  | some place =>
    have hheading : record.heading = place.path ++ ':' :: ((toString place.line).toList ++
        (": ".toList ++ (record.severity.label ++ record.message))) := by
      simp [heading, hplace, Place.label]
    have hbehind := headingBehindPath?_digits (Text.toList_toString_ne_nil place.line)
      (fun c hmem => Text.isDecimal_of_mem_toString hmem) record.severity record.message
    rw [opening?, hheading,
      placedHeading?_of_path place.path_ne_nil place.colon_not_mem hbehind]
    simp [digits, hplace, kind]
  | none =>
    have hunplaced : unplacedHeading? (record.severity.unplacedLabel ++ record.message) =
        some ⟨record.kind, [], record.message⟩ :=
      unplacedHeading?_eq_some_iff.mpr ⟨record.severity, record.message, rfl, rfl⟩
    rw [opening?, heading, hplace, record.not_placed hplace, hunplaced]
    simp [digits, hplace]

theorem isBoundary_heading (record : Record) : isBoundary record.heading = true := by
  simp [isBoundary, record.opening?_heading]

end Record

/-! ## The lines below the heading -/

section Caret

variable (blanks : Nat)

theorem isCaret_replicate : isCaret (List.replicate blanks ' ' ++ ['^']) = true := by
  have hblank : Text.isBlank ' ' = true := by decide
  have hcaret : Text.isBlank '^' = false := by decide
  simp [isCaret, hblank, hcaret]

theorem idxOf_caret : (List.replicate blanks ' ' ++ ['^']).idxOf '^' = blanks := by
  rw [List.idxOf_append_of_notMem (by simp [List.mem_replicate])]
  simp

end Caret

/-- A caret opens no diagnostic and closes none. -/
theorem isBoundary_of_isCaret {line : Text} (h : isCaret line = true) :
    isBoundary line = false := by
  have hcolon : ':' ∉ line := by
    intro hmem
    have hkept : ':' ∈ line.filter (!Text.isBlank ·) := List.mem_filter.mpr ⟨hmem, by decide⟩
    rw [isCaret, decide_eq_true_iff] at h
    rw [h] at hkept
    contradiction
  have hcount : isCount line = false := by
    rw [isCount, isCaret_iff.mp h]
    decide
  rw [isBoundary, opening?_eq_none_of_not_mem hcolon, hcount]
  rfl

theorem detailsOf_eq_self {details : List Text} (h : ∀ line ∈ details, IsDetail line) :
    detailsOf details = details := by
  have hstrip : details.map Text.strip = details := by
    rw [List.map_congr_left fun line hmem => (h line hmem).stripped]
    exact List.map_id _
  rw [detailsOf, hstrip, List.filter_eq_self]
  intro line hmem
  simpa using (h line hmem).ne_nil

namespace Record

/-- Below a heading stand the quoted line, its caret and the details. -/
theorem mem_body {record : Record} {line : Text} (h : line ∈ record.body) :
    (∃ place : Place,
      line = place.source ∨ line = List.replicate (place.column - 1) ' ' ++ ['^']) ∨
      line ∈ record.details := by
  rw [body, List.mem_append] at h
  rcases h with hquoted | hdetail
  · cases hplace : record.place with
    | none => simp [hplace] at hquoted
    | some place =>
      rw [hplace] at hquoted
      exact Or.inl ⟨place, List.mem_pair.mp hquoted⟩
  · exact Or.inr hdetail

theorem isBoundary_of_mem_body (record : Record) :
    ∀ line ∈ record.body, isBoundary line = false := by
  intro line hmem
  rcases mem_body hmem with ⟨place, rfl | rfl⟩ | hdetail
  · exact place.source_plain
  · exact isBoundary_of_isCaret (isCaret_replicate (place.column - 1))
  · exact (record.details_isDetail line hdetail).plain

/-- The segment of a record is read as the record. -/
theorem diagnostic_heading (record : Record) :
    Heading.diagnostic ⟨record.kind, record.digits, record.message⟩ record.body =
      record.diagnostic := by
  have hdetails := detailsOf_eq_self record.details_isDetail
  cases hplace : record.place with
  | none =>
    simp [Heading.diagnostic, diagnostic, digits, body, hplace, hdetails, Text.decimalValue]
  | some place =>
    have hline : Text.decimalValue record.digits = place.line := by
      rw [digits, hplace]
      exact Text.decimalValue_toString place.line
    have hpositive : place.line ≠ 0 := Nat.ne_of_gt place.line_pos
    have hbody : record.body.drop 1 =
        (List.replicate (place.column - 1) ' ' ++ ['^']) :: record.details := by
      simp [body, hplace, Place.quotation]
    have hcaret := isCaret_replicate (place.column - 1)
    have hcolumn : columnOf (record.body.drop 1) = place.column := by
      rw [hbody, columnOf, List.find?_cons_of_pos hcaret, Option.map_some, idxOf_caret]
      exact Nat.sub_add_cancel place.column_pos
    have herase : (record.body.drop 1).eraseP isCaret = record.details := by
      rw [hbody, List.eraseP_cons_of_pos hcaret]
    simp only [Heading.diagnostic, hline, hpositive, if_false, hcolumn, herase, hdetails]
    simp [diagnostic, hplace]

theorem length_digits_le (record : Record) : record.digits.length ≤ Text.digitLimit := by
  cases hplace : record.place with
  | none => simp [digits, hplace]
  | some place =>
    rw [digits, hplace]
    exact place.line_readable

theorem unbroken_heading (record : Record) : Text.Unbroken record.heading := by
  have hlabel : Text.Unbroken record.severity.label := by
    cases record.severity <;> exact Text.unbroken_of_all rfl
  have hunplaced : Text.Unbroken record.severity.unplacedLabel := by
    cases record.severity <;> exact Text.unbroken_of_all rfl
  rw [heading]
  cases record.place with
  | none => exact hunplaced.append record.message_unbroken
  | some place =>
    have hcolon : Text.Unbroken [':'] := Text.unbroken_of_all rfl
    have hplace : Text.Unbroken place.label := by
      have hnumber := hcolon.append (Text.unbroken_toString place.line)
      exact (place.path_unbroken.append hnumber).append (Text.unbroken_of_all rfl)
    exact (hplace.append hlabel).append record.message_unbroken

theorem unbroken_of_mem_body (record : Record) :
    ∀ line ∈ record.body, Text.Unbroken line := by
  intro line hmem
  rcases mem_body hmem with ⟨place, rfl | rfl⟩ | hdetail
  · exact place.source_unbroken
  · apply Text.Unbroken.append _ (Text.unbroken_of_all rfl)
    intro c hc
    rw [List.eq_of_mem_replicate hc]
    rfl
  · exact (record.details_isDetail line hdetail).unbroken

theorem ne_nil_of_getLast? (record : Record) :
    ∀ line ∈ (record.heading :: record.body).getLast?, line ≠ [] := by
  intro line hlast
  rw [body, ← List.cons_append, List.getLast?_append, Option.mem_def, Option.or_eq_some_iff]
    at hlast
  rcases hlast with hlast | ⟨-, hlast⟩
  · exact (record.details_isDetail line (List.mem_of_getLast? hlast)).ne_nil
  · cases hplace : record.place with
    | none =>
      have hline : record.heading = line := by simpa [hplace] using hlast
      rintro rfl
      have hopening := record.opening?_heading
      rw [hline] at hopening
      contradiction
    | some place =>
      have hline : List.replicate (place.column - 1) ' ' ++ ['^'] = line := by
        simpa [hplace, Place.quotation] using hlast
      rw [← hline]
      simp

theorem diagnosticsFrom_record (record : Record) {rest : List Text}
    (hrest : ∀ line ∈ rest.head?, isBoundary line = true) :
    diagnosticsFrom none ((record.heading :: record.body ++ rest).map reading) =
      record.diagnostic :: diagnosticsFrom none (rest.map reading) := by
  rw [diagnosticsFrom_segment record.isBoundary_of_mem_body hrest, segmentDiagnostics,
    record.opening?_heading, ← record.diagnostic_heading]
  rfl

end Record

/-! ## Whole reports -/

theorem CountLine.reading_text (count : CountLine) : reading count.text = .count := by
  rw [reading, opening?_eq_none_of_isCount count.isCount_text]
  simp [count.isCount_text]

theorem CountLine.text_ne_nil (count : CountLine) : count.text ≠ [] := by
  intro hempty
  have hcount := count.isCount_text
  rw [hempty] at hcount
  contradiction

theorem diagnosticsFrom_counts (counts : List CountLine) :
    diagnosticsFrom none ((counts.map (·.text)).map reading) = [] := by
  induction counts with
  | nil => rfl
  | cons count counts ih =>
    rw [List.map_cons, List.map_cons, count.reading_text, diagnosticsFrom, ih]
    rfl

section Printed

variable (records : List Record) (counts : List CountLine)

theorem isBoundary_of_head?_printed :
    ∀ line ∈ (printed records counts).head?, isBoundary line = true := by
  intro line hfirst
  cases records with
  | nil =>
    cases counts with
    | nil => contradiction
    | cons count counts =>
      cases hfirst
      simp [isBoundary, count.isCount_text]
  | cons record records =>
    cases hfirst
    exact record.isBoundary_heading

theorem printed_cons (record : Record) :
    printed (record :: records) counts =
      record.heading :: record.body ++ printed records counts := by
  simp [printed]

theorem diagnosticsFrom_printed :
    diagnosticsFrom none ((printed records counts).map reading) = records.map (·.diagnostic) := by
  induction records with
  | nil => exact diagnosticsFrom_counts counts
  | cons record records ih =>
    rw [printed_cons, record.diagnosticsFrom_record (isBoundary_of_head?_printed records counts),
      ih, List.map_cons]

/-- What is printed is a heading of a record, a line below one, or a count. -/
theorem mem_printed {line : Text} (h : line ∈ printed records counts) :
    (∃ record ∈ records, line = record.heading ∨ line ∈ record.body) ∨
      ∃ count ∈ counts, line = count.text := by
  rw [printed, List.mem_append, List.mem_flatMap, List.mem_map] at h
  rcases h with ⟨record, hrecord, hline⟩ | ⟨count, hcount, rfl⟩
  · exact Or.inl ⟨record, hrecord, List.mem_cons.mp hline⟩
  · exact Or.inr ⟨count, hcount, rfl⟩

theorem ofText_of_mem_printed {line : Text} (h : line ∈ printed records counts) :
    Line.ofText line = .ok (reading line) := by
  apply ofText_eq_reading
  intro heading hplaced
  have hopening : opening? line = some heading := by
    rw [opening?, Option.mem_def.mp hplaced]
    rfl
  rcases mem_printed records counts h with ⟨record, -, rfl | hbody⟩ | ⟨count, -, rfl⟩
  · rw [record.opening?_heading, Option.some.injEq] at hopening
    rw [← hopening]
    exact record.length_digits_le
  · have hplain := record.isBoundary_of_mem_body line hbody
    simp [isBoundary, hopening] at hplain
  · rw [opening?_eq_none_of_isCount count.isCount_text] at hopening
    contradiction

theorem unbroken_of_mem_printed {line : Text} (h : line ∈ printed records counts) :
    Text.Unbroken line := by
  rcases mem_printed records counts h with ⟨record, -, rfl | hbody⟩ | ⟨count, -, rfl⟩
  · exact record.unbroken_heading
  · exact record.unbroken_of_mem_body line hbody
  · exact count.unbroken

theorem ne_nil_of_getLast?_printed :
    ∀ line ∈ (printed records counts).getLast?, line ≠ [] := by
  induction records with
  | nil =>
    intro line hlast
    obtain ⟨count, -, rfl⟩ := List.mem_map.mp (List.mem_of_getLast? hlast)
    exact count.text_ne_nil
  | cons record records ih =>
    intro line hlast
    rw [printed_cons, List.getLast?_append, Option.mem_def, Option.or_eq_some_iff] at hlast
    rcases hlast with hlast | ⟨-, hlast⟩
    · exact ih line hlast
    · exact record.ne_nil_of_getLast? line hlast

theorem parse_of_reportLines {text : Text}
    (h : Text.reportLines text = printed records counts) :
    parse text = .ok (records.map (·.diagnostic)) := by
  have hlines := mapM_ofText fun line hmem => ofText_of_mem_printed records counts hmem
  rw [parse, h, hlines, ← diagnosticsFrom_printed records counts]
  rfl

/-- Reading what was printed gives the records back, with or without a line feed at
the end. -/
theorem parse_printed :
    parse (Text.unlines (printed records counts)) = .ok (records.map (·.diagnostic)) ∧
      parse ((printed records counts).flatMap (· ++ ['\n'])) =
        .ok (records.map (·.diagnostic)) := by
  have hunbroken : ∀ line ∈ printed records counts, Text.Unbroken line :=
    fun line hmem => unbroken_of_mem_printed records counts hmem
  constructor
  · apply parse_of_reportLines
    exact Text.reportLines_unlines hunbroken (ne_nil_of_getLast?_printed records counts)
  · apply parse_of_reportLines
    exact Text.reportLines_flatMap_newline hunbroken

end Printed

/-- An error without details as a record. -/
def Record.errorAt (place : Place) (message : Text) (h : Text.Unbroken message) : Record where
  severity := .error
  place := some place
  message := message
  details := []
  message_unbroken := h
  details_isDetail := nofun
  not_placed := nofun

theorem isDetail_caret : IsDetail ['^'] where
  ne_nil := by decide
  unbroken := Text.unbroken_of_all rfl
  stripped := by decide
  plain := by decide

/-- A warning whose message looks like a heading, and whose other lines all look like
carets. -/
def Record.lookalike : Record where
  severity := .warning
  place := some
    { path := ['A'], line := 12, column := 3, source := ['^']
      path_ne_nil := by decide
      path_unbroken := Text.unbroken_of_all rfl
      colon_not_mem := by decide
      line_pos := by decide
      line_readable := by decide
      column_pos := by decide
      source_unbroken := Text.unbroken_of_all rfl
      source_plain := by decide }
  message := "[removal] B:7: error: x".toList
  details := [['^']]
  message_unbroken := Text.unbroken_of_all rfl
  details_isDetail := by simpa using isDetail_caret
  not_placed := by simp

/-- An error in the first column, on a line that is quoted. -/
def Record.firstColumn : Record :=
  .errorAt
    { path := ['B'], line := 7, column := 1, source := ['s']
      path_ne_nil := by decide
      path_unbroken := Text.unbroken_of_all rfl
      colon_not_mem := by decide
      line_pos := by decide
      line_readable := by decide
      column_pos := by decide
      source_unbroken := Text.unbroken_of_all rfl
      source_plain := by decide }
    ['e'] (Text.unbroken_of_all rfl)

/-- A note without a place. -/
def Record.unplacedNote : Record where
  severity := .note
  place := none
  message := ['n']
  details := [['^']]
  message_unbroken := Text.unbroken_of_all rfl
  details_isDetail := by simpa using isDetail_caret
  not_placed := by decide

/-- The counts at the end of a report. -/
def bothCounts : List CountLine :=
  [⟨"1 error".toList, by decide, Text.unbroken_of_all rfl⟩,
    ⟨"1 warning".toList, by decide, Text.unbroken_of_all rfl⟩]

theorem parse_printed_of_lookalike :
    parse ("A:12: warning: [removal] B:7: error: x\n^\n  ^\n^\nB:7: error: e\ns\n^\n" ++
        "Note: n\n^\n1 error\n1 warning\n").toList =
      .ok [⟨.mandatoryWarning, 12, 3, "[removal] B:7: error: x\n^".toList⟩,
        ⟨.error, 7, 1, ['e']⟩, ⟨.note, 0, 0, "n\n^".toList⟩] := by
  let records := [Record.lookalike, Record.firstColumn, Record.unplacedNote]
  have htext : (printed records bothCounts).flatMap (· ++ ['\n']) =
      ("A:12: warning: [removal] B:7: error: x\n^\n  ^\n^\nB:7: error: e\ns\n^\n" ++
        "Note: n\n^\n1 error\n1 warning\n").toList := by decide +kernel
  have hrecords : records.map (·.diagnostic) =
      [⟨.mandatoryWarning, 12, 3, "[removal] B:7: error: x\n^".toList⟩,
        ⟨.error, 7, 1, ['e']⟩, ⟨.note, 0, 0, "n\n^".toList⟩] := by decide +kernel
  rw [← htext, (parse_printed records bothCounts).2, hrecords]

end Report

end Transcompiler
