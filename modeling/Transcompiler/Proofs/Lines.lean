/-
# Lines under edits

An edit whose span and whose replacement hold no line feed stays on one line. A
text with such edits therefore has the lines it had, and each of them is the old
line with the edits that start on it.

The edits of a unit are of this kind: a span is an identifier, a brace or empty,
and the Java text that is put in is one line. So a place in the Java text and the
place in the unit that it comes from have the same line number.
-/

import Transcompiler.Proofs.Substitution

namespace Transcompiler

namespace Text

/-! ## One line after the other -/

theorem lines_of_not_mem {text : Text} (h : '\n' ∉ text) : lines text = [text] :=
  splitAtEvery_of_not_mem h

theorem lines_append {line : Text} (h : '\n' ∉ line) (rest : Text) :
    lines (line ++ '\n' :: rest) = line :: lines rest := by
  induction line with
  | nil => rfl
  | cons c cs ih =>
    rw [List.mem_cons, not_or] at h
    have hrest : splitAtEvery '\n' (cs ++ '\n' :: rest) = cs :: lines rest := ih h.2
    rw [List.cons_append, lines, splitAtEvery, if_neg (Ne.symm h.1), hrest]
    rfl

/-- A statement about every text, line by line. -/
@[elab_as_elim]
theorem lines_induction {motive : Text → Prop}
    (last : ∀ text, '\n' ∉ text → motive text)
    (more : ∀ line rest, '\n' ∉ line → motive rest → motive (line ++ '\n' :: rest))
    (text : Text) : motive text := by
  by_cases hmem : '\n' ∈ text
  · obtain ⟨line, rest, heq, hline⟩ := List.eq_append_cons_of_mem hmem
    have hlength : rest.length < text.length := by
      rw [heq, List.length_append, List.length_cons]
      omega
    rw [heq]
    exact more line rest hline (lines_induction last more rest)
  · exact last text hmem
termination_by text.length

/-- The offset at which a line begins, the lines being counted from zero. -/
def lineStart (text : Text) (n : Nat) : Nat :=
  (((lines text).take n).flatMap (· ++ ['\n'])).length

theorem lineStart_zero (text : Text) : lineStart text 0 = 0 := rfl

theorem lineStart_succ {line : Text} (h : '\n' ∉ line) (rest : Text) (n : Nat) :
    lineStart (line ++ '\n' :: rest) (n + 1) = line.length + 1 + lineStart rest n := by
  rw [lineStart, lines_append h, List.take_succ_cons, List.flatMap_cons, List.length_append,
    List.length_append]
  rfl

/-- A line is the stretch of its length from its beginning on. -/
theorem slice_lineStart {text line : Text} {n : Nat} (h : (lines text)[n]? = some line) :
    slice text (lineStart text n) (lineStart text n + line.length) = line := by
  induction text using lines_induction generalizing n with
  | last text hline =>
    rw [lines_of_not_mem hline, List.getElem?_singleton] at h
    split at h
    · next hzero =>
      cases h
      rw [hzero, lineStart_zero, Nat.zero_add, slice, List.take_length, List.drop_zero]
    · simp at h
  | more first rest hfirst ih =>
    rw [lines_append hfirst] at h
    cases n with
    | zero =>
      cases h
      rw [lineStart_zero, Nat.zero_add, slice, List.take_left, List.drop_zero]
    | succ n =>
      have hcut := slice_append_right (first ++ ['\n']) rest (lineStart rest n)
        (lineStart (first ++ '\n' :: rest) (n + 1) + line.length)
      have hlength : (first ++ ['\n']).length = first.length + 1 := by simp
      have hbehind : first.length + 1 + lineStart rest n + line.length - (first.length + 1) =
          lineStart rest n + line.length := by omega
      rw [hlength, ← lineStart_succ hfirst, List.append_assoc] at hcut
      rw [List.singleton_append, lineStart_succ hfirst, hbehind, ih h] at hcut
      rw [lineStart_succ hfirst]
      exact hcut

/-- A stretch that begins on a line and holds no line feed ends on that line. -/
theorem stop_le_of_not_mem_slice {line rest : Text} {start stop : Nat}
    (hstart : start ≤ line.length) (h : '\n' ∉ slice (line ++ '\n' :: rest) start stop) :
    stop ≤ line.length := by
  by_contra hstop
  apply h
  have hcut := slice_append_slice (line ++ '\n' :: rest) hstart (Nat.le_of_not_le hstop)
  have hfeed := slice_append_right line ('\n' :: rest) 0 stop
  obtain ⟨more, hmore⟩ : ∃ more, stop - line.length = more + 1 := ⟨stop - line.length - 1, by omega⟩
  rw [← hcut, List.mem_append]
  right
  rw [Nat.add_zero] at hfeed
  rw [hfeed, hmore]
  exact List.mem_cons_self

end Text

namespace Edit

/-! ## Edits of one line -/

/-- The edits that start on a line, with their offsets counted from its
beginning. An edit at the very end of a line starts on it. -/
def onLine (lineStart : Nat) (line : Text) (edits : List Edit) : List Edit :=
  (edits.filter fun edit => lineStart ≤ edit.start && edit.start ≤ lineStart + line.length).map
    (relativeTo lineStart)

/-- The edits behind the first line, counted from the line that follows. -/
def behindLine (line : Text) (edits : List Edit) : List Edit :=
  (edits.filter fun edit => !decide (edit.start ≤ line.length)).map (relativeTo (line.length + 1))

theorem relativeTo_relativeTo (first second : Nat) (edit : Edit) :
    relativeTo second (relativeTo first edit) = relativeTo (first + second) edit := by
  simp only [relativeTo, Nat.sub_sub]

theorem map_relativeTo_zero (edits : List Edit) : edits.map (relativeTo 0) = edits :=
  List.map_id edits

theorem onLine_zero (line : Text) (edits : List Edit) :
    onLine 0 line edits = edits.filter fun edit => edit.start ≤ line.length := by
  rw [onLine, map_relativeTo_zero]
  simp only [Nat.zero_le, decide_true, Bool.true_and, Nat.zero_add]

theorem simultaneous_nil (text : Text) : simultaneous text [] = text := by
  simp [simultaneous, frontToBack, spliceFrom]

theorem onLine_eq_nil {lineStart : Nat} {line : Text} {edits : List Edit}
    (h : ∀ edit ∈ edits, edit.start < lineStart ∨ lineStart + line.length < edit.start) :
    onLine lineStart line edits = [] := by
  rw [onLine, List.map_eq_nil_iff, List.filter_eq_nil_iff]
  intro edit hmem hon
  simp only [Bool.and_eq_true, decide_eq_true_eq] at hon
  have helsewhere := h edit hmem
  omega

/-- The edits of a later line can be looked for behind the first line. -/
theorem onLine_behindLine (first line : Text) (lineStart : Nat) (edits : List Edit) :
    onLine lineStart line (behindLine first edits) =
      onLine (first.length + 1 + lineStart) line edits := by
  rw [onLine, behindLine, List.filter_map, List.map_map, List.filter_filter, onLine]
  congr 1
  · funext edit
    exact relativeTo_relativeTo _ _ edit
  · apply List.filter_congr
    intro edit _
    rw [Bool.eq_iff_iff]
    simp only [Function.comp_apply, Bool.and_eq_true, Bool.not_eq_true', decide_eq_false_iff_not,
      decide_eq_true_eq]
    simp only [relativeTo]
    omega

/-- A character that is neither in a text nor put in is not in the edited text. -/
theorem not_mem_applyAll {text : Text} {edits : List Edit} {c : Char} (htext : c ∉ text)
    (hreplacement : ∀ edit ∈ edits, c ∉ edit.replacement) : c ∉ applyAll text edits := by
  have hfold (ordered : List Edit) (hordered : ∀ edit ∈ ordered, c ∉ edit.replacement)
      (edited : Text) (hedited : c ∉ edited) : c ∉ ordered.foldl apply edited := by
    induction ordered generalizing edited with
    | nil => exact hedited
    | cons edit ordered ih =>
      rw [List.forall_mem_cons] at hordered
      apply ih hordered.2
      rw [apply, List.mem_append, List.mem_append, not_or, not_or]
      exact ⟨fun hmem => hedited (List.mem_of_mem_take hmem), hordered.1,
        fun hmem => hedited (List.mem_of_mem_drop hmem)⟩
  apply hfold _ _ text htext
  intro edit hmem
  exact hreplacement edit ((backToFront_perm edits).mem_iff.mp hmem)

section FirstLine

variable {line rest : Text} {edits : List Edit}

theorem Spaced.behindLine (h : Spaced (line ++ '\n' :: rest).length edits) :
    Spaced rest.length (behindLine line edits) := by
  have hlength : (line ++ '\n' :: rest).length = line.length + 1 + rest.length := by
    rw [List.length_append, List.length_cons]
    omega
  rw [hlength] at h
  refine Spaced.relativeTo (h.sublist List.filter_sublist) ?_
  intro edit hmem
  have hbehind := (List.mem_filter.mp hmem).2
  rw [Bool.not_eq_true', decide_eq_false_iff_not] at hbehind
  omega

theorem Spaced.onLine_zero (h : Spaced (line ++ '\n' :: rest).length edits)
    (hspan : ∀ edit ∈ edits, '\n' ∉ Text.slice (line ++ '\n' :: rest) edit.start edit.stop) :
    Spaced line.length (onLine 0 line edits) := by
  rw [Edit.onLine_zero]
  refine (h.sublist List.filter_sublist).shorten ?_
  intro edit hmem
  obtain ⟨hedit, hstart⟩ := List.mem_filter.mp hmem
  exact Text.stop_le_of_not_mem_slice (of_decide_eq_true hstart) (hspan edit hedit)

/-- The first line and the other lines of a text are edited on their own. -/
theorem applyAll_line (h : Spaced (line ++ '\n' :: rest).length edits)
    (hspan : ∀ edit ∈ edits, '\n' ∉ Text.slice (line ++ '\n' :: rest) edit.start edit.stop) :
    applyAll (line ++ '\n' :: rest) edits =
      simultaneous line (onLine 0 line edits) ++
        '\n' :: applyAll rest (behindLine line edits) := by
  have hline := h.onLine_zero hspan
  have hlater := h.behindLine
  have htext : line ++ '\n' :: rest = (line ++ ['\n']) ++ rest := by simp
  have hlength : (line ++ ['\n']).length = line.length + 1 := by simp
  rw [applyAll_eq_simultaneous h, applyAll_eq_simultaneous hlater]
  rw [htext, List.length_append] at h
  rw [htext, simultaneous_append (line ++ ['\n']) rest h (fun edit => edit.start ≤ line.length),
    ← onLine_zero, simultaneous_append_of_spaced line ['\n'] hline, hlength, List.append_assoc]
  · rfl
  · intro edit hmem hstart
    have hstop := Text.stop_le_of_not_mem_slice (of_decide_eq_true hstart) (hspan edit hmem)
    omega
  · intro edit _ hstart
    have hbehind := of_decide_eq_false hstart
    omega

/-- Spans behind the first line hold what they hold in the whole text. -/
theorem not_mem_slice_behindLine
    (hspan : ∀ edit ∈ edits, '\n' ∉ Text.slice (line ++ '\n' :: rest) edit.start edit.stop) :
    ∀ edit ∈ behindLine line edits, '\n' ∉ Text.slice rest edit.start edit.stop := by
  intro moved hmoved
  obtain ⟨edit, hmem, rfl⟩ := List.mem_map.mp hmoved
  obtain ⟨hedit, hbehind⟩ := List.mem_filter.mp hmem
  rw [Bool.not_eq_true', decide_eq_false_iff_not] at hbehind
  have hcut := Text.slice_append_right (line ++ ['\n']) rest (edit.start - (line.length + 1))
    edit.stop
  have hlength : (line ++ ['\n']).length = line.length + 1 := by simp
  have hstart : line.length + 1 + (edit.start - (line.length + 1)) = edit.start := by omega
  rw [hlength, hstart, List.append_assoc] at hcut
  simp only [relativeTo]
  rw [← hcut]
  exact hspan edit hedit

end FirstLine

/-- A text with edits that hold no line feeds has its old lines, each with the
edits that start on it made at once. -/
theorem lines_applyAll {text : Text} {edits : List Edit} (h : Spaced text.length edits)
    (hspan : ∀ edit ∈ edits, '\n' ∉ Text.slice text edit.start edit.stop)
    (hreplacement : ∀ edit ∈ edits, '\n' ∉ edit.replacement) :
    Text.lines (applyAll text edits) =
      (Text.lines text).mapIdx fun n line =>
        simultaneous line (onLine (Text.lineStart text n) line edits) := by
  induction text using Text.lines_induction generalizing edits with
  | last text hline =>
    have hall : onLine 0 text edits = edits := by
      rw [onLine_zero, List.filter_eq_self]
      intro edit hmem
      have hbounds := h.bounds edit hmem
      exact decide_eq_true (by omega)
    rw [Text.lines_of_not_mem hline, Text.lines_of_not_mem (not_mem_applyAll hline hreplacement),
      List.mapIdx_cons, List.mapIdx_nil, Text.lineStart_zero, hall, applyAll_eq_simultaneous h]
  | more line rest hline ih =>
    have hfirst : '\n' ∉ simultaneous line (onLine 0 line edits) := by
      rw [← applyAll_eq_simultaneous (h.onLine_zero hspan)]
      apply not_mem_applyAll hline
      intro edit hmem
      rw [onLine_zero] at hmem
      exact hreplacement edit (List.mem_filter.mp hmem).1
    have hbehind : ∀ edit ∈ behindLine line edits, '\n' ∉ edit.replacement := by
      intro moved hmoved
      obtain ⟨edit, hmem, rfl⟩ := List.mem_map.mp hmoved
      exact hreplacement edit (List.mem_filter.mp hmem).1
    rw [applyAll_line h hspan, Text.lines_append hfirst, Text.lines_append hline,
      ih h.behindLine (not_mem_slice_behindLine hspan) hbehind, List.mapIdx_cons,
      Text.lineStart_zero]
    simp only [onLine_behindLine, Text.lineStart_succ hline]

end Edit

/-! ## The lines of a unit -/

namespace Outline.Layout

variable {text : Text} (layout : Layout text)

/-- No span of an edit reaches over the end of a line. -/
theorem not_mem_span :
    ∀ edit ∈ layout.outline.edits, '\n' ∉ Text.slice text edit.start edit.stop := by
  intro edit hmem
  rw [layout.edits_eq] at hmem
  obtain ⟨token, htoken, rfl⟩ := List.mem_map.mp hmem
  rw [editOf_start, editOf_stop]
  by_cases hopen : token.kind = .openBrace
  · rw [if_pos hopen, Text.slice_self]
    exact List.not_mem_nil
  · rw [if_neg hopen, (Token.inText_of_mem (layout.mem_of_mem_edited htoken)).slice_eq]
    exact (layout.plain_of_mem_edited htoken).not_mem rfl

/-- No edit puts a line feed in. -/
theorem not_mem_replacement : ∀ edit ∈ layout.outline.edits, '\n' ∉ edit.replacement := by
  intro edit hmem
  rw [layout.edits_eq] at hmem
  obtain ⟨token, htoken, rfl⟩ := List.mem_map.mp hmem
  rcases layout.mem_edited_iff.mp htoken with rfl | rfl | rfl | hbare | hmain
  · rw [editOf_prog _ layout.prog_isWord]
    exact (Scaffold.plain_imports.append Scaffold.plain_classHeader).not_mem rfl
  · rw [editOf_begin _ layout.begin_isWord]
    have hname := Token.plain_of_identifier layout.name_mem layout.name_kind
    exact (Scaffold.plain_prologue hname).not_mem rfl
  · rw [editOf_closeBrace _ layout.closeBrace_kind]
    exact Scaffold.not_mem_epilogue
  · rw [editOf_openBrace _ (kind_of_mem_bareBraces hbare)]
    show '\n' ∉ [' ']
    decide
  · rw [editOf_main _ (isWord_of_mem_renamedMains hmain)]
    exact Scaffold.plain_renamedMain.not_mem rfl

end Outline.Layout

/-- The Java text has the lines of the unit, and each of them is the line of the
unit with the edits that start on it made at once. A line on which no edit starts is the
same in both texts. -/
theorem JavaUnit.lines_ofText {text : Text} {unit : JavaUnit} (h : ofText text = .ok unit) :
    ∃ outline, Outline.ofText text = .ok outline ∧
      unit.lines.length = (Text.lines text).length ∧
      ∀ n line, (Text.lines text)[n]? = some line →
        Text.slice text (Text.lineStart text n) (Text.lineStart text n + line.length) = line ∧
        unit.lines[n]? = some (Edit.simultaneous line
          (Edit.onLine (Text.lineStart text n) line outline.edits)) ∧
        ((∀ edit ∈ outline.edits, edit.start < Text.lineStart text n ∨
            Text.lineStart text n + line.length < edit.start) →
          unit.lines[n]? = some line) := by
  obtain ⟨outline, houtline, rfl⟩ := ofText_eq_ok_iff.mp h
  obtain ⟨layout, rfl⟩ := Outline.exists_layout_of_ofText houtline
  have hlines : (ofOutline text layout.outline).lines =
      (Text.lines text).mapIdx fun n line =>
        Edit.simultaneous line (Edit.onLine (Text.lineStart text n) line layout.outline.edits) :=
    Edit.lines_applyAll layout.spaced_edits layout.not_mem_span layout.not_mem_replacement
  refine ⟨layout.outline, houtline, ?_, ?_⟩
  · rw [hlines, List.length_mapIdx]
  · intro n line hline
    have hjava : (ofOutline text layout.outline).lines[n]? = some (Edit.simultaneous line
        (Edit.onLine (Text.lineStart text n) line layout.outline.edits)) := by
      rw [hlines, List.getElem?_mapIdx, hline]
      rfl
    refine ⟨Text.slice_lineStart hline, hjava, ?_⟩
    intro helsewhere
    rw [hjava, Edit.onLine_eq_nil helsewhere, Edit.simultaneous_nil]

theorem JavaUnit.lines_ofText_of_five_lines :
    ∃ unit, ofText "prog A\x7b\nint x;\nbegin\n\x7b\x7d\n\x7d".toList = .ok unit ∧
      unit.lines.length = 5 ∧
      unit.lines[0]? = some
        ("import java.io.*; import java.math.*; import java.net.*; import java.util.*;  ".toList ++
          "public final class A \x7b".toList) ∧
      unit.lines[1]? = some "int x;".toList ∧
      unit.lines[4]? = some Scaffold.epilogue := by
  have haccepted : Outline.ofText "prog A\x7b\nint x;\nbegin\n\x7b\x7d\n\x7d".toList =
      .ok ⟨0, 6, 15, 24, ['A'], none, [6], []⟩ := by decide +kernel
  have hunit := ofText_eq_ok_iff.mpr ⟨_, haccepted, rfl⟩
  obtain ⟨outline, houtline, hlength, hlines⟩ := lines_ofText hunit
  rw [haccepted] at houtline
  cases houtline
  have hfirst := (hlines 0 "prog A\x7b".toList (by decide)).2.1
  have hsecond := (hlines 1 "int x;".toList (by decide)).2.2 (by decide +kernel)
  have hfifth := (hlines 4 "\x7d".toList (by decide)).2.1
  refine ⟨_, hunit, hlength, ?_, hsecond, ?_⟩
  · rw [hfirst, Edit.simultaneous, Edit.frontToBack, List.mergeSort_of_pairwise (by decide +kernel)]
    decide +kernel
  · rw [hfifth]
    decide +kernel

end Transcompiler
