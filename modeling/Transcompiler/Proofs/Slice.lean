/-
# Stretches of a text

Facts about the ways in which a stretch is cut out of a text: as long as a condition
holds, between two offsets, between separators, and without the white space at its ends.
-/

import Transcompiler.Text.Blank

namespace Transcompiler

/-! ## As long as a condition holds -/

section Longest

variable {α : Type} (part : α → Bool) (list : List α)

theorem head?_dropWhile_eq_false : ∀ a ∈ (list.dropWhile part).head?, part a = false := by
  intro a ha
  have hnot := List.head?_dropWhile_not part list
  rw [Option.mem_def] at ha
  rwa [ha] at hnot

theorem exists_longest :
    ∃ front rest, front ++ rest = list ∧ (∀ a ∈ front, part a = true) ∧
      ∀ a ∈ rest.head?, part a = false :=
  ⟨list.takeWhile part, list.dropWhile part, List.takeWhile_append_dropWhile,
    List.all_eq_true.mp List.all_takeWhile, head?_dropWhile_eq_false part list⟩

end Longest

namespace Text

/-! ## Between two offsets -/

theorem slice_eq_take_drop (text : Text) (start stop : Nat) :
    slice text start stop = (text.drop start).take (stop - start) := by
  rw [slice, List.drop_take]

theorem slice_self (text : Text) (offset : Nat) : slice text offset offset = [] :=
  List.drop_eq_nil_of_le (List.length_take_le _ _)

/-- Cutting at the seams of a joined text gives a part back. -/
theorem slice_of_append {text before middle behind : Text} {start stop : Nat}
    (htext : text = before ++ (middle ++ behind)) (hstart : start = before.length)
    (hstop : stop = start + middle.length) : slice text start stop = middle := by
  rw [slice_eq_take_drop, htext, hstop, Nat.add_sub_cancel_left, hstart, List.drop_left,
    List.take_left]

/-- Behind the left part of a joined text, the right part is cut. -/
theorem slice_append_right (left right : Text) (start stop : Nat) :
    slice (left ++ right) (left.length + start) stop =
      slice right start (stop - left.length) := by
  have hlength : stop - (left.length + start) = stop - left.length - start := by omega
  rw [slice_eq_take_drop, slice_eq_take_drop, List.drop_length_add_append, hlength]

theorem slice_append_slice (text : Text) {first second third : Nat} (hfirst : first ≤ second)
    (hsecond : second ≤ third) :
    slice text first second ++ slice text second third = slice text first third := by
  have hlength : third - first = (second - first) + (third - second) := by omega
  have hdrop : text.drop second = (text.drop first).drop (second - first) := by
    rw [List.drop_drop, Nat.add_sub_cancel' hfirst]
  rw [slice_eq_take_drop, slice_eq_take_drop, slice_eq_take_drop, hlength, hdrop, List.take_add]

theorem slice_append_drop (text : Text) {first second : Nat} (hfirst : first ≤ second) :
    slice text first second ++ text.drop second = text.drop first := by
  have hdrop : text.drop second = (text.drop first).drop (second - first) := by
    rw [List.drop_drop, Nat.add_sub_cancel' hfirst]
  rw [slice_eq_take_drop, hdrop, List.take_append_drop]

theorem take_append_slice (text : Text) {first second : Nat} (hfirst : first ≤ second) :
    text.take first ++ slice text first second = text.take second := by
  have hcut := slice_append_slice text (Nat.zero_le first) hfirst
  simpa only [slice, List.drop_zero] using hcut

/-! ## Between separators -/

theorem splitAtEvery_of_not_mem {separator : Char} {text : Text} (h : separator ∉ text) :
    splitAtEvery separator text = [text] := by
  induction text with
  | nil => rfl
  | cons c cs ih =>
    rw [List.mem_cons, not_or] at h
    rw [splitAtEvery, if_neg (Ne.symm h.1), ih h.2]
    rfl

/-! ## Without white space at the ends -/

/-- What `strip` takes away is white space on the two sides. -/
theorem exists_blanks_of_strip (text : Text) :
    ∃ left right, text = left ++ (strip text ++ right) ∧ (∀ c ∈ left, isBlank c = true) ∧
      ∀ c ∈ right, isBlank c = true := by
  have hblank (t : Text) : ∀ c ∈ t.takeWhile isBlank, isBlank c = true :=
    List.all_eq_true.mp List.all_takeWhile
  refine ⟨text.takeWhile isBlank, ((text.dropWhile isBlank).reverse.takeWhile isBlank).reverse,
    ?_, hblank text, ?_⟩
  · rw [strip, ← List.reverse_append, List.takeWhile_append_dropWhile, List.reverse_reverse,
      List.takeWhile_append_dropWhile]
  · intro c hc
    exact hblank _ c (List.mem_reverse.mp hc)

theorem dropWhile_append_of_blank {left rest : Text} (hleft : ∀ c ∈ left, isBlank c = true)
    (hrest : ∀ c ∈ rest.head?, isBlank c = false) : (left ++ rest).dropWhile isBlank = rest := by
  rw [List.dropWhile_append_of_pos hleft]
  cases rest with
  | nil => rfl
  | cons c cs => simp [hrest c rfl]

/-- Exactly white space has nothing left. -/
theorem strip_eq_nil_iff {text : Text} : strip text = [] ↔ ∀ c ∈ text, isBlank c = true := by
  constructor
  · intro hstrip
    obtain ⟨left, right, htext, hleft, hright⟩ := exists_blanks_of_strip text
    rw [hstrip, List.nil_append] at htext
    intro c hc
    rw [htext, List.mem_append] at hc
    exact hc.elim (hleft c) (hright c)
  · intro hblank
    have hdrop : (text ++ []).dropWhile isBlank = [] :=
      dropWhile_append_of_blank hblank (by simp)
    rw [List.append_nil] at hdrop
    rw [strip, hdrop]
    rfl

/-- White space around a text that neither begins nor ends with any is taken away. -/
theorem strip_append_of_ends {left middle right : Text} (hleft : ∀ c ∈ left, isBlank c = true)
    (hfirst : ∀ c ∈ middle.head?, isBlank c = false)
    (hlast : ∀ c ∈ middle.getLast?, isBlank c = false)
    (hright : ∀ c ∈ right, isBlank c = true) : strip (left ++ (middle ++ right)) = middle := by
  by_cases hempty : middle = []
  · -- Nothing separates the two sides, so all goes away from the left.
    have hblank : ∀ c ∈ left ++ right, isBlank c = true := by
      intro c hc
      exact (List.mem_append.mp hc).elim (hleft c) (hright c)
    rw [hempty, List.nil_append, strip_eq_nil_iff]
    exact hblank
  · have hfront : ∀ c ∈ (middle ++ right).head?, isBlank c = false := by
      intro c hc
      obtain ⟨d, ds, rfl⟩ := List.exists_cons_of_ne_nil hempty
      exact hfirst c hc
    have hback : ∀ c ∈ middle.reverse.head?, isBlank c = false := by
      rw [List.head?_reverse]
      exact hlast
    have hright' : ∀ c ∈ right.reverse, isBlank c = true := by
      intro c hc
      exact hright c (List.mem_reverse.mp hc)
    rw [strip, dropWhile_append_of_blank hleft hfront, List.reverse_append,
      dropWhile_append_of_blank hright' hback, List.reverse_reverse]

/-- White space around a text without any is taken away. -/
theorem strip_append {left middle right : Text} (hleft : ∀ c ∈ left, isBlank c = true)
    (hmiddle : ∀ c ∈ middle, isBlank c = false) (hright : ∀ c ∈ right, isBlank c = true) :
    strip (left ++ (middle ++ right)) = middle :=
  strip_append_of_ends hleft (fun c hc => hmiddle c (List.mem_of_mem_head? hc))
    (fun c hc => hmiddle c (List.mem_of_getLast? hc)) hright

end Text

end Transcompiler
