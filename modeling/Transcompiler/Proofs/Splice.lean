/-
# Edits as one substitution

`Edit.applyAll` changes the text edit by edit, from the last span to the first,
with offsets that were all taken from the unchanged text. Here the result is
read off the unchanged text alone: `simultaneous` walks over it once from left
to right, copies what lies between the spans, and puts each replacement in place
of its span.

The two agree for edits that are `Spaced`, that is, in bounds, apart from each
other, and with different starts. Such edits have only one order, so the result
does not depend on the order in which they are listed. Along the same walk the
edits of a joined text split into those of its parts, and around any one edit into
those in front of it and those behind.
-/

import Mathlib.Data.List.Pairwise
import Transcompiler.Edit
import Transcompiler.Proofs.Slice

namespace Transcompiler.Edit

/-! ## Spaced edits -/

/-- Two edits with different starts and without a common character. -/
def Apart (a b : Edit) : Prop :=
  a.start ≠ b.start ∧ (a.stop ≤ b.start ∨ b.stop ≤ a.start)

theorem Apart.symm {a b : Edit} (h : Apart a b) : Apart b a :=
  ⟨h.1.symm, h.2.symm⟩

instance : Std.Symm Apart :=
  ⟨fun _ _ => Apart.symm⟩

/-- Edits of a text of the given length that do not interfere. -/
structure Spaced (length : Nat) (edits : List Edit) : Prop where
  /-- The spans lie within the text. -/
  bounds : ∀ edit ∈ edits, edit.start ≤ edit.stop ∧ edit.stop ≤ length
  /-- The spans are apart. -/
  apart : edits.Pairwise Apart

theorem Spaced.perm {length : Nat} {edits listed : List Edit} (h : Spaced length edits)
    (hperm : listed.Perm edits) : Spaced length listed :=
  ⟨fun edit hmem => h.bounds edit (hperm.mem_iff.mp hmem), h.apart.perm hperm.symm Apart.symm⟩

theorem Spaced.sublist {length : Nat} {edits some : List Edit} (h : Spaced length edits)
    (hsublist : some.Sublist edits) : Spaced length some :=
  ⟨fun edit hmem => h.bounds edit (hsublist.subset hmem), h.apart.sublist hsublist⟩

/-! ## The order of the text -/

/-- Edits in the order of their spans in the text. -/
def frontToBack (edits : List Edit) : List Edit :=
  edits.mergeSort fun a b => a.start ≤ b.start

/-- The second edit stands behind the first. -/
def Follows (a b : Edit) : Prop :=
  a.start < b.start ∧ a.stop ≤ b.start

theorem frontToBack_perm (edits : List Edit) : (frontToBack edits).Perm edits :=
  List.mergeSort_perm edits _

theorem backToFront_perm (edits : List Edit) : (backToFront edits).Perm edits :=
  List.mergeSort_perm edits _

/-- Spaced edits that are sorted by their starts stand one behind the other. -/
theorem Spaced.pairwise_follows {length : Nat} {edits : List Edit} (h : Spaced length edits)
    (hsorted : edits.Pairwise fun a b => a.start ≤ b.start) : edits.Pairwise Follows := by
  refine (hsorted.and h.apart).imp_of_mem ?_
  rintro a b ha hb ⟨hle, hne, hapart⟩
  have hbound := (h.bounds b hb).1
  constructor
  · omega
  · omega

theorem Spaced.pairwise_frontToBack {length : Nat} {edits : List Edit} (h : Spaced length edits) :
    (frontToBack edits).Pairwise Follows := by
  apply (h.perm (frontToBack_perm edits)).pairwise_follows
  have hsorted : (frontToBack edits).Pairwise fun a b => decide (a.start ≤ b.start) = true :=
    List.pairwise_mergeSort (by simp only [decide_eq_true_eq]; omega)
      (by simp only [Bool.or_eq_true, decide_eq_true_eq]; omega) edits
  simpa only [decide_eq_true_eq] using hsorted

/-- Spaced edits have only one order in which they stand one behind the other. -/
theorem eq_frontToBack {length : Nat} {edits ordered : List Edit} (h : Spaced length edits)
    (hperm : ordered.Perm edits) (hordered : ordered.Pairwise Follows) :
    ordered = frontToBack edits := by
  refine List.Perm.eq_of_pairwise ?_ hordered h.pairwise_frontToBack
    (hperm.trans (frontToBack_perm edits).symm)
  intro a b _ _ hab hba
  exact absurd hab.1 (Nat.lt_asymm hba.1)

theorem frontToBack_of_perm {length : Nat} {edits listed : List Edit} (h : Spaced length edits)
    (hperm : listed.Perm edits) : frontToBack listed = frontToBack edits :=
  eq_frontToBack h ((frontToBack_perm listed).trans hperm) (h.perm hperm).pairwise_frontToBack

/-- Later spans first is the reverse of the order of the text. -/
theorem backToFront_eq_reverse {length : Nat} {edits : List Edit} (h : Spaced length edits) :
    backToFront edits = (frontToBack edits).reverse := by
  have hsorted : (backToFront edits).Pairwise fun a b => decide (b.start ≤ a.start) = true :=
    List.pairwise_mergeSort (by simp only [decide_eq_true_eq]; omega)
      (by simp only [Bool.or_eq_true, decide_eq_true_eq]; omega) edits
  have hperm := (List.reverse_perm (backToFront edits)).trans (backToFront_perm edits)
  rw [← eq_frontToBack h hperm, List.reverse_reverse]
  apply (h.perm hperm).pairwise_follows
  rw [List.pairwise_reverse]
  simpa only [decide_eq_true_eq] using hsorted

/-! ## One walk over the text -/

/-- The text from an offset on, with edits that come in the order of the text:
what lies in front of a span is copied, and the replacement stands for the
span. -/
def spliceFrom (text : Text) : Nat → List Edit → Text
  | offset, [] => text.drop offset
  | offset, edit :: edits =>
    Text.slice text offset edit.start ++ (edit.replacement ++ spliceFrom text edit.stop edits)

/-- Up to the first span the text is copied. -/
theorem spliceFrom_eq_slice_append (text : Text) {edits : List Edit} {offset next : Nat}
    (hoffset : offset ≤ next) (hnext : ∀ edit ∈ edits.head?, next ≤ edit.start) :
    spliceFrom text offset edits = Text.slice text offset next ++ spliceFrom text next edits := by
  cases edits with
  | nil => rw [spliceFrom, spliceFrom, Text.slice_append_drop text hoffset]
  | cons edit edits =>
    rw [spliceFrom, spliceFrom, ← Text.slice_append_slice text hoffset (hnext edit rfl),
      List.append_assoc]

/-- A text with all edits of it made at once. -/
def simultaneous (text : Text) (edits : List Edit) : Text :=
  spliceFrom text 0 (frontToBack edits)

/-- Edits that have been applied leave the text in front of them as it was, and
have spliced the text behind. -/
theorem foldr_apply_eq (text : Text) {edits : List Edit} (hordered : edits.Pairwise Follows)
    (hbounds : ∀ edit ∈ edits, edit.start ≤ edit.stop ∧ edit.stop ≤ text.length) (offset : Nat)
    (hoffset : ∀ edit ∈ edits.head?, offset ≤ edit.start) :
    edits.foldr (fun edit edited => apply edited edit) text =
      text.take offset ++ spliceFrom text offset edits := by
  induction edits generalizing offset with
  | nil => rw [List.foldr_nil, spliceFrom, List.take_append_drop]
  | cons edit edits ih =>
    obtain ⟨hfollows, hordered⟩ := List.pairwise_cons.mp hordered
    have hbound := hbounds edit List.mem_cons_self
    have hstart : offset ≤ edit.start := hoffset edit rfl
    -- Seen from the end of this span, the later edits are already spliced in.
    have hrest := ih hordered (fun later hmem => hbounds later (List.mem_cons_of_mem _ hmem))
      edit.stop (fun later hmem => (hfollows later (List.mem_of_mem_head? hmem)).2)
    have hlength : (text.take edit.stop).length = edit.stop :=
      List.length_take_of_le hbound.2
    rw [List.foldr_cons, hrest, apply, spliceFrom, List.take_append_of_le_length (by omega),
      List.take_take, Nat.min_eq_left hbound.1, List.drop_append_of_le_length (by omega),
      List.drop_eq_nil_of_le (by omega), List.nil_append, ← Text.take_append_slice text hstart,
      List.append_assoc]

/-- Applying spaced edits one by one makes all of them at once. -/
theorem applyAll_eq_simultaneous {text : Text} {edits : List Edit}
    (h : Spaced text.length edits) : applyAll text edits = simultaneous text edits := by
  have hbounds := (h.perm (frontToBack_perm edits)).bounds
  rw [applyAll, backToFront_eq_reverse h, List.foldl_reverse, simultaneous,
    foldr_apply_eq text h.pairwise_frontToBack hbounds 0 (by simp), List.take_zero,
    List.nil_append]

/-- The edit that puts the characters of a span in their own place. -/
def unchanged (text : Text) (edit : Edit) : Edit :=
  ⟨edit.start, edit.stop, Text.slice text edit.start edit.stop⟩

theorem spliceFrom_unchanged (text : Text) {edits : List Edit} (hordered : edits.Pairwise Follows)
    (hbounds : ∀ edit ∈ edits, edit.start ≤ edit.stop) (offset : Nat)
    (hoffset : ∀ edit ∈ edits.head?, offset ≤ edit.start) :
    spliceFrom text offset (edits.map (unchanged text)) = text.drop offset := by
  induction edits generalizing offset with
  | nil => rfl
  | cons edit edits ih =>
    obtain ⟨hfollows, hordered⟩ := List.pairwise_cons.mp hordered
    have hrest := ih hordered (fun later hmem => hbounds later (List.mem_cons_of_mem _ hmem))
      edit.stop (fun later hmem => (hfollows later (List.mem_of_mem_head? hmem)).2)
    rw [List.map_cons, spliceFrom]
    simp only [unchanged]
    rw [hrest, Text.slice_append_drop text (hbounds edit List.mem_cons_self),
      Text.slice_append_drop text (hoffset edit rfl)]

/-- The stretches that are copied and the spans that are replaced make up the
text: with each span in its own place nothing changes. -/
theorem simultaneous_unchanged {text : Text} {edits : List Edit} (h : Spaced text.length edits) :
    spliceFrom text 0 ((frontToBack edits).map (unchanged text)) = text := by
  have hbounds := (h.perm (frontToBack_perm edits)).bounds
  rw [spliceFrom_unchanged text h.pairwise_frontToBack (fun edit hmem => (hbounds edit hmem).1) 0
    (by simp), List.drop_zero]

/-! ## Edits of a joined text -/

/-- An edit with its offsets counted from an origin within the text. -/
def relativeTo (origin : Nat) (edit : Edit) : Edit :=
  ⟨edit.start - origin, edit.stop - origin, edit.replacement⟩

/-- Edits behind the left part of a joined text are edits of the right part. -/
theorem spliceFrom_right (left right : Text) {edits : List Edit}
    (hedits : ∀ edit ∈ edits, left.length ≤ edit.start ∧ edit.start ≤ edit.stop) (offset : Nat) :
    spliceFrom (left ++ right) (left.length + offset) edits =
      spliceFrom right offset (edits.map (relativeTo left.length)) := by
  induction edits generalizing offset with
  | nil => rw [spliceFrom, List.map_nil, spliceFrom, List.drop_length_add_append]
  | cons edit edits ih =>
    obtain ⟨hstart, hstop⟩ := hedits edit List.mem_cons_self
    have hrest := ih (fun later hmem => hedits later (List.mem_cons_of_mem _ hmem))
      (edit.stop - left.length)
    have horigin : left.length + (edit.stop - left.length) = edit.stop := by omega
    rw [horigin] at hrest
    rw [spliceFrom, Text.slice_append_right, hrest]
    rfl

/-- Edits of a joined text are made part by part. -/
theorem spliceFrom_append (left right : Text) {before behind : List Edit}
    (hbefore : ∀ edit ∈ before, edit.start ≤ edit.stop ∧ edit.stop ≤ left.length)
    (hbehind : ∀ edit ∈ behind, left.length ≤ edit.start ∧ edit.start ≤ edit.stop) {offset : Nat}
    (hoffset : offset ≤ left.length) :
    spliceFrom (left ++ right) offset (before ++ behind) =
      spliceFrom left offset before ++
        spliceFrom right 0 (behind.map (relativeTo left.length)) := by
  induction before generalizing offset with
  | nil =>
    have hcopy := spliceFrom_eq_slice_append (left ++ right) hoffset
      (fun edit hmem => (hbehind edit (List.mem_of_mem_head? hmem)).1)
    have hslice : Text.slice (left ++ right) offset left.length = left.drop offset := by
      rw [Text.slice, List.take_left]
    rw [List.nil_append, hcopy, hslice, spliceFrom, ← spliceFrom_right left right hbehind 0,
      Nat.add_zero]
  | cons edit before ih =>
    obtain ⟨hstart, hstop⟩ := hbefore edit List.mem_cons_self
    have hrest := ih (fun later hmem => hbefore later (List.mem_cons_of_mem _ hmem)) hstop
    have hslice : Text.slice (left ++ right) offset edit.start =
        Text.slice left offset edit.start := by
      rw [Text.slice, Text.slice, List.take_append_of_le_length (by omega)]
    rw [List.cons_append, spliceFrom, spliceFrom, hslice, hrest, List.append_assoc,
      List.append_assoc]

/-- Edits of the left part of a joined text leave the right part as it is. -/
theorem simultaneous_append_of_spaced (left right : Text) {edits : List Edit}
    (h : Spaced left.length edits) :
    simultaneous (left ++ right) edits = simultaneous left edits ++ right := by
  have hbounds := (h.perm (frontToBack_perm edits)).bounds
  have hsplice := spliceFrom_append left right hbounds (List.forall_mem_nil _)
    (Nat.zero_le left.length)
  rwa [List.append_nil] at hsplice

/-- Edits of the left part of a joined text. -/
theorem Spaced.shorten {length bound : Nat} {edits : List Edit} (h : Spaced length edits)
    (hbound : ∀ edit ∈ edits, edit.stop ≤ bound) : Spaced bound edits :=
  ⟨fun edit hmem => ⟨(h.bounds edit hmem).1, hbound edit hmem⟩, h.apart⟩

/-- Edits of the right part of a joined text, counted from its beginning. -/
theorem Spaced.relativeTo {length origin : Nat} {edits : List Edit}
    (h : Spaced (origin + length) edits) (horigin : ∀ edit ∈ edits, origin ≤ edit.start) :
    Spaced length (edits.map (relativeTo origin)) := by
  constructor
  · intro moved hmem
    obtain ⟨edit, hedit, rfl⟩ := List.mem_map.mp hmem
    have hbound := h.bounds edit hedit
    simp only [Edit.relativeTo]
    omega
  · rw [List.pairwise_map]
    refine h.apart.imp_of_mem ?_
    rintro a b ha hb ⟨hne, hapart⟩
    have hastart := horigin a ha
    have hbstart := horigin b hb
    have habound := (h.bounds a ha).1
    have hbbound := (h.bounds b hb).1
    simp only [Apart, Edit.relativeTo]
    omega

theorem frontToBack_relativeTo {length origin : Nat} {edits : List Edit}
    (h : Spaced (origin + length) edits) (horigin : ∀ edit ∈ edits, origin ≤ edit.start) :
    frontToBack (edits.map (relativeTo origin)) = (frontToBack edits).map (relativeTo origin) := by
  symm
  refine eq_frontToBack (h.relativeTo horigin) ((frontToBack_perm edits).map _) ?_
  rw [List.pairwise_map]
  refine h.pairwise_frontToBack.imp_of_mem ?_
  rintro a b ha hb ⟨hlt, hle⟩
  have hastart := horigin a ((frontToBack_perm edits).mem_iff.mp ha)
  have hbstart := horigin b ((frontToBack_perm edits).mem_iff.mp hb)
  simp only [Follows, relativeTo]
  omega

/-- The order of the text lists the edits of the left part first. -/
theorem frontToBack_eq_append {length bound : Nat} {edits : List Edit} (h : Spaced length edits)
    (inLeft : Edit → Bool) (hleft : ∀ edit ∈ edits, inLeft edit = true → edit.stop ≤ bound)
    (hright : ∀ edit ∈ edits, inLeft edit = false → bound ≤ edit.start) :
    frontToBack edits =
      frontToBack (edits.filter inLeft) ++ frontToBack (edits.filter fun edit => !inLeft edit) := by
  have hperm := ((frontToBack_perm (edits.filter inLeft)).append
    (frontToBack_perm (edits.filter fun edit => !inLeft edit))).trans
    (List.filter_append_perm inLeft edits)
  symm
  refine eq_frontToBack h hperm ?_
  rw [List.pairwise_append]
  refine ⟨(h.sublist List.filter_sublist).pairwise_frontToBack,
    (h.sublist List.filter_sublist).pairwise_frontToBack, ?_⟩
  intro a ha b hb
  obtain ⟨ha, hina⟩ := List.mem_filter.mp ((frontToBack_perm _).mem_iff.mp ha)
  obtain ⟨hb, hinb⟩ := List.mem_filter.mp ((frontToBack_perm _).mem_iff.mp hb)
  have hne : a ≠ b := by
    rintro rfl
    simp [hina] at hinb
  have hastop := hleft a ha hina
  have hbstart := hright b hb (by simpa using hinb)
  have hbound := (h.bounds a ha).1
  have hapart := h.apart.forall ha hb hne
  constructor
  · have hstart := hapart.1
    omega
  · omega

/-- All edits of a joined text at once are those of its parts. -/
theorem simultaneous_append (left right : Text) {edits : List Edit}
    (h : Spaced (left.length + right.length) edits) (inLeft : Edit → Bool)
    (hleft : ∀ edit ∈ edits, inLeft edit = true → edit.stop ≤ left.length)
    (hright : ∀ edit ∈ edits, inLeft edit = false → left.length ≤ edit.start) :
    simultaneous (left ++ right) edits =
      simultaneous left (edits.filter inLeft) ++
        simultaneous right
          ((edits.filter fun edit => !inLeft edit).map (relativeTo left.length)) := by
  have hbehind : ∀ edit ∈ edits.filter fun edit => !inLeft edit, left.length ≤ edit.start := by
    intro edit hmem
    obtain ⟨hedit, hin⟩ := List.mem_filter.mp hmem
    exact hright edit hedit (by simpa using hin)
  rw [simultaneous, frontToBack_eq_append h inLeft hleft hright, spliceFrom_append, simultaneous,
    simultaneous, frontToBack_relativeTo (h.sublist List.filter_sublist) hbehind]
  · intro edit hmem
    obtain ⟨hedit, hin⟩ := List.mem_filter.mp ((frontToBack_perm _).mem_iff.mp hmem)
    exact ⟨(h.bounds edit hedit).1, hleft edit hedit hin⟩
  · intro edit hmem
    have hmem := (frontToBack_perm _).mem_iff.mp hmem
    exact ⟨hbehind edit hmem, (h.bounds edit (List.mem_filter.mp hmem).1).1⟩
  · exact Nat.zero_le _

/-! ## Around one edit -/

theorem spliceFrom_append_cons (text : Text) {before behind : List Edit} {edit : Edit}
    (hbefore : ∀ earlier ∈ before, earlier.start ≤ earlier.stop ∧ earlier.stop ≤ edit.start)
    (offset : Nat) :
    spliceFrom text offset (before ++ edit :: behind) =
      spliceFrom (text.take edit.start) offset before ++
        (edit.replacement ++ spliceFrom text edit.stop behind) := by
  induction before generalizing offset with
  | nil => rfl
  | cons earlier before ih =>
    obtain ⟨hstart, hstop⟩ := hbefore earlier List.mem_cons_self
    have hrest := ih (fun later hmem => hbefore later (List.mem_cons_of_mem _ hmem)) earlier.stop
    have hslice : Text.slice (text.take edit.start) offset earlier.start =
        Text.slice text offset earlier.start := by
      rw [Text.slice, Text.slice, List.take_take, Nat.min_eq_left (by omega)]
    rw [List.cons_append, spliceFrom, spliceFrom, hslice, hrest, List.append_assoc,
      List.append_assoc]

/-- The edits that start behind an offset, in the order of the text. -/
def behind (edits : List Edit) (offset : Nat) : List Edit :=
  frontToBack (edits.filter (offset < ·.start))

theorem mem_behind_iff {edits : List Edit} {offset : Nat} {edit : Edit} :
    edit ∈ behind edits offset ↔ edit ∈ edits ∧ offset < edit.start := by
  rw [behind, (frontToBack_perm _).mem_iff, List.mem_filter, decide_eq_true_eq]

theorem Spaced.pairwise_behind {length : Nat} {edits : List Edit} (h : Spaced length edits)
    (offset : Nat) : (behind edits offset).Pairwise Follows :=
  (h.sublist List.filter_sublist).pairwise_frontToBack

/-- The order of the text lists first the edits in front of an edit, then the edit
itself, and then those behind it. -/
theorem frontToBack_eq_append_cons {length : Nat} {edits : List Edit} {edit : Edit}
    (h : Spaced length edits) (hmem : edit ∈ edits) :
    frontToBack edits =
      frontToBack (edits.filter (·.start < edit.start)) ++ edit :: behind edits edit.start := by
  obtain ⟨before, after, hsplit⟩ :=
    List.append_of_mem ((frontToBack_perm edits).mem_iff.mpr hmem)
  have hordered := h.pairwise_frontToBack
  have hperm := frontToBack_perm edits
  rw [hsplit] at hordered hperm
  obtain ⟨hbefore, hcons, hcross⟩ := List.pairwise_append.mp hordered
  obtain ⟨hedit, hafter⟩ := List.pairwise_cons.mp hcons
  have hlower : ∀ earlier ∈ before, earlier.start < edit.start :=
    fun earlier hearlier => (hcross earlier hearlier edit List.mem_cons_self).1
  have hupper : ∀ later ∈ after, edit.start < later.start :=
    fun later hlater => (hedit later hlater).1
  have hfront : before.Perm (edits.filter (·.start < edit.start)) := by
    have hkept := hperm.filter (·.start < edit.start)
    rwa [List.filter_append, List.filter_eq_self.mpr (by simpa using hlower),
      List.filter_eq_nil_iff.mpr, List.append_nil] at hkept
    intro later hlater
    rcases List.mem_cons.mp hlater with rfl | hlater
    · simp
    · have hlt := hupper later hlater
      simp only [decide_eq_true_eq]
      omega
  have hback : after.Perm (edits.filter (edit.start < ·.start)) := by
    have hkept := hperm.filter (edit.start < ·.start)
    rwa [List.filter_append, List.filter_eq_nil_iff.mpr, List.nil_append,
      List.filter_cons_of_neg (by simp), List.filter_eq_self.mpr (by simpa using hupper)] at hkept
    intro earlier hearlier
    have hlt := hlower earlier hearlier
    simp only [decide_eq_true_eq]
    omega
  rw [hsplit, eq_frontToBack (h.sublist List.filter_sublist) hfront hbefore,
    eq_frontToBack (h.sublist List.filter_sublist) hback hafter, behind]

/-- Each edit has its replacement between the edited text in front of its span and
that behind. -/
theorem applyAll_eq_append_of_mem {text : Text} {edits : List Edit} {edit : Edit}
    (h : Spaced text.length edits) (hmem : edit ∈ edits) :
    applyAll text edits =
      applyAll (text.take edit.start) (edits.filter (·.start < edit.start)) ++
        (edit.replacement ++ spliceFrom text edit.stop (behind edits edit.start)) := by
  obtain ⟨hstart, hstop⟩ := h.bounds edit hmem
  have hfront : ∀ earlier ∈ edits.filter (·.start < edit.start), earlier.stop ≤ edit.start := by
    intro earlier hearlier
    obtain ⟨hearlier, hlt⟩ := List.mem_filter.mp hearlier
    simp only [decide_eq_true_eq] at hlt
    have hne : earlier ≠ edit := by
      rintro rfl
      exact Nat.lt_irrefl _ hlt
    have hapart := (h.apart.forall hearlier hmem hne).2
    omega
  have hspaced : Spaced (text.take edit.start).length (edits.filter (·.start < edit.start)) := by
    rw [List.length_take_of_le (by omega)]
    exact (h.sublist List.filter_sublist).shorten hfront
  have hbounds : ∀ earlier ∈ frontToBack (edits.filter (·.start < edit.start)),
      earlier.start ≤ earlier.stop ∧ earlier.stop ≤ edit.start := by
    intro earlier hearlier
    have hearlier := (frontToBack_perm _).mem_iff.mp hearlier
    exact ⟨(hspaced.bounds earlier hearlier).1, hfront earlier hearlier⟩
  rw [applyAll_eq_simultaneous h, applyAll_eq_simultaneous hspaced, simultaneous,
    frontToBack_eq_append_cons h hmem, spliceFrom_append_cons text hbounds, simultaneous]

end Transcompiler.Edit
