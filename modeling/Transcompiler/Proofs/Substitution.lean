/-
# The edits of a unit

The edits of an outline come from four searches: for the landmarks, for braces
that touch what is in front of them, and for uses of `main`. This module ties
each edit to one token of the unit. Edits of different tokens cannot meet, and
no token is found twice, so the edits of every unit with an outline are spaced:
making them one by one is the same as making all of them at once.
-/

import Transcompiler.Java.Unit
import Transcompiler.Proofs.Layout
import Transcompiler.Proofs.PlainText
import Transcompiler.Proofs.Splice

namespace Transcompiler

namespace Token

theorem isWord_iff {token : Token} {word : String} :
    token.isWord word = true ↔ token.kind = .identifier ∧ token.text = word.toList := by
  simp [isWord]

/-- A token is one word at most. -/
theorem isWord_eq_false_of_ne {token : Token} {word other : String}
    (h : token.isWord word = true) (hne : word ≠ other) : token.isWord other = false := by
  rw [Bool.eq_false_iff]
  intro hother
  have htext := (isWord_iff.mp h).2
  rw [(isWord_iff.mp hother).2] at htext
  exact hne (String.toList_inj.mp htext.symm)

theorem isWord_eq_false_of_kind {token : Token} (word : String)
    (h : token.kind ≠ .identifier) : token.isWord word = false := by
  simp [isWord, h]

theorem InText.stop_eq_of_isWord {text : Text} {token : Token} (h : InText text token)
    {word : String} (hword : token.isWord word = true) :
    token.stop.offset = token.start.offset + word.length := by
  rw [h.stop_eq, (isWord_iff.mp hword).2, String.length_toList]

end Token

namespace Outline

/-! ## Uses of `main` -/

theorem mainUses_sublist (tokens : List Token) : (mainUses tokens).Sublist tokens := by
  fun_induction mainUses tokens with
  | case1 a b tokens _ ih => exact ih.cons_cons a
  | case2 a b tokens _ ih => exact ih.cons a
  | case3 => exact List.nil_sublist _

/-- A use of `main` is a token `main` with an opening parenthesis behind it. -/
theorem mem_mainUses_iff {tokens : List Token} {token : Token} :
    token ∈ mainUses tokens ↔ ∃ next, [token, next] <:+: tokens ∧ token.isWord "main" = true ∧
      next.kind = .openParen := by
  -- Two neighbours of the longer list are its first two tokens, or neighbours of its tail.
  have hcons (a b : Token) (tokens : List Token) (next : Token) :
      [token, next] <:+: a :: b :: tokens ↔
        (token = a ∧ next = b) ∨ [token, next] <:+: b :: tokens := by
    rw [List.infix_cons_iff, List.cons_prefix_cons, List.cons_prefix_cons]
    simp
  fun_induction mainUses tokens with
  | case1 a b tokens h ih =>
    simp only [Bool.and_eq_true, decide_eq_true_eq] at h
    simp only [hcons, List.mem_cons, ih]
    constructor
    · rintro (rfl | ⟨next, hnext, huse⟩)
      · exact ⟨b, .inl ⟨rfl, rfl⟩, h⟩
      · exact ⟨next, .inr hnext, huse⟩
    · rintro ⟨next, ⟨rfl, rfl⟩ | hnext, huse⟩
      · exact .inl rfl
      · exact .inr ⟨next, hnext, huse⟩
  | case2 a b tokens h ih =>
    simp only [Bool.and_eq_true, decide_eq_true_eq] at h
    simp only [hcons, ih]
    constructor
    · rintro ⟨next, hnext, huse⟩
      exact ⟨next, .inr hnext, huse⟩
    · rintro ⟨next, ⟨rfl, rfl⟩ | hnext, huse⟩
      · exact absurd huse h
      · exact ⟨next, hnext, huse⟩
  | case3 tokens hshort =>
    simp only [List.not_mem_nil, false_iff]
    rintro ⟨next, hnext, -⟩
    have hlength := hnext.length_le
    match tokens, hshort, hlength with
    | a :: b :: rest, hshort, _ => exact hshort a b rest rfl

/-- A unit declares `main` where the three words of the declaration stand one
behind the other. -/
theorem declaresMain_iff {tokens : List Token} :
    declaresMain tokens = true ↔ ∃ a b c, [a, b, c] <:+: tokens ∧ a.isWord "static" = true ∧
      b.isWord "void" = true ∧ c.isWord "main" = true := by
  fun_induction declaresMain tokens with
  | case1 a b c tokens ih =>
    have hcons (x y z : Token) : [x, y, z] <:+: a :: b :: c :: tokens ↔
        (x = a ∧ y = b ∧ z = c) ∨ [x, y, z] <:+: b :: c :: tokens := by
      rw [List.infix_cons_iff, List.cons_prefix_cons, List.cons_prefix_cons, List.cons_prefix_cons]
      simp
    simp only [Bool.or_eq_true, Bool.and_eq_true, ih, hcons]
    constructor
    · rintro (⟨⟨ha, hb⟩, hc⟩ | ⟨x, y, z, hholds, hwords⟩)
      · exact ⟨a, b, c, .inl ⟨rfl, rfl, rfl⟩, ha, hb, hc⟩
      · exact ⟨x, y, z, .inr hholds, hwords⟩
    · rintro ⟨x, y, z, ⟨rfl, rfl, rfl⟩ | hholds, hwords⟩
      · exact .inl ⟨⟨hwords.1, hwords.2.1⟩, hwords.2.2⟩
      · exact .inr ⟨x, y, z, hholds, hwords⟩
  | case2 tokens hshort =>
    refine iff_of_false (by simp) ?_
    rintro ⟨x, y, z, hholds, -⟩
    have hlength := hholds.length_le
    match tokens, hshort, hlength with
    | a :: b :: c :: rest, hshort, _ => exact hshort a b c rest rfl

theorem kind_of_mem_bareBraces {text : Text} {tokens : List Token} {token : Token}
    (h : token ∈ tokens.filter (isBareBrace text)) : token.kind = .openBrace := by
  have hbare := (List.mem_filter.mp h).2
  simp only [isBareBrace, Bool.and_eq_true, decide_eq_true_eq] at hbare
  exact hbare.1.1

theorem renamedMains_sublist (tokens : List Token) : (renamedMains tokens).Sublist tokens := by
  unfold renamedMains
  split
  · exact mainUses_sublist tokens
  · exact List.nil_sublist _

theorem isWord_of_mem_renamedMains {tokens : List Token} {token : Token}
    (h : token ∈ renamedMains tokens) : token.isWord "main" = true := by
  unfold renamedMains at h
  split at h
  · obtain ⟨-, -, hword, -⟩ := mem_mainUses_iff.mp h
    exact hword
  · simp at h

/-! ## Edited tokens -/

/-- The edit of a token that is edited at all: braces that open get a space, and
all other edited tokens are replaced. -/
def editOf (programName : Text) (token : Token) : Edit :=
  if token.isWord "prog" then
    ⟨token.start.offset, token.stop.offset, Scaffold.imports ++ Scaffold.classHeader⟩
  else if token.isWord "begin" then
    ⟨token.start.offset, token.stop.offset, Scaffold.prologue programName⟩
  else if token.kind = .closeBrace then
    ⟨token.start.offset, token.stop.offset, Scaffold.epilogue⟩
  else if token.kind = .openBrace then ⟨token.start.offset, token.start.offset, [' ']⟩
  else ⟨token.start.offset, token.stop.offset, Scaffold.renamedMain⟩

theorem editOf_start (programName : Text) (token : Token) :
    (editOf programName token).start = token.start.offset := by
  unfold editOf
  split_ifs <;> rfl

theorem editOf_stop (programName : Text) (token : Token) :
    (editOf programName token).stop =
      if token.kind = .openBrace then token.start.offset else token.stop.offset := by
  by_cases hkind : token.kind = .openBrace
  · have hword (word : String) : token.isWord word = false :=
      Token.isWord_eq_false_of_kind word (by simp [hkind])
    simp [editOf, hkind, hword]
  · unfold editOf
    split_ifs <;> simp_all

theorem editOf_prog (programName : Text) {token : Token} (h : token.isWord "prog" = true) :
    editOf programName token =
      ⟨token.start.offset, token.stop.offset, Scaffold.imports ++ Scaffold.classHeader⟩ :=
  if_pos h

theorem editOf_begin (programName : Text) {token : Token} (h : token.isWord "begin" = true) :
    editOf programName token =
      ⟨token.start.offset, token.stop.offset, Scaffold.prologue programName⟩ := by
  simp [editOf, h, Token.isWord_eq_false_of_ne h (by decide : "begin" ≠ "prog")]

theorem editOf_closeBrace (programName : Text) {token : Token} (h : token.kind = .closeBrace) :
    editOf programName token =
      ⟨token.start.offset, token.stop.offset, Scaffold.epilogue⟩ := by
  have hword (word : String) : token.isWord word = false :=
    Token.isWord_eq_false_of_kind word (by simp [h])
  simp [editOf, h, hword]

theorem editOf_openBrace (programName : Text) {token : Token} (h : token.kind = .openBrace) :
    editOf programName token = ⟨token.start.offset, token.start.offset, [' ']⟩ := by
  have hword (word : String) : token.isWord word = false :=
    Token.isWord_eq_false_of_kind word (by simp [h])
  simp [editOf, h, hword]

theorem editOf_main (programName : Text) {token : Token} (h : token.isWord "main" = true) :
    editOf programName token =
      ⟨token.start.offset, token.stop.offset, Scaffold.renamedMain⟩ := by
  simp [editOf, Token.isWord_eq_false_of_ne h (by decide : "main" ≠ "prog"),
    Token.isWord_eq_false_of_ne h (by decide : "main" ≠ "begin"), (Token.isWord_iff.mp h).1]

namespace Layout

variable {text : Text} (layout : Layout text)

/-- The tokens of a unit that its edits are about. -/
def edited : List Token :=
  [layout.prog, layout.begin, layout.closeBrace] ++
    (Token.ofText text).filter (isBareBrace text) ++ renamedMains (Token.ofText text)

theorem mem_edited_iff {token : Token} :
    token ∈ layout.edited ↔
      token = layout.prog ∨ token = layout.begin ∨ token = layout.closeBrace ∨
        token ∈ (Token.ofText text).filter (isBareBrace text) ∨
        token ∈ renamedMains (Token.ofText text) := by
  simp only [edited, List.mem_append, List.mem_cons, List.not_mem_nil, or_false, or_assoc]

theorem mem_of_mem_edited {token : Token} (h : token ∈ layout.edited) :
    token ∈ Token.ofText text := by
  rcases layout.mem_edited_iff.mp h with rfl | rfl | rfl | h | h
  · exact layout.prog_mem
  · exact layout.begin_mem
  · exact layout.closeBrace_mem
  · exact (List.mem_filter.mp h).1
  · exact (renamedMains_sublist _).subset h

theorem kind_of_mem_edited {token : Token} (h : token ∈ layout.edited) :
    token.kind = .identifier ∨ token.kind = .closeBrace ∨ token.kind = .openBrace := by
  rcases layout.mem_edited_iff.mp h with rfl | rfl | rfl | hbare | hmain
  · exact .inl (Token.isWord_iff.mp layout.prog_isWord).1
  · exact .inl (Token.isWord_iff.mp layout.begin_isWord).1
  · exact .inr (.inl layout.closeBrace_kind)
  · exact .inr (.inr (kind_of_mem_bareBraces hbare))
  · exact .inl (Token.isWord_iff.mp (isWord_of_mem_renamedMains hmain)).1

/-- An edited token is on one line, and neither a literal nor a part of a comment. -/
theorem plain_of_mem_edited {token : Token} (h : token ∈ layout.edited) :
    Text.Plain token.text := by
  have hmem := layout.mem_of_mem_edited h
  rcases layout.kind_of_mem_edited h with hkind | hkind | hkind
  · exact Token.plain_of_identifier hmem hkind
  · have hbrace : token.text = ['}'] := Token.text_eq_of_kind hmem hkind (by decide)
    rw [hbrace]
    decide
  · have hbrace : token.text = ['{'] := Token.text_eq_of_kind hmem hkind (by decide)
    rw [hbrace]
    decide

theorem nodup_edited : layout.edited.Nodup := by
  have hnodup := Token.nodup_ofText text
  obtain ⟨hprog, hprogText⟩ := Token.isWord_iff.mp layout.prog_isWord
  obtain ⟨hbegin, hbeginText⟩ := Token.isWord_iff.mp layout.begin_isWord
  have hclose := layout.closeBrace_kind
  have hmain : ∀ token ∈ renamedMains (Token.ofText text),
      token.kind = .identifier ∧ token.text = "main".toList := by
    intro token hmem
    exact Token.isWord_iff.mp (isWord_of_mem_renamedMains hmem)
  rw [edited, List.nodup_append, List.nodup_append]
  refine ⟨⟨?_, hnodup.sublist List.filter_sublist, ?_⟩,
    hnodup.sublist (renamedMains_sublist _), ?_⟩
  · have hwords : layout.prog ≠ layout.begin := by
      intro heq
      rw [heq, hbeginText] at hprogText
      exact absurd hprogText (by decide)
    have hprogClose : layout.prog ≠ layout.closeBrace := by
      intro heq
      simp [← heq, hprog] at hclose
    have hbeginClose : layout.begin ≠ layout.closeBrace := by
      intro heq
      simp [← heq, hbegin] at hclose
    simp [hwords, hprogClose, hbeginClose]
  · rintro a ha b hb rfl
    have hkind := kind_of_mem_bareBraces hb
    simp only [List.mem_cons, List.not_mem_nil, or_false] at ha
    rcases ha with rfl | rfl | rfl <;> simp_all
  · rintro a ha b hb rfl
    obtain ⟨hkind, htext⟩ := hmain a hb
    simp only [List.mem_append, List.mem_cons, List.not_mem_nil, or_false] at ha
    rcases ha with (rfl | rfl | rfl) | ha
    · rw [hprogText] at htext
      exact absurd htext (by decide)
    · rw [hbeginText] at htext
      exact absurd htext (by decide)
    · simp [hkind] at hclose
    · simp [kind_of_mem_bareBraces ha] at hkind

/-- Every edit is the one of an edited token. -/
theorem edits_eq : layout.outline.edits = layout.edited.map (editOf layout.name.text) := by
  have hprog := (Token.inText_of_mem layout.prog_mem).stop_eq_of_isWord layout.prog_isWord
  have hbegin := (Token.inText_of_mem layout.begin_mem).stop_eq_of_isWord layout.begin_isWord
  have hclose : layout.closeBrace.stop.offset = layout.closeBrace.start.offset + 1 := by
    have hbrace : layout.closeBrace.text = ['}'] :=
      Token.text_eq_of_kind layout.closeBrace_mem layout.closeBrace_kind (by decide)
    rw [(Token.inText_of_mem layout.closeBrace_mem).stop_eq, hbrace, List.length_singleton]
  have hbare : ((Token.ofText text).filter (isBareBrace text)).map (editOf layout.name.text) =
      layout.outline.bareBraces.map fun place => ⟨place, place, [' ']⟩ := by
    rw [outline, List.map_map]
    apply List.map_congr_left
    intro token hmem
    exact editOf_openBrace _ (kind_of_mem_bareBraces hmem)
  have hmains : (renamedMains (Token.ofText text)).map (editOf layout.name.text) =
      layout.outline.entryPoints.map fun place =>
        ⟨place, place + "main".length, Scaffold.renamedMain⟩ := by
    rw [outline, List.map_map]
    apply List.map_congr_left
    intro token hmem
    have hword := isWord_of_mem_renamedMains hmem
    have htoken := Token.inText_of_mem ((renamedMains_sublist _).subset hmem)
    have hstop := htoken.stop_eq_of_isWord hword
    rw [editOf_main _ hword, hstop]
    rfl
  rw [edited, List.map_append, List.map_append, hbare, hmains, edits, List.map_cons, List.map_cons,
    List.map_cons, List.map_nil, editOf_prog _ layout.prog_isWord,
    editOf_begin _ layout.begin_isWord, editOf_closeBrace _ layout.closeBrace_kind, hprog, hbegin,
    hclose]
  rfl

/-- The edits of a unit do not interfere. -/
theorem spaced_edits : Edit.Spaced text.length layout.outline.edits := by
  rw [edits_eq]
  constructor
  · intro edit hmem
    obtain ⟨token, htoken, rfl⟩ := List.mem_map.mp hmem
    have hin := Token.inText_of_mem (layout.mem_of_mem_edited htoken)
    have hlt := hin.start_lt_stop
    have hle := hin.stop_le
    rw [editOf_start, editOf_stop]
    split_ifs <;> omega
  · rw [List.pairwise_map]
    refine layout.nodup_edited.imp_of_mem ?_
    intro a b ha hb hne
    have hamem := layout.mem_of_mem_edited ha
    have hbmem := layout.mem_of_mem_edited hb
    have halt := (Token.inText_of_mem hamem).start_lt_stop
    have hblt := (Token.inText_of_mem hbmem).start_lt_stop
    have hapart := Token.stop_le_or_stop_le hamem hbmem hne
    simp only [Edit.Apart, editOf_start, editOf_stop]
    constructor
    · omega
    · split_ifs <;> omega

end Layout

/-- A token is the last closing brace of a text. -/
def IsLastCloseBrace (text : Text) (token : Token) : Prop :=
  token.kind = .closeBrace ∧ ∀ other ∈ Token.ofText text, other.kind = .closeBrace →
    other.start.offset ≤ token.start.offset

theorem Layout.isLastCloseBrace {text : Text} (layout : Layout text) :
    IsLastCloseBrace text layout.closeBrace := by
  refine ⟨layout.closeBrace_kind, ?_⟩
  intro other hmem hkind
  have htokens := layout.tokens_from_closeBrace
  rw [htokens, List.mem_append, List.mem_cons] at hmem
  rcases hmem with hmem | rfl | hmem
  · obtain ⟨before, between, hsplit⟩ := List.append_of_mem hmem
    rw [hsplit, List.append_assoc, List.cons_append] at htokens
    exact Nat.le_of_lt (Token.start_lt_of_mem_rest htokens (by simp))
  · exact Nat.le_refl _
  · exact absurd hkind (layout.trailing_kind other hmem)

/-- The edits of a unit with an outline are spaced, each of them replaces a
landmark or a use of `main` or stands in front of an opening brace, and in
whatever order they are listed, applying them makes all of them at once: what
lies outside their spans is copied, and what lies outside and inside is the
whole text. -/
theorem applyAll_edits {text : Text} {outline : Outline} (h : ofText text = .ok outline) :
    Edit.Spaced text.length outline.edits ∧
      (∀ edit ∈ outline.edits, ∃ token ∈ Token.ofText text, edit.start = token.start.offset ∧
        ((edit.stop = token.stop.offset ∧
            (token.isWord "prog" = true ∨ token.isWord "begin" = true ∨
              IsLastCloseBrace text token ∨ token.isWord "main" = true)) ∨
          (edit.stop = edit.start ∧ token.kind = .openBrace))) ∧
      (∀ listed : List Edit, listed.Perm outline.edits →
        Edit.applyAll text listed = Edit.simultaneous text outline.edits) ∧
      Edit.spliceFrom text 0 ((Edit.frontToBack outline.edits).map (Edit.unchanged text)) =
        text := by
  obtain ⟨layout, rfl⟩ := exists_layout_of_ofText h
  have hspaced := layout.spaced_edits
  refine ⟨hspaced, ?_, ?_, Edit.simultaneous_unchanged hspaced⟩
  · intro edit hmem
    rw [layout.edits_eq] at hmem
    obtain ⟨token, htoken, rfl⟩ := List.mem_map.mp hmem
    refine ⟨token, layout.mem_of_mem_edited htoken, editOf_start _ _, ?_⟩
    rcases layout.mem_edited_iff.mp htoken with rfl | rfl | rfl | htoken | htoken
    · rw [editOf_prog _ layout.prog_isWord]
      exact .inl ⟨rfl, .inl layout.prog_isWord⟩
    · rw [editOf_begin _ layout.begin_isWord]
      exact .inl ⟨rfl, .inr (.inl layout.begin_isWord)⟩
    · rw [editOf_closeBrace _ layout.closeBrace_kind]
      exact .inl ⟨rfl, .inr (.inr (.inl layout.isLastCloseBrace))⟩
    · have hkind := kind_of_mem_bareBraces htoken
      rw [editOf_openBrace _ hkind]
      exact .inr ⟨rfl, hkind⟩
    · have hword := isWord_of_mem_renamedMains htoken
      rw [editOf_main _ hword]
      exact .inl ⟨rfl, .inr (.inr (.inr hword))⟩
  · intro listed hperm
    rw [Edit.applyAll_eq_simultaneous (hspaced.perm hperm), Edit.simultaneous,
      Edit.frontToBack_of_perm hspaced hperm, Edit.simultaneous]

theorem applyAll_edits_of_main :
    ∃ outline, ofText "prog A{static void main(){}begin{main();}}".toList = .ok outline ∧
      outline.edits.length = 8 ∧
      Edit.applyAll "prog A{static void main(){}begin{main();}}".toList outline.edits.reverse =
        Edit.simultaneous "prog A{static void main(){}begin{main();}}".toList outline.edits := by
  have haccepted : ofText "prog A{static void main(){}begin{main();}}".toList =
      .ok ⟨0, 6, 27, 41, ['A'], none, [6, 25, 32], [19, 33]⟩ := by decide +kernel
  exact ⟨_, haccepted, rfl, (applyAll_edits haccepted).2.2.1 _ (List.reverse_perm _)⟩

end Outline

/-- The Java units are those of the texts with an outline. -/
theorem JavaUnit.ofText_eq_ok_iff {text : Text} {unit : JavaUnit} :
    ofText text = .ok unit ↔
      ∃ outline, Outline.ofText text = .ok outline ∧ ofOutline text outline = unit := by
  rw [ofText]
  cases Outline.ofText text with
  | error defect => simp [Except.map]
  | ok outline => simp [Except.map]

end Transcompiler
