/-
# The entry point of the Java class

A class is entered at `static void main(`. The text for `begin` has these four
tokens, and the Java text has them nowhere else: where the unit has them, its
`main` is renamed, together with all other uses of it.

The tokens are looked for as a pattern in the list of tokens. The pattern does not
overlap itself, so it is found once in a list if it is found neither in front of
one occurrence nor behind it (`append_pattern_inj`). What stands for a token other
than `begin` either holds no `static` and begins with a token that the pattern does
not have, or is the token itself. So a pattern in what stands for a part of the unit
is one in the part, and there `main` would have another name.
-/

import Transcompiler.Proofs.Translation

namespace Transcompiler

/-! ## Patterns in lists -/

section Pattern

variable {α : Type} {a x : α} {as pattern left right front back : List α}

/-- A pattern does not run across an element that it does not have. -/
theorem infix_append_cons_iff_of_notMem (hx : x ∉ pattern) :
    pattern <:+: left ++ x :: right ↔ pattern <:+: left ∨ pattern <:+: right := by
  constructor
  · intro h
    rcases List.infix_append_iff.mp h with hleft | hright | ⟨first, second, rfl, hfirst, hsecond⟩
    · exact .inl hleft
    · rcases List.infix_cons_iff.mp hright with hprefix | hright
      · rcases List.prefix_cons_iff.mp hprefix with rfl | ⟨rest, rfl, -⟩
        · exact .inl List.nil_infix
        · exact absurd List.mem_cons_self hx
      · exact .inr hright
    · rcases List.prefix_cons_iff.mp hsecond with rfl | ⟨rest, rfl, -⟩
      · rw [List.append_nil]
        exact .inl hfirst.isInfix
      · exact absurd (List.mem_append_right _ List.mem_cons_self) hx
  · rintro (hleft | hright)
    · exact List.infix_append_of_infix_left hleft
    · exact List.infix_append_of_infix_right (List.infix_cons hright)

/-- A pattern does not begin in a list that does not have its first element. -/
theorem cons_infix_append_iff_of_notMem (ha : a ∉ left) :
    a :: as <:+: left ++ right ↔ a :: as <:+: right := by
  induction left with
  | nil => rfl
  | cons b left ih =>
    rw [List.mem_cons, not_or] at ha
    rw [List.cons_append, List.infix_cons_iff, List.cons_prefix_cons, ih ha.2]
    simp [ha.1]

/-- A pattern is not in joined pieces if no piece has it, and none ends with an
element after which it goes on. -/
theorem not_infix_flatten {pieces : List (List α)} [DecidableEq α] (hne : pattern ≠ [])
    (h : ∀ piece ∈ pieces, ¬pattern <:+: piece ∧
      piece.getLast?.all (· ∉ pattern.dropLast) = true) :
    ¬pattern <:+: pieces.flatten := by
  induction pieces with
  | nil => exact fun hholds => hne (List.infix_nil.mp hholds)
  | cons piece pieces ih =>
    rw [List.forall_mem_cons] at h
    obtain ⟨⟨hpiece, hlast⟩, hpieces⟩ := h
    rw [List.flatten_cons, List.infix_append_iff_ne_nil]
    rintro (hleft | hright | ⟨first, second, hfirst, hsecond, rfl, hends, -⟩)
    · exact hpiece hleft
    · exact ih hpieces hright
    · obtain ⟨before, x, rfl⟩ := (List.eq_nil_or_concat first).resolve_left hfirst
      obtain ⟨front, rfl⟩ := hends
      rw [List.concat_eq_append, ← List.append_assoc, List.getLast?_concat,
        List.dropLast_append_of_ne_nil hsecond] at hlast
      simp at hlast

/-- A second occurrence of a pattern that does not overlap itself begins behind the
first. -/
theorem cons_prefix_of_append_eq {between : List α} (ha : a ∉ as) (hne : between ≠ [])
    (h : a :: as ++ right = between ++ (a :: as ++ back)) : a :: as <+: between := by
  obtain ⟨b, between, rfl⟩ := List.exists_cons_of_ne_nil hne
  rw [List.cons_append, List.cons_append, List.cons.injEq] at h
  obtain ⟨rfl, h⟩ := h
  rw [List.cons_prefix_cons]
  refine ⟨rfl, ?_⟩
  rcases List.append_eq_append_iff.mp h with ⟨more, rfl, -⟩ | ⟨more, rfl, hmore⟩
  · exact List.prefix_append _ _
  · cases more with
    | nil => exact ⟨[], by simp⟩
    | cons c more =>
      obtain ⟨rfl, -⟩ := List.cons.inj hmore
      exact absurd (List.mem_append_right _ List.mem_cons_self) ha

theorem append_pattern_inj (ha : a ∉ as) (hfront : ¬a :: as <:+: front)
    (hback : ¬a :: as <:+: back) :
    front ++ (a :: as ++ back) = left ++ (a :: as ++ right) ↔ left = front ∧ right = back := by
  constructor
  · intro h
    rcases List.append_eq_append_iff.mp h with ⟨between, rfl, hrest⟩ | ⟨between, rfl, hrest⟩
    · by_cases hnil : between = []
      · subst hnil
        exact ⟨List.append_nil _, (List.append_cancel_left hrest).symm⟩
      · obtain ⟨more, rfl⟩ := cons_prefix_of_append_eq ha hnil hrest
        rw [List.append_assoc] at hrest
        rw [List.append_cancel_left hrest] at hback
        exact absurd (List.infix_append' _ _ _) hback
    · by_cases hnil : between = []
      · subst hnil
        exact ⟨(List.append_nil _).symm, List.append_cancel_left hrest⟩
      · have hprefix := cons_prefix_of_append_eq ha hnil hrest
        exact absurd (List.infix_append_of_infix_right hprefix.isInfix) hfront
  · rintro ⟨rfl, rfl⟩
    rfl

end Pattern

/-! ## The pattern in the fixed Java text -/

/-- The tokens that head the entry point of a class. -/
def entryHeading : List (TokenKind × Text) :=
  [(.identifier, "static".toList), (.identifier, "void".toList), (.identifier, "main".toList),
    (.openParen, ['('])]

theorem Token.infix_of_mem_contents {text word : Text} {kind : TokenKind}
    (h : (kind, word) ∈ contents text) : word <:+: text := by
  obtain ⟨token, hmem, hcontent⟩ := List.mem_map.mp h
  obtain ⟨front, rest, hsplit⟩ := List.append_of_mem hmem
  obtain ⟨before, behind, htext, -⟩ := exists_texts_of_ofText hsplit
  refine ⟨before, behind, ?_⟩
  rw [htext, List.append_assoc, (Prod.mk.inj hcontent).2]

namespace Scaffold

open Token (contents)

/-- The support members begin with `private` and do not name `main`. -/
theorem exists_support_eq :
    ∃ rest, support = "private".toList ++ ' ' :: rest ∧ ¬"main".toList <:+: support := by
  -- The pieces are searched one by one: as one text they are too long for the search.
  have hmembers : ∃ pieces, supportMembers.map String.toList = pieces ∧
      "private".toList ++ [' '] <+: pieces.flatten ∧
      ∀ piece ∈ pieces ++ [[' ']], ¬"main".toList <:+: piece ∧
        piece.getLast?.all (· ∉ "main".toList.dropLast) = true := by
    apply Exists.intro
    apply And.intro
    · unfold supportMembers stateMembers inputMembers outputMembers environmentMembers
      simp only [List.cons_append, List.nil_append]
      repeat apply Text.map_toList_cons
      rfl
    · decide +kernel
  obtain ⟨pieces, hpieces, ⟨rest, hrest⟩, hmain⟩ := hmembers
  have hsupport : support = (pieces ++ [[' ']]).flatten := by
    rw [support, List.flatMap_def, hpieces, List.flatten_append, List.flatten_singleton]
  rw [hsupport]
  refine ⟨rest ++ [' '], ?_, not_infix_flatten (by simp) hmain⟩
  rw [List.flatten_append, List.flatten_singleton, ← hrest]
  simp only [List.append_assoc, List.cons_append, List.nil_append]

/-- The first token of the members is `private`, and none of them is `main`. -/
theorem exists_contents_support :
    ∃ rest, contents support = (.identifier, "private".toList) :: rest ∧
      (.identifier, "main".toList) ∉ rest := by
  obtain ⟨rest, hsupport, hmain⟩ := exists_support_eq
  have hprivate : contents "private".toList = [(.identifier, "private".toList)] := by
    decide +kernel
  have hcontents : contents support =
      (.identifier, "private".toList) :: contents (' ' :: rest) := by
    rw [hsupport, Token.contents_append_of_plain (Text.plain_toList_ofList _ rfl), hprivate]
    · rfl
    · rintro - - - d ⟨⟩
      rfl
  refine ⟨_, hcontents, ?_⟩
  intro hmem
  have hmem := List.mem_cons_of_mem (.identifier, "private".toList) hmem
  rw [← hcontents] at hmem
  exact hmain (Token.infix_of_mem_contents hmem)

/-- The text for `begin` has its heading behind a constructor, and names `main` no
more behind it. -/
theorem exists_contents_prologue {programName : Text} (hplain : Text.Plain programName)
    (hname : contents programName = [(.identifier, programName)]) :
    ∃ tail, contents (prologue programName) =
        contents support ++ (.identifier, "private".toList) ::
          ([(.identifier, programName), (.openParen, ['(']), (.other, [')'])] ++
            (.openBrace, ['{']) :: [(.closeBrace, ['}']), (.identifier, "public".toList)] ++
            (entryHeading ++ (tail ++ [(.semicolon, [';'])]))) ∧
      (.identifier, "main".toList) ∉ tail := by
  have hspace (text : Text) (hlast : text.getLast? = some ' ') (right : Text) :
      ∀ c ∈ text.getLast?, Lexeme.isIdentifierPart c = true →
        ∀ d ∈ right.head?, Lexeme.isIdentifierPart d = false := by
    rw [hlast]
    rintro c ⟨⟩ hpart
    contradiction
  have hprivate : contents " private ".toList = [(.identifier, "private".toList)] := by
    decide +kernel
  refine ⟨[(.identifier, "String".toList), (.other, ['[']), (.other, [']']),
    (.identifier, "_$args".toList), (.other, [')']), (.openBrace, ['{']),
    (.identifier, "try".toList), (.openBrace, ['{']), (.identifier, "init".toList),
    (.openParen, ['(']), (.identifier, "_$args".toList), (.other, [')'])], ?_, by simp⟩
  rw [prologue, List.append_assoc, List.append_assoc,
    Token.contents_append_of_plain plain_support (hspace _ List.getLast?_concat _),
    Token.contents_append_of_plain (Text.plain_toList_ofList _ rfl) (hspace _ ?_ _), hprivate,
    Token.contents_append_of_plain hplain, hname]
  · refine congrArg (fun rest => contents support ++ (.identifier, "private".toList) ::
      (.identifier, programName) :: rest) ?_
    decide +kernel
  · intro c _ _ d hd
    have hparen := (congrArg List.head? String.toList_ofList).symm.trans hd
    obtain rfl : '(' = d := Option.some.inj hparen
    rfl
  · exact congrArg List.getLast? String.toList_ofList

/-- The text for `begin` heads the entry point once, and what stands around it does
not run together with it. -/
theorem exists_entryHeading_prologue {programName : Text} (hplain : Text.Plain programName)
    (hname : contents programName = [(.identifier, programName)]) :
    ∃ lead tail, contents (prologue programName) = lead ++ (entryHeading ++ tail) ∧
      (∀ front, entryHeading <:+: front ++ lead ↔ entryHeading <:+: front) ∧
      ∀ behind, entryHeading <:+: tail ++ behind ↔ entryHeading <:+: behind := by
  obtain ⟨members, hsupport, hmembers⟩ := exists_contents_support
  obtain ⟨tail, hprologue, htail⟩ := exists_contents_prologue hplain hname
  have hmain : (.identifier, "main".toList) ∈ entryHeading := by simp [entryHeading]
  have hprivate : (.identifier, "private".toList) ∉ entryHeading := by simp [entryHeading]
  have hbrace : (.openBrace, ['{']) ∉ entryHeading := by simp [entryHeading]
  have hsemicolon : (.semicolon, [';']) ∉ entryHeading := by simp [entryHeading]
  refine ⟨(.identifier, "private".toList) :: (members ++ (.identifier, "private".toList) ::
    ([(.identifier, programName), (.openParen, ['(']), (.other, [')'])] ++
      (.openBrace, ['{']) :: [(.closeBrace, ['}']), (.identifier, "public".toList)])),
    tail ++ [(.semicolon, [';'])], ?_, ?_, ?_⟩
  · rw [hprologue, hsupport]
    simp only [List.cons_append, List.append_assoc]
  · -- What is left between the words that the heading does not have is too short for it.
    intro front
    rw [infix_append_cons_iff_of_notMem hprivate, infix_append_cons_iff_of_notMem hprivate,
      infix_append_cons_iff_of_notMem hbrace]
    refine or_iff_left ?_
    rintro (h | h | h)
    · exact hmembers (h.subset hmain)
    · exact absurd h.length_le (by simp [entryHeading])
    · exact absurd h.length_le (by simp [entryHeading])
  · intro behind
    rw [List.append_assoc, List.singleton_append, infix_append_cons_iff_of_notMem hsemicolon]
    exact or_iff_right fun h => htail (h.subset hmain)

/-- Tokens in which no heading begins, and that do not go on with one. -/
def KeepsApart (tokens : List (TokenKind × Text)) : Prop :=
  (.identifier, "static".toList) ∉ tokens ∧ ∃ first ∈ tokens.head?, first ∉ entryHeading

instance (tokens : List (TokenKind × Text)) : Decidable (KeepsApart tokens) :=
  inferInstanceAs (Decidable (_ ∧ _))

theorem keepsApart_classText : KeepsApart (contents (imports ++ classHeader)) := by
  decide +kernel

theorem keepsApart_epilogue : KeepsApart (contents epilogue) := by
  decide +kernel

theorem keepsApart_renamedMain : KeepsApart [(.identifier, renamedMain)] := by
  decide +kernel

end Scaffold

/-! ## The pattern in what stands for a unit -/

namespace Outline.Layout

open Scaffold (KeepsApart)

variable {text : Text} (layout : Layout text) {token : Token}

theorem standIn_cases (hmem : token ∈ Token.ofText text) (hbegin : token ≠ layout.begin) :
    layout.outline.standIn token = [token.content] ∨
      KeepsApart (layout.outline.standIn token) := by
  unfold standIn
  split_ifs with hprog hstart hlast hmain
  · exact .inr Scaffold.keepsApart_classText
  · exact absurd (Token.eq_of_start_eq hmem layout.begin_mem hstart) hbegin
  · exact .inr Scaffold.keepsApart_epilogue
  · exact .inr Scaffold.keepsApart_renamedMain
  · exact .inl rfl

/-- A token that is no landmark and no `main` stands for itself. -/
theorem standIn_eq_content (hmem : token ∈ Token.ofText text)
    (hprog : token.isWord "prog" = false) (hbegin : token.isWord "begin" = false)
    (hmain : token.isWord "main" = false) (hclose : token.kind ≠ .closeBrace) :
    layout.outline.standIn token = [token.content] := by
  obtain ⟨front, behind, hsplit⟩ := List.append_of_mem hmem
  rw [← layout.contents_image_eq_standIn hmem, layout.contents_image hsplit, javaContent]
  simp [hprog, hbegin, hmain, hclose]

/-- A `main` with an opening parenthesis behind it is renamed if the unit declares
one. -/
theorem standIn_eq_renamedMain {main paren : Token}
    (hdeclares : declaresMain (Token.ofText text) = true)
    (hnext : [main, paren] <:+: Token.ofText text) (hword : main.isWord "main" = true)
    (hparen : paren.kind = .openParen) :
    layout.outline.standIn main = [(.identifier, "_$main".toList)] := by
  obtain ⟨front, behind, hholds⟩ := hnext
  have hsplit : Token.ofText text = front ++ main :: (paren :: behind) := by
    rw [← hholds, List.append_assoc]
    rfl
  have hmem : main ∈ Token.ofText text := by simp [hsplit]
  have hkind := (Token.isWord_iff.mp hword).1
  rw [← layout.contents_image_eq_standIn hmem, layout.contents_image hsplit, javaContent]
  simp [Token.isWord_eq_false_of_ne hword (show "main" ≠ "prog" by decide),
    Token.isWord_eq_false_of_ne hword (show "main" ≠ "begin" by decide), hkind, hdeclares, hword,
    hparen]

/-- What of the heading stands at the front of the texts for a part of the unit is
kept from the front of the part. -/
theorem exists_tokens_of_prefix {part : List Token} (hpart : part ⊆ Token.ofText text)
    (hbegin : layout.begin ∉ part) {contents : List (TokenKind × Text)}
    (hcontents : contents ⊆ entryHeading)
    (h : contents <+: part.flatMap layout.outline.standIn) :
    ∃ tokens, tokens <+: part ∧ tokens.map Token.content = contents ∧
      ∀ token ∈ tokens, layout.outline.standIn token = [token.content] := by
  induction contents generalizing part with
  | nil => exact ⟨[], List.nil_prefix, rfl, List.forall_mem_nil _⟩
  | cons content contents ih =>
    rw [List.cons_subset] at hcontents
    cases part with
    | nil => exact absurd (List.prefix_nil.mp h) (List.cons_ne_nil _ _)
    | cons token part =>
      rw [List.cons_subset] at hpart
      rw [List.mem_cons, not_or] at hbegin
      rw [List.flatMap_cons] at h
      rcases layout.standIn_cases hpart.1 (Ne.symm hbegin.1) with
        hkept | ⟨-, first, hfirst, hother⟩
      · rw [hkept, List.singleton_append, List.cons_prefix_cons] at h
        obtain ⟨rfl, h⟩ := h
        obtain ⟨tokens, hprefix, rfl, htokens⟩ := ih hpart.2 hbegin.2 hcontents.2 h
        exact ⟨token :: tokens, List.cons_prefix_cons.mpr ⟨rfl, hprefix⟩, rfl,
          List.forall_mem_cons.mpr ⟨hkept, htokens⟩⟩
      · obtain ⟨others, hothers⟩ := List.head?_eq_some_iff.mp hfirst
        rw [hothers, List.cons_append, List.cons_prefix_cons] at h
        exact absurd hcontents.1 (h.1 ▸ hother)

theorem standIn_main_of_declaration {static void main paren : Token}
    (hdeclaration : [static, void, main, paren] <:+: Token.ofText text)
    (hstatic : static.isWord "static" = true) (hvoid : void.isWord "void" = true)
    (hmain : main.isWord "main" = true) (hparen : paren.kind = .openParen) :
    layout.outline.standIn main = [(.identifier, "_$main".toList)] := by
  have htriple : [static, void, main] <:+: Token.ofText text :=
    (List.prefix_append [static, void, main] [paren]).isInfix.trans hdeclaration
  have hnext : [main, paren] <:+: Token.ofText text :=
    (List.suffix_append [static, void] [main, paren]).isInfix.trans hdeclaration
  exact layout.standIn_eq_renamedMain
    (declaresMain_iff.mpr ⟨static, void, main, htriple, hstatic, hvoid, hmain⟩) hnext hmain hparen

/-- A unit that has the heading does not keep all of it. -/
theorem exists_renamed_of_map_content {tokens : List Token}
    (htokens : tokens <:+: Token.ofText text) (h : tokens.map Token.content = entryHeading) :
    ∃ token ∈ tokens, layout.outline.standIn token ≠ [token.content] := by
  simp only [entryHeading, List.map_eq_cons_iff, List.map_eq_nil_iff] at h
  obtain ⟨static, -, rfl, hstatic, void, -, rfl, hvoid, main, -, rfl, hmain, paren, -, rfl, hparen,
    rfl⟩ := h
  have hrenamed := layout.standIn_main_of_declaration htokens
    (Token.isWord_iff.mpr (Prod.mk.inj hstatic)) (Token.isWord_iff.mpr (Prod.mk.inj hvoid))
    (Token.isWord_iff.mpr (Prod.mk.inj hmain)) (Prod.mk.inj hparen).1
  refine ⟨main, by simp, ?_⟩
  rw [hrenamed, hmain]
  decide +kernel

/-- Apart from the text for `begin`, the Java text has no heading of an entry
point. -/
theorem entryHeading_not_infix {part : List Token} (hpart : part <:+: Token.ofText text)
    (hbegin : layout.begin ∉ part) :
    ¬entryHeading <:+: part.flatMap layout.outline.standIn := by
  induction part with
  | nil => exact fun h => absurd h.length_le (by simp [entryHeading])
  | cons token part ih =>
    have hrest := ih ((List.suffix_cons token part).isInfix.trans hpart)
      (fun hmem => hbegin (List.mem_cons_of_mem _ hmem))
    have hne : token ≠ layout.begin := fun heq => hbegin (heq ▸ List.mem_cons_self)
    rcases layout.standIn_cases (hpart.subset List.mem_cons_self) hne with hkept | ⟨hapart, -⟩
    · intro h
      rw [List.flatMap_cons, hkept, List.singleton_append, List.infix_cons_iff] at h
      rcases h with hprefix | hinfix
      · rw [← List.singleton_append, ← hkept, ← List.flatMap_cons] at hprefix
        obtain ⟨tokens, htokens, hcontents, hall⟩ :=
          layout.exists_tokens_of_prefix hpart.subset hbegin (List.Subset.refl _) hprefix
        obtain ⟨main, hmem, hrenamed⟩ :=
          layout.exists_renamed_of_map_content (htokens.isInfix.trans hpart) hcontents
        exact hrenamed (hall main hmem)
      · exact hrest hinfix
    · rwa [List.flatMap_cons, entryHeading, cons_infix_append_iff_of_notMem hapart]

/-- A heading of an entry point is neither in front of the one in the text for
`begin` nor behind it. -/
theorem exists_entryHeading :
    ∃ front behind lead tail, Token.ofText text = front ++ layout.begin :: behind ∧
      Token.contents (Scaffold.prologue layout.outline.programName) =
        lead ++ (entryHeading ++ tail) ∧
      ¬entryHeading <:+: front.flatMap layout.outline.standIn ++ lead ∧
      ¬entryHeading <:+: tail ++ behind.flatMap layout.outline.standIn := by
  obtain ⟨front, behind, hsplit⟩ := List.append_of_mem layout.begin_mem
  obtain ⟨hfront, hbehind⟩ := Token.not_mem_of_split hsplit
  have hname : Token.contents layout.outline.programName =
      [(.identifier, layout.outline.programName)] := by
    obtain ⟨rest, hleads⟩ := Token.exists_leads_of_mem layout.name_mem
    exact (Token.contents_text hleads).trans (by rw [layout.name_kind]; rfl)
  have hplain : Text.Plain layout.outline.programName :=
    Token.plain_of_identifier layout.name_mem layout.name_kind
  obtain ⟨lead, tail, hprologue, hlead, htail⟩ :=
    Scaffold.exists_entryHeading_prologue hplain hname
  refine ⟨front, behind, lead, tail, hsplit, hprologue, ?_, ?_⟩
  · rw [hlead]
    refine layout.entryHeading_not_infix ?_ hfront
    rw [hsplit]
    exact (List.prefix_append _ _).isInfix
  · rw [htail]
    refine layout.entryHeading_not_infix ?_ hbehind
    rw [hsplit]
    exact ((List.suffix_cons _ _).trans (List.suffix_append _ _)).isInfix

/-- A declaration of `main` stands in the Java text under the new name. -/
theorem flatMap_standIn_declaration {static void main paren : Token}
    (hdeclaration : [static, void, main, paren] <:+: Token.ofText text)
    (hstatic : static.isWord "static" = true) (hvoid : void.isWord "void" = true)
    (hmain : main.isWord "main" = true) (hparen : paren.kind = .openParen) :
    [static, void, main, paren].flatMap layout.outline.standIn =
      [(.identifier, "static".toList), (.identifier, "void".toList),
        (.identifier, "_$main".toList), (.openParen, ['('])] := by
  have hword {token : Token} {word : String} (hmem : token ∈ [static, void, main, paren])
      (hword : token.isWord word = true)
      (hne : word ≠ "prog" ∧ word ≠ "begin" ∧ word ≠ "main") :
      layout.outline.standIn token = [(.identifier, word.toList)] := by
    obtain ⟨hkind, htext⟩ := Token.isWord_iff.mp hword
    rw [layout.standIn_eq_content (hdeclaration.subset hmem)
      (Token.isWord_eq_false_of_ne hword hne.1) (Token.isWord_eq_false_of_ne hword hne.2.1)
      (Token.isWord_eq_false_of_ne hword hne.2.2) (by rw [hkind]; decide), Token.content, hkind,
      htext]
  have hopen : layout.outline.standIn paren = [(.openParen, ['('])] := by
    have hmem : paren ∈ Token.ofText text := hdeclaration.subset (by simp)
    have hnot (word : String) : paren.isWord word = false := by simp [Token.isWord, hparen]
    have htext : paren.text = ['('] := Token.text_eq_of_kind hmem hparen (by decide)
    rw [layout.standIn_eq_content hmem (hnot _) (hnot _) (hnot _) (by rw [hparen]; decide),
      Token.content, hparen, htext]
  simp only [List.flatMap_cons, List.flatMap_nil, hopen,
    hword (by simp) hstatic (by decide), hword (by simp) hvoid (by decide),
    layout.standIn_main_of_declaration hdeclaration hstatic hvoid hmain hparen,
    List.singleton_append, List.append_nil]

end Outline.Layout

/-- The Java text heads an entry point exactly once, within the text for `begin`.
If the unit declares `main` itself, all uses of it have the new name. -/
theorem JavaUnit.entryHeading_source {text : Text} {outline : Outline}
    (h : Outline.ofText text = .ok outline)
    (hquote : ∀ token ∈ Token.ofText text, token.kind = .other →
      token.text ≠ ['"'] ∧ token.text ≠ ['\'']) :
    ∃ unit front begin behind lead tail,
      ofText text = .ok unit ∧
      Token.ofText text = front ++ begin :: behind ∧ begin.start.offset = outline.begin ∧
      Token.contents (Scaffold.prologue outline.programName) = lead ++ (entryHeading ++ tail) ∧
      Token.contents unit.source = front.flatMap outline.standIn ++
        (Token.contents (Scaffold.prologue outline.programName) ++
          behind.flatMap outline.standIn) ∧
      (∀ left right, Token.contents unit.source = left ++ (entryHeading ++ right) ↔
        left = front.flatMap outline.standIn ++ lead ∧
          right = tail ++ behind.flatMap outline.standIn) ∧
      ((∃ a b c, [a, b, c] <:+: Token.ofText text ∧ a.isWord "static" = true ∧
          b.isWord "void" = true ∧ c.isWord "main" = true) →
        ∀ main paren, [main, paren] <:+: Token.ofText text → main.isWord "main" = true →
          paren.kind = .openParen →
          outline.standIn main = [(.identifier, "_$main".toList)]) ∧
      ∀ static void main paren, [static, void, main, paren] <:+: Token.ofText text →
        static.isWord "static" = true → void.isWord "void" = true → main.isWord "main" = true →
        paren.kind = .openParen →
        [static, void, main, paren].flatMap outline.standIn =
          [(.identifier, "static".toList), (.identifier, "void".toList),
            (.identifier, "_$main".toList), (.openParen, ['('])] := by
  obtain ⟨layout, rfl⟩ := Outline.exists_layout_of_ofText h
  obtain ⟨front, behind, lead, tail, hsplit, hprologue, hfront, hbehind⟩ :=
    layout.exists_entryHeading
  have hsource := layout.contents_ofOutline hquote
  rw [hsplit, List.flatMap_append, List.flatMap_cons, layout.standIn_begin] at hsource
  refine ⟨_, front, layout.begin, behind, lead, tail, ofText_eq_ok_iff.mpr ⟨_, h, rfl⟩, hsplit, rfl,
    hprologue, hsource, ?_, ?_, ?_⟩
  · intro left right
    rw [hsource, hprologue, List.append_assoc lead, List.append_assoc entryHeading,
      ← List.append_assoc _ lead]
    exact append_pattern_inj (by simp) hfront hbehind
  · intro hdeclares main paren hnext hword hparen
    exact layout.standIn_eq_renamedMain (Outline.declaresMain_iff.mpr hdeclares) hnext hword hparen
  · intro static void main paren
    exact layout.flatMap_standIn_declaration

/-- A program named `main` that calls its own `main` in front of the declaration. -/
theorem JavaUnit.entryHeading_source_of_late_declaration :
    ∃ text outline unit main paren,
      text = "prog main\x7bbegin\x7bmain/**/();\x7dstatic//\nvoid main()\x7b\x7d\x7d".toList ∧
      Outline.ofText text = .ok outline ∧ ofText text = .ok unit ∧
      [main, paren] <:+: Token.ofText text ∧ main.start.offset = 16 ∧ paren.start.offset = 24 ∧
      outline.standIn main = [(.identifier, "_$main".toList)] ∧
      ∃ front behind, ∀ left right,
        Token.contents unit.source = left ++ (entryHeading ++ right) ↔
          left = front ∧ right = behind := by
  have haccepted : Outline.ofText
      "prog main\x7bbegin\x7bmain/**/();\x7dstatic//\nvoid main()\x7b\x7d\x7d".toList =
      .ok ⟨0, 9, 10, 50, "main".toList, none, [9, 15, 48], [16, 42]⟩ := by decide +kernel
  have hnext : [⟨.identifier, "main".toList, ⟨16, 1, 17⟩, ⟨20, 1, 21⟩⟩,
      ⟨.openParen, ['('], ⟨24, 1, 25⟩, ⟨25, 1, 26⟩⟩] <:+: Token.ofText
      "prog main\x7bbegin\x7bmain/**/();\x7dstatic//\nvoid main()\x7b\x7d\x7d".toList := by
    decide +kernel
  obtain ⟨unit, front, begin, behind, lead, tail, hunit, -, -, -, -, honce, hrenamed, -⟩ :=
    entryHeading_source haccepted (by decide +kernel)
  have hdeclared := hrenamed (Outline.declaresMain_iff.mp (by decide +kernel))
  exact ⟨_, _, unit, _, _, rfl, haccepted, hunit, hnext, rfl, rfl,
    hdeclared _ _ hnext (by decide +kernel) rfl, _, _, honce⟩

end Transcompiler
