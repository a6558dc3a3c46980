/-
# Nested braces

The text for `begin` opens two braces more than it closes, and the text for the
last closing brace closes three in place of one. Both stand at arbitrary depths of
an arbitrary unit. `depthAfter` follows the number of open braces through a list of
tokens and fails where a brace closes that is not open, so that lists are balanced
exactly if the count runs from zero to zero (`balanced_iff`).

A list keeps its effect at every greater depth. So the two texts are counted once,
and what stands between them in the Java text is what stands between `begin` and
the last brace of the unit, two braces deeper.
-/

import Transcompiler.Proofs.Translation

namespace Transcompiler

namespace TokenKind

/-! ## Balanced tokens -/

/-- Braces are balanced: in front of every place at least as many are opened as
are closed, and as many in all. -/
def Balanced (kinds : List TokenKind) : Prop :=
  (∀ front, front <+: kinds → front.count .closeBrace ≤ front.count .openBrace) ∧
    kinds.count .openBrace = kinds.count .closeBrace

/-- The number of open braces behind a token, unless it closes one that is not
open. -/
def depthBehind (depth : Nat) (kind : TokenKind) : Option Nat :=
  if kind = .openBrace then some (depth + 1)
  else if kind = .closeBrace then (if depth = 0 then none else some (depth - 1))
  else some depth

/-- The number of open braces behind tokens that stand one behind the other. -/
def depthAfter (depth : Nat) (kinds : List TokenKind) : Option Nat :=
  kinds.foldlM depthBehind depth

theorem depthAfter_nil (depth : Nat) : depthAfter depth [] = some depth := rfl

theorem depthAfter_cons (depth : Nat) (kind : TokenKind) (kinds : List TokenKind) :
    depthAfter depth (kind :: kinds) = (depthBehind depth kind).bind (depthAfter · kinds) := rfl

theorem depthAfter_append (depth : Nat) (left right : List TokenKind) :
    depthAfter depth (left ++ right) = (depthAfter depth left).bind (depthAfter · right) :=
  List.foldlM_append

theorem depthAfter_append_eq_some_iff {depth behind : Nat} {left right : List TokenKind} :
    depthAfter depth (left ++ right) = some behind ↔
      ∃ between, depthAfter depth left = some between ∧ depthAfter between right = some behind := by
  rw [depthAfter_append, Option.bind_eq_some_iff]

theorem depthAfter_cons_eq_some_iff {depth behind : Nat} {kind : TokenKind}
    {kinds : List TokenKind} :
    depthAfter depth (kind :: kinds) = some behind ↔
      ∃ between, depthBehind depth kind = some between ∧
        depthAfter between kinds = some behind := by
  rw [depthAfter_cons, Option.bind_eq_some_iff]

theorem forall_prefix_cons_iff {α : Type} {p : List α → Prop} {a : α} {l : List α} :
    (∀ front, front <+: a :: l → p front) ↔ p [] ∧ ∀ front, front <+: l → p (a :: front) := by
  constructor
  · intro h
    exact ⟨h [] List.nil_prefix, fun front hfront => h _ (List.cons_prefix_cons.mpr ⟨rfl, hfront⟩)⟩
  · rintro ⟨hnil, hcons⟩ front hfront
    rcases List.prefix_cons_iff.mp hfront with rfl | ⟨rest, rfl, hrest⟩
    · exact hnil
    · exact hcons rest hrest

/-- What the count has reached, and where it does not fail, in numbers of
braces. -/
theorem depthAfter_eq_some_iff {depth behind : Nat} {kinds : List TokenKind} :
    depthAfter depth kinds = some behind ↔
      (∀ front, front <+: kinds → front.count .closeBrace ≤ depth + front.count .openBrace) ∧
        behind + kinds.count .closeBrace = depth + kinds.count .openBrace := by
  induction kinds generalizing depth with
  | nil =>
    simp only [depthAfter_nil, Option.some.injEq, List.prefix_nil, forall_eq, List.count_nil]
    omega
  | cons kind kinds ih =>
    rw [depthAfter_cons, forall_prefix_cons_iff]
    by_cases hopen : kind = .openBrace
    · rw [depthBehind, if_pos hopen, Option.bind_some, ih, hopen]
      simp only [List.count_cons_self, List.count_nil, Nat.zero_le, true_and,
        List.count_cons_of_ne (show TokenKind.openBrace ≠ .closeBrace by decide), Nat.add_assoc,
        Nat.add_comm 1]
    · by_cases hclose : kind = .closeBrace
      · rw [depthBehind, if_neg hopen, if_pos hclose, hclose]
        simp only [List.count_cons_self, List.count_nil, Nat.zero_le, true_and,
          List.count_cons_of_ne (show TokenKind.closeBrace ≠ .openBrace by decide)]
        by_cases hzero : depth = 0
        · refine iff_of_false (by simp [hzero]) ?_
          rintro ⟨hfront, -⟩
          have hfirst := hfront [] List.nil_prefix
          simp only [List.count_nil] at hfirst
          omega
        · rw [if_neg hzero, Option.bind_some, ih]
          refine and_congr (forall_congr' fun front => imp_congr_right fun _ => ?_) ?_ <;> omega
      · rw [depthBehind, if_neg hopen, if_neg hclose, Option.bind_some, ih]
        simp only [List.count_cons_of_ne hopen, List.count_cons_of_ne hclose, List.count_nil,
          Nat.zero_le, true_and]

theorem balanced_iff {kinds : List TokenKind} : Balanced kinds ↔ depthAfter 0 kinds = some 0 := by
  rw [depthAfter_eq_some_iff, Balanced]
  simp only [Nat.zero_add, eq_comm]

/-- Tokens that can be counted at a depth can be counted at any greater one. -/
theorem depthAfter_add {depth behind : Nat} {kinds : List TokenKind}
    (h : depthAfter depth kinds = some behind) (more : Nat) :
    depthAfter (depth + more) kinds = some (behind + more) := by
  rw [depthAfter_eq_some_iff] at h ⊢
  obtain ⟨hfront, hcount⟩ := h
  refine ⟨?_, by omega⟩
  intro front hbegins
  have hle := hfront front hbegins
  omega

/-- Whether a token opens or closes a brace. -/
def isBrace (kind : TokenKind) : Bool :=
  kind = .openBrace || kind = .closeBrace

/-- Other tokens leave the count as it is. -/
theorem depthAfter_of_not_isBrace (depth : Nat) {kinds : List TokenKind}
    (h : ∀ kind ∈ kinds, isBrace kind = false) : depthAfter depth kinds = some depth := by
  induction kinds with
  | nil => rfl
  | cons kind kinds ih =>
    rw [List.forall_mem_cons] at h
    obtain ⟨hkind, hkinds⟩ := h
    simp only [isBrace, Bool.or_eq_false_iff, decide_eq_false_iff_not] at hkind
    rw [depthAfter_cons, depthBehind, if_neg hkind.1, if_neg hkind.2, Option.bind_some, ih hkinds]

end TokenKind

/-! ## Braces of plain text -/

open TokenKind (Balanced balanced_iff isBrace depthAfter depthAfter_append
  depthAfter_append_eq_some_iff depthAfter_cons_eq_some_iff depthAfter_add
  depthAfter_of_not_isBrace)

namespace Lexeme

theorem isBrace_solitaryKind {c : Char} (hopen : c ≠ '{') (hclose : c ≠ '}') :
    isBrace (solitaryKind c) = false := by
  rcases solitaryKind_cases c with ⟨hc, -⟩ | ⟨hc, -⟩ | ⟨-, hc⟩ | ⟨-, hc⟩ | hc
  · exact absurd hc hopen
  · exact absurd hc hclose
  all_goals
    rw [hc]
    rfl

theorem isBrace_of_isIdentifierPart {c : Char} (h : isIdentifierPart c = true) :
    isBrace (solitaryKind c) = false := by
  apply isBrace_solitaryKind
  · rintro rfl
    exact absurd h (by decide)
  · rintro rfl
    exact absurd h (by decide)

theorem isBrace_of_isBlank {c : Char} (h : Text.isBlank c = true) :
    isBrace (solitaryKind c) = false := by
  apply isBrace_solitaryKind
  · rintro rfl
    exact absurd h (by decide)
  · rintro rfl
    exact absurd h (by decide)

/-- A plain lexeme counts like its characters. -/
theorem Leads.depthAfter_content? {lexeme : Lexeme} {rest : Text} (h : Leads lexeme rest)
    (hplain : Text.Plain lexeme.text) (depth : Nat) :
    depthAfter depth (lexeme.content?.toList.map Prod.fst) =
      depthAfter depth (lexeme.text.map solitaryKind) := by
  have hnot (c : Char) (cs : Text) (htext : lexeme.text = c :: cs) (hc : Text.isPlain c = false) :
      False := by
    rw [htext] at hplain
    exact hplain.not_mem hc List.mem_cons_self
  cases h with
  | @identifier c cs _ hstart hpart _ =>
    have hword : ∀ d ∈ c :: cs, isIdentifierPart d = true :=
      List.forall_mem_cons.mpr ⟨isIdentifierPart_of_isIdentifierStart hstart, hpart⟩
    rw [depthAfter_of_not_isBrace, depthAfter_of_not_isBrace]
    · intro kind hkind
      obtain ⟨d, hd, rfl⟩ := List.mem_map.mp hkind
      exact isBrace_of_isIdentifierPart (hword d hd)
    · intro kind hkind
      obtain rfl := List.mem_singleton.mp hkind
      rfl
  | @blank c cs _ hstart hpart _ =>
    have hblank : ∀ d ∈ c :: cs, Text.isBlank d = true :=
      List.forall_mem_cons.mpr ⟨hstart, hpart⟩
    refine (depthAfter_of_not_isBrace depth ?_).symm
    intro kind hkind
    obtain ⟨d, hd, rfl⟩ := List.mem_map.mp hkind
    exact isBrace_of_isBlank (hblank d hd)
  | solitary => rfl
  | lineComment => exact (hnot '/' _ rfl rfl).elim
  | blockComment => exact (hnot '/' _ rfl rfl).elim
  | slash => exact (hnot '/' _ rfl rfl).elim
  | textBlock => exact (hnot '"' _ rfl rfl).elim
  | string => exact (hnot '"' _ rfl rfl).elim
  | doubleQuote => exact (hnot '"' _ rfl rfl).elim
  | character => exact (hnot '\'' _ rfl rfl).elim
  | singleQuote => exact (hnot '\'' _ rfl rfl).elim

end Lexeme

/-- In plain text, the braces among the tokens are those among the characters. -/
theorem Token.depthAfter_contents_of_plain {text : Text} (h : Text.Plain text) (depth : Nat) :
    depthAfter depth ((contents text).map Prod.fst) =
      depthAfter depth (text.map Lexeme.solitaryKind) := by
  have hchain (lexemes : List Lexeme) (hchained : Lexeme.Chained lexemes)
      (hplain : Text.Plain (Lexeme.joined lexemes)) (depth : Nat) :
      depthAfter depth ((contents (Lexeme.joined lexemes)).map Prod.fst) =
        depthAfter depth ((Lexeme.joined lexemes).map Lexeme.solitaryKind) := by
    induction lexemes generalizing depth with
    | nil => rw [Lexeme.joined_nil, contents_nil, List.map_nil, List.map_nil]
    | cons lexeme lexemes ih =>
      obtain ⟨hleads, hchained⟩ := hchained
      rw [Lexeme.joined_cons] at hplain ⊢
      obtain ⟨hlexeme, hrest⟩ := Text.plain_append_iff.mp hplain
      rw [contents_of_leads hleads, List.map_append, List.map_append, depthAfter_append,
        depthAfter_append, hleads.depthAfter_content? hlexeme]
      simp only [ih hchained hrest]
  have hall := hchain (Lexeme.all text) (Lexeme.chained_all text)
  rw [Lexeme.joined_all] at hall
  exact hall h depth

/-! ## Braces of the fixed Java text -/

namespace Scaffold

open Token (contents)
open Lexeme (solitaryKind)

theorem depthAfter_support : depthAfter 0 (support.map solitaryKind) = some 0 := by
  -- The members are spelled out once, so that they are counted and not decoded.
  have hmembers : ∃ pieces, supportMembers.map String.toList = pieces ∧
      depthAfter 0 (pieces.flatten.map solitaryKind) = some 0 := by
    apply Exists.intro
    apply And.intro
    · unfold supportMembers stateMembers inputMembers outputMembers environmentMembers
      simp only [List.cons_append, List.nil_append]
      repeat apply Text.map_toList_cons
      rfl
    · decide +kernel
  obtain ⟨pieces, hpieces, hdepth⟩ := hmembers
  rw [support, List.flatMap_def, hpieces, List.map_append, depthAfter_append, hdepth]
  rfl

theorem depthAfter_toList_ofList (cs : List Char) {depth behind : Nat}
    (h : depthAfter depth (cs.map solitaryKind) = some behind) :
    depthAfter depth ((String.ofList cs).toList.map solitaryKind) = some behind := by
  rwa [String.toList_ofList]

/-- The text for `prog` has no braces. -/
theorem depthAfter_classText (depth : Nat) :
    depthAfter depth ((contents (imports ++ classHeader)).map Prod.fst) = some depth := by
  have himports : depthAfter 0 (imports.map solitaryKind) = some 0 :=
    depthAfter_toList_ofList _ rfl
  have hheader : depthAfter 0 (classHeader.map solitaryKind) = some 0 :=
    depthAfter_toList_ofList _ rfl
  have hzero : depthAfter 0 ((imports ++ classHeader).map solitaryKind) = some 0 := by
    rw [List.map_append, depthAfter_append_eq_some_iff]
    exact ⟨0, himports, hheader⟩
  have hadd := depthAfter_add hzero depth
  rw [Nat.zero_add] at hadd
  rw [Token.depthAfter_contents_of_plain (plain_imports.append plain_classHeader), hadd]

/-- The text for `begin` opens two braces. -/
theorem depthAfter_prologue {programName : Text}
    (hname : ∀ c ∈ programName, Lexeme.isIdentifierPart c = true) (depth : Nat) :
    depthAfter depth ((contents (prologue programName)).map Prod.fst) = some (depth + 2) := by
  have hplain : Text.Plain programName := fun c hc => Text.isPlain_of_isIdentifierPart (hname c hc)
  have hprivate : depthAfter 0 (" private ".toList.map solitaryKind) = some 0 :=
    depthAfter_toList_ofList _ rfl
  have hword : depthAfter 0 (programName.map solitaryKind) = some 0 := by
    apply depthAfter_of_not_isBrace
    intro kind hkind
    obtain ⟨c, hc, rfl⟩ := List.mem_map.mp hkind
    exact Lexeme.isBrace_of_isIdentifierPart (hname c hc)
  have hopening : depthAfter 0
      ("()\x7b\x7d public static void main(String[] _$args)\x7b try \x7b init(_$args); ".toList.map
        solitaryKind) = some 2 :=
    depthAfter_toList_ofList _ rfl
  have hzero : depthAfter 0 ((prologue programName).map solitaryKind) = some 2 := by
    simp only [prologue, List.map_append, depthAfter_append_eq_some_iff]
    exact ⟨0, ⟨0, ⟨0, depthAfter_support, hprivate⟩, hword⟩, hopening⟩
  have hadd := depthAfter_add hzero depth
  rw [Nat.zero_add, Nat.add_comm 2] at hadd
  rw [Token.depthAfter_contents_of_plain (plain_prologue hplain), hadd]

/-- The text for the last closing brace closes three braces. -/
theorem depthAfter_epilogue (depth : Nat) :
    depthAfter (depth + 3) ((contents epilogue).map Prod.fst) = some depth := by
  have hchars : ∃ text, epilogue = text ∧ depthAfter 3 ((contents text).map Prod.fst) = some 0 :=
    ⟨_, congrArg₂ List.append (congrArg₂ List.append (congrArg₂ List.append String.toList_ofList
      String.toList_ofList) String.toList_ofList) String.toList_ofList, by decide +kernel⟩
  obtain ⟨text, htext, hdepth⟩ := hchars
  rw [htext, Nat.add_comm, depthAfter_add hdepth, Nat.zero_add]

end Scaffold

/-! ## Braces of the Java text -/

namespace Outline.Layout

variable {text : Text} (layout : Layout text)

/-- A token that is neither `begin` nor the last closing brace counts like what
stands for it in the Java text. -/
theorem depthAfter_standIn {token : Token} (hmem : token ∈ Token.ofText text)
    (hbegin : token ≠ layout.begin) (hclose : token ≠ layout.closeBrace) (depth : Nat) :
    depthAfter depth ((layout.outline.standIn token).map Prod.fst) =
      depthAfter depth [token.kind] := by
  unfold standIn
  split_ifs with hprog hstart hlast hmain
  · have hkind : token.kind = .identifier := by
      rw [Token.eq_of_start_eq hmem layout.prog_mem hprog]
      exact (Token.isWord_iff.mp layout.prog_isWord).1
    rw [Scaffold.depthAfter_classText, hkind]
    rfl
  · exact absurd (Token.eq_of_start_eq hmem layout.begin_mem hstart) hbegin
  · exact absurd (Token.eq_of_start_eq hmem layout.closeBrace_mem hlast) hclose
  · obtain ⟨main, hrenamed, heq⟩ := List.mem_map.mp hmain
    have hkind := (Token.isWord_iff.mp (isWord_of_mem_renamedMains hrenamed)).1
    rw [Token.eq_of_start_eq ((renamedMains_sublist _).subset hrenamed) hmem heq] at hkind
    rw [hkind]
    rfl
  · rfl

/-- Between its landmarks, the Java text has the braces of the unit. -/
theorem depthAfter_flatMap_standIn {part : List Token} (hpart : part ⊆ Token.ofText text)
    (hbegin : layout.begin ∉ part) (hclose : layout.closeBrace ∉ part) (depth : Nat) :
    depthAfter depth ((part.flatMap layout.outline.standIn).map Prod.fst) =
      depthAfter depth (part.map (·.kind)) := by
  induction part generalizing depth with
  | nil => rfl
  | cons token part ih =>
    rw [List.cons_subset] at hpart
    rw [List.mem_cons, not_or] at hbegin hclose
    have hstep := layout.depthAfter_standIn hpart.1 (Ne.symm hbegin.1) (Ne.symm hclose.1) depth
    calc depthAfter depth (((token :: part).flatMap layout.outline.standIn).map Prod.fst)
        = (depthAfter depth [token.kind]).bind
            (depthAfter · ((part.flatMap layout.outline.standIn).map Prod.fst)) := by
          rw [List.flatMap_cons, List.map_append, depthAfter_append, hstep]
      _ = (depthAfter depth [token.kind]).bind (depthAfter · (part.map (·.kind))) := by
          simp only [ih hpart.2 hbegin.2 hclose.2]
      _ = depthAfter depth ((token :: part).map (·.kind)) :=
          (depthAfter_append depth [token.kind] _).symm

/-- The parts of a unit around `begin` and the last closing brace hold neither of
the two. -/
theorem exists_parts : ∃ before, Token.ofText text =
    before ++ layout.begin :: (layout.body ++ layout.closeBrace :: layout.trailing) ∧
      ∀ part ∈ [before, layout.body, layout.trailing],
        part ⊆ Token.ofText text ∧ layout.begin ∉ part ∧ layout.closeBrace ∉ part := by
  obtain ⟨before, htokens⟩ : ∃ before, Token.ofText text =
      before ++ layout.begin :: (layout.body ++ layout.closeBrace :: layout.trailing) :=
    ⟨_, layout.tokens_from_begin⟩
  have hclose : Token.ofText text =
      (before ++ layout.begin :: layout.body) ++ layout.closeBrace :: layout.trailing := by
    rw [htokens, List.append_assoc, List.cons_append]
  obtain ⟨hbefore, hbehind⟩ := Token.not_mem_of_split htokens
  obtain ⟨hinner, htrailing⟩ := Token.not_mem_of_split hclose
  simp only [List.mem_append, List.mem_cons, not_or] at hbehind hinner
  refine ⟨before, htokens, ?_⟩
  rw [htokens]
  intro part hpart
  simp only [List.mem_cons, List.not_mem_nil, or_false] at hpart
  rcases hpart with rfl | rfl | rfl
  · exact ⟨fun token hmem => by simp [hmem], hbefore, hinner.1⟩
  · exact ⟨fun token hmem => by simp [hmem], hbehind.1, hinner.2.2⟩
  · exact ⟨fun token hmem => by simp [hmem], hbehind.2.2, htrailing⟩

/-- Braces that are balanced in a unit are balanced in what stands for its tokens:
two more are open from `begin` on, and the last closing brace closes these too. -/
theorem depthAfter_standIns (h : depthAfter 0 ((Token.ofText text).map (·.kind)) = some 0) :
    depthAfter 0 (((Token.ofText text).flatMap layout.outline.standIn).map Prod.fst) = some 0 := by
  obtain ⟨before, htokens, hparts⟩ := layout.exists_parts
  have hkept (part : List Token) (hpart : part ∈ [before, layout.body, layout.trailing])
      {depth behind : Nat} (h : depthAfter depth (part.map (·.kind)) = some behind) :
      depthAfter depth ((part.flatMap layout.outline.standIn).map Prod.fst) = some behind := by
    obtain ⟨hsubset, hbegin, hclose⟩ := hparts part hpart
    rw [layout.depthAfter_flatMap_standIn hsubset hbegin hclose, h]
  rw [htokens] at h ⊢
  simp only [List.map_append, List.map_cons, depthAfter_append_eq_some_iff,
    depthAfter_cons_eq_some_iff] at h
  obtain ⟨outer, hbefore, inner, hbegin, last, hbody, rest, hclose, htrailing⟩ := h
  have hinner : inner = outer := by
    rw [(Token.isWord_iff.mp layout.begin_isWord).1] at hbegin
    exact (Option.some.inj hbegin).symm
  have hlast : last = rest + 1 := by
    rw [layout.closeBrace_kind] at hclose
    cases last with
    | zero => contradiction
    | succ last => exact congrArg (· + 1) (Option.some.inj hclose)
  subst hinner hlast
  have hname := Token.isIdentifierPart_of_identifier layout.name_mem layout.name_kind
  simp only [List.flatMap_append, List.flatMap_cons, List.map_append,
    depthAfter_append_eq_some_iff, layout.standIn_begin, layout.standIn_closeBrace]
  exact ⟨inner, hkept before (by simp) hbefore, inner + 2, Scaffold.depthAfter_prologue hname inner,
    rest + 3, depthAfter_add (hkept layout.body (by simp) hbody) 2, rest,
    Scaffold.depthAfter_epilogue rest, hkept layout.trailing (by simp) htrailing⟩

end Outline.Layout

/-- The Java text of a unit with balanced braces has balanced braces. -/
theorem JavaUnit.balanced_source {text : Text} {outline : Outline}
    (h : Outline.ofText text = .ok outline)
    (hquote : ∀ token ∈ Token.ofText text, token.kind = .other →
      token.text ≠ ['"'] ∧ token.text ≠ ['\''])
    (hbalanced : Balanced ((Token.ofText text).map (·.kind))) :
    ∃ unit, ofText text = .ok unit ∧ Balanced ((Token.ofText unit.source).map (·.kind)) := by
  obtain ⟨layout, rfl⟩ := Outline.exists_layout_of_ofText h
  refine ⟨_, ofText_eq_ok_iff.mpr ⟨_, h, rfl⟩, ?_⟩
  have hkinds : (Token.ofText (ofOutline text layout.outline).source).map (·.kind) =
      ((Token.ofText text).flatMap layout.outline.standIn).map Prod.fst := by
    rw [← layout.contents_ofOutline hquote, Token.contents, List.map_map]
    rfl
  rw [balanced_iff] at hbalanced ⊢
  rw [hkinds]
  exact layout.depthAfter_standIns hbalanced

/-- A unit whose `begin` stands outside the braces of the program. -/
theorem JavaUnit.balanced_source_of_outer_begin :
    ∃ text unit, text = "prog A\x7b\x7dbegin\x7b\x7b\x7d\x7d".toList ∧
      Balanced ((Token.ofText text).map (·.kind)) ∧ ofText text = .ok unit ∧
      Balanced ((Token.ofText unit.source).map (·.kind)) := by
  have haccepted : Outline.ofText "prog A\x7b\x7dbegin\x7b\x7b\x7d\x7d".toList =
      .ok ⟨0, 6, 8, 16, ['A'], none, [6, 13, 14], []⟩ := by decide +kernel
  have hbalanced : Balanced
      ((Token.ofText "prog A\x7b\x7dbegin\x7b\x7b\x7d\x7d".toList).map (·.kind)) :=
    balanced_iff.mpr (by decide +kernel)
  obtain ⟨unit, hunit, hjava⟩ := balanced_source haccepted (by decide +kernel) hbalanced
  exact ⟨_, unit, rfl, hbalanced, hunit, hjava⟩

end Transcompiler
