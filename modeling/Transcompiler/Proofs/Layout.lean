/-
# The layout of a ZeptoN unit

`Outline.ofText` looks for one landmark after the other, in the token list and
in slices of the text. A `Layout` says the same as one shape: how the tokens of
a unit split around its landmarks, and what may stand between them. Its fields
carry the conditions, so a text without the shape has no layout.

The main statement is `ofText_exact`: a text has an outline exactly if it has a
layout, the outline then lists the offsets of the layout's tokens, and these
offsets increase from the package clause to the closing brace. Nothing is said
about which of several defects is reported.
-/

import Mathlib.Data.List.Basic
import Transcompiler.Outline.Basic
import Transcompiler.Proofs.Slice
import Transcompiler.Proofs.Span

namespace Transcompiler.Outline

/-! ## Splitting token lists -/

theorem splitAtFirst_eq_some_iff {α : Type} {p : α → Bool} {l front rest : List α} {a : α} :
    splitAtFirst p l = some (front, a, rest) ↔
      l = front ++ a :: rest ∧ p a = true ∧ ∀ b ∈ front, p b = false := by
  induction l generalizing front with
  | nil => simp [splitAtFirst]
  | cons b l ih =>
    rw [splitAtFirst]
    split
    · next hb =>
      cases front with
      | nil =>
        simp only [Option.some.injEq, Prod.mk.injEq, true_and, List.nil_append, List.cons.injEq]
        constructor
        · rintro ⟨rfl, rfl⟩
          exact ⟨⟨rfl, rfl⟩, hb, by simp⟩
        · rintro ⟨h, -, -⟩
          exact h
      | cons c front =>
        simp only [Option.some.injEq, Prod.mk.injEq, List.cons_append, List.cons.injEq,
          reduceCtorEq, false_and, false_iff]
        rintro ⟨⟨rfl, -⟩, -, hfront⟩
        simp [hfront b List.mem_cons_self] at hb
    · next hb =>
      rw [Option.map_eq_some_iff]
      constructor
      · rintro ⟨⟨front', a', rest'⟩, hsplit, heq⟩
        cases heq
        obtain ⟨rfl, ha, hfront⟩ := ih.mp hsplit
        refine ⟨rfl, ha, ?_⟩
        simp only [List.mem_cons, forall_eq_or_imp]
        exact ⟨by simpa using hb, hfront⟩
      · rintro ⟨hl, ha, hfront⟩
        cases front with
        | nil =>
          cases hl
          exact absurd ha hb
        | cons c front =>
          cases hl
          refine ⟨(front, a, rest), ih.mpr ⟨rfl, ha, ?_⟩, rfl⟩
          intro d hd
          exact hfront d (List.mem_cons_of_mem _ hd)

theorem splitAtFirst_eq_none_iff {α : Type} {p : α → Bool} {l : List α} :
    splitAtFirst p l = none ↔ ∀ b ∈ l, p b = false := by
  induction l with
  | nil => simp [splitAtFirst]
  | cons b l ih =>
    rw [splitAtFirst]
    split
    · next hb => simp [hb]
    · next hb => simp [hb, ih]

/-- An element with a property is the only one exactly if none of the others has
the property. -/
theorem countP_append_cons_eq_one_iff {α : Type} (p : α → Bool) {front rest : List α} {a : α}
    (ha : p a = true) :
    (front ++ a :: rest).countP p = 1 ↔ (∀ b ∈ front, p b = false) ∧ ∀ b ∈ rest, p b = false := by
  have hzero (l : List α) : l.countP p = 0 ↔ ∀ b ∈ l, p b = false := by
    rw [List.countP_eq_zero]
    simp
  rw [List.countP_append, List.countP_cons_of_pos ha, ← hzero, ← hzero]
  omega

/-- One element at most has a property that one element of a list has. -/
theorem eq_of_countP_eq_one {α : Type} {p : α → Bool} {elements : List α} {a b : α}
    (h : elements.countP p = 1) (ha : a ∈ elements) (hb : b ∈ elements) (hpa : p a = true)
    (hpb : p b = true) : a = b := by
  obtain ⟨front, rest, rfl⟩ := List.append_of_mem hb
  obtain ⟨hfront, hrest⟩ := (countP_append_cons_eq_one_iff p hpb).mp h
  rw [List.mem_append, List.mem_cons] at ha
  rcases ha with ha | rfl | ha
  · rw [hfront a ha] at hpa
    exact absurd hpa Bool.false_ne_true
  · rfl
  · rw [hrest a ha] at hpa
    exact absurd hpa Bool.false_ne_true

theorem splitAtOnly_eq_ok_iff {keyword : Keyword} {tokens front rest : List Token}
    {token : Token} :
    splitAtOnly keyword tokens = .ok (front, token, rest) ↔
      tokens = front ++ token :: rest ∧ token.isWord keyword.word = true ∧
        tokens.countP (·.isWord keyword.word) = 1 := by
  constructor
  · intro h
    unfold splitAtOnly at h
    split at h
    · contradiction
    · next hsplit =>
      split at h
      · next hnone =>
        cases h
        obtain ⟨rfl, htoken, hfront⟩ := splitAtFirst_eq_some_iff.mp hsplit
        have hrest : ∀ b ∈ rest, b.isWord keyword.word = false := by simpa using hnone
        exact ⟨rfl, htoken,
          (countP_append_cons_eq_one_iff (Token.isWord · keyword.word) htoken).mpr ⟨hfront, hrest⟩⟩
      · contradiction
  · rintro ⟨rfl, htoken, hcount⟩
    obtain ⟨hfront, hrest⟩ :=
      (countP_append_cons_eq_one_iff (Token.isWord · keyword.word) htoken).mp hcount
    have hsplit : splitAtFirst (·.isWord keyword.word) (front ++ token :: rest) =
        some (front, token, rest) := splitAtFirst_eq_some_iff.mpr ⟨rfl, htoken, hfront⟩
    have hnone : rest.find? (·.isWord keyword.word) = none := by
      rw [List.find?_eq_none]
      intro b hb
      simp [hrest b hb]
    unfold splitAtOnly
    rw [hsplit]
    simp only [hnone]

theorem exists_splitAtOnly_iff {keyword : Keyword} {tokens : List Token} :
    (∃ found, splitAtOnly keyword tokens = .ok found) ↔
      tokens.countP (·.isWord keyword.word) = 1 := by
  constructor
  · rintro ⟨⟨front, token, rest⟩, hfound⟩
    exact (splitAtOnly_eq_ok_iff.mp hfound).2.2
  · intro hcount
    have hpos : 0 < tokens.countP (·.isWord keyword.word) := by omega
    obtain ⟨token, hmem, htoken⟩ := List.countP_pos_iff.mp hpos
    obtain ⟨front, rest, rfl⟩ := List.append_of_mem hmem
    exact ⟨_, splitAtOnly_eq_ok_iff.mpr ⟨rfl, htoken, hcount⟩⟩

/-- The last element with a property is one behind which none has it. -/
theorem getLast?_filter_eq_some_iff {α : Type} {p : α → Bool} {l : List α} {a : α} :
    (l.filter p).getLast? = some a ↔
      p a = true ∧ ∃ front rest, l = front ++ a :: rest ∧ ∀ b ∈ rest, p b = false := by
  have hreverse : (l.filter p).getLast? = l.reverse.find? p := by
    rw [← List.head?_reverse, ← List.filter_reverse, List.head?_filter]
  rw [hreverse, List.find?_eq_some_iff_append]
  constructor
  · rintro ⟨ha, rest, front, hsplit, hrest⟩
    refine ⟨ha, front.reverse, rest.reverse, ?_, ?_⟩
    · rw [← List.reverse_reverse l, hsplit]
      simp
    · simpa using hrest
  · rintro ⟨ha, front, rest, rfl, hrest⟩
    refine ⟨ha, rest.reverse, front.reverse, by simp, ?_⟩
    simpa using hrest

/-! ## Layouts -/

/-- The package clause that the tokens in front of `prog` make up. -/
inductive PackageShape (text : Text) : List Token → Option PackageClause → Prop where
  /-- Without the word `package` there is no clause. -/
  | absent {front : List Token} (hfront : ∀ token ∈ front, token.isWord "package" = false) :
      PackageShape text front none
  /-- The clause goes from the first `package` to the first semicolon behind it, and
  holds a character other than white space. -/
  | present {before words behind : List Token} {keyword semicolon : Token}
      (hbefore : ∀ token ∈ before, token.isWord "package" = false)
      (hkeyword : keyword.isWord "package" = true)
      (hwords : ∀ token ∈ words, token.kind ≠ .semicolon) (hsemicolon : semicolon.kind = .semicolon)
      (hname : ¬∀ c ∈ Text.slice text keyword.stop.offset semicolon.start.offset,
        Text.isBlank c = true) :
      PackageShape text (before ++ keyword :: (words ++ semicolon :: behind))
        (some ⟨keyword.start.offset, semicolon.start.offset,
          Text.strip (Text.slice text keyword.stop.offset semicolon.start.offset)⟩)

/-- The shape of a unit: its tokens in the order of the text, split at its
landmarks. -/
structure Layout (text : Text) where
  /-- What stands in front of `prog`. -/
  front : List Token
  /-- The keyword `prog`. -/
  prog : Token
  /-- The name of the program. -/
  name : Token
  /-- The opening brace of the program. -/
  openBrace : Token
  /-- What stands between that brace and `begin`. -/
  members : List Token
  /-- The keyword `begin`. -/
  begin : Token
  /-- What stands between `begin` and the last closing brace. -/
  body : List Token
  /-- The last closing brace. -/
  closeBrace : Token
  /-- What stands behind the last closing brace. -/
  trailing : List Token
  /-- The package clause in front of `prog`. -/
  package : Option PackageClause
  tokens_eq : Token.ofText text = front ++ prog :: name :: openBrace ::
    (members ++ begin :: (body ++ closeBrace :: trailing))
  prog_isWord : prog.isWord "prog" = true
  /-- No other token is the word `prog`. -/
  prog_once : (Token.ofText text).countP (·.isWord "prog") = 1
  name_kind : name.kind = .identifier
  openBrace_kind : openBrace.kind = .openBrace
  begin_isWord : begin.isWord "begin" = true
  /-- No other token is the word `begin`. -/
  begin_once : (Token.ofText text).countP (·.isWord "begin") = 1
  closeBrace_kind : closeBrace.kind = .closeBrace
  trailing_kind : ∀ token ∈ trailing, token.kind ≠ .closeBrace
  /-- Only white space, and no comment, stands in front of the name. -/
  blank_before_name : ∀ c ∈ Text.slice text prog.stop.offset name.start.offset,
    Text.isBlank c = true
  /-- Only white space, and no comment, stands behind the name. -/
  blank_behind_name : ∀ c ∈ Text.slice text name.stop.offset openBrace.start.offset,
    Text.isBlank c = true
  package_shape : PackageShape text front package

/-- The outline that lists the places of a layout. -/
def Layout.outline {text : Text} (layout : Layout text) : Outline where
  prog := layout.prog.start.offset
  openBrace := layout.openBrace.start.offset
  begin := layout.begin.start.offset
  closeBrace := layout.closeBrace.start.offset
  programName := layout.name.text
  package := layout.package
  bareBraces := ((Token.ofText text).filter (isBareBrace text)).map (·.start.offset)
  entryPoints := (renamedMains (Token.ofText text)).map (·.start.offset)

/-! ## What the search for an outline finds -/

/-- The steps of the search, without the order in which their failures are
reported. -/
theorem ofText_eq_ok_iff {text : Text} {outline : Outline} :
    ofText text = .ok outline ↔
      ∃ front prog rest named openBrace inner members start body closeBrace package,
        splitAtOnly .prog (Token.ofText text) = .ok (front, prog, rest) ∧
        splitAtFirst (·.kind = .openBrace) rest = some (named, openBrace, inner) ∧
        isIdentifier (textBetween text prog openBrace) = true ∧
        (∃ found, splitAtOnly .begin (Token.ofText text) = .ok found) ∧
        splitAtFirst (·.isWord Keyword.begin.word) inner = some (members, start, body) ∧
        (body.filter (·.kind = .closeBrace)).getLast? = some closeBrace ∧
        packageClause text front = .ok package ∧
        outline = {
          prog := prog.start.offset
          openBrace := openBrace.start.offset
          begin := start.start.offset
          closeBrace := closeBrace.start.offset
          programName := textBetween text prog openBrace
          package := package
          bareBraces := ((Token.ofText text).filter (isBareBrace text)).map (·.start.offset)
          entryPoints := (renamedMains (Token.ofText text)).map (·.start.offset) } := by
  constructor
  · intro h
    unfold ofText at h
    simp only [bind, Except.bind, pure, Except.pure, throw, throwThe, MonadExceptOf.throw] at h
    split at h
    · contradiction
    next found hprog =>
    obtain ⟨front, prog, rest⟩ := found
    split at h
    · next hopen =>
      split at h
      · next hname =>
        split at h
        · contradiction
        next found hbegin =>
        split at h
        · next hstart =>
          split at h
          · next hclose =>
            split at h
            · contradiction
            next package hpackage =>
            cases h
            exact ⟨_, _, _, _, _, _, _, _, _, _, _, hprog, hopen, hname, ⟨_, hbegin⟩, hstart,
              hclose, hpackage, rfl⟩
          · contradiction
        · contradiction
      · contradiction
    · contradiction
  · rintro ⟨front, prog, rest, named, openBrace, inner, members, start, body, closeBrace, package,
      hprog, hopen, hname, ⟨found, hbegin⟩, hstart, hclose, hpackage, rfl⟩
    unfold ofText
    simp [bind, Except.bind, pure, Except.pure, hprog, hopen, hname, hbegin, hstart, hclose,
      hpackage]

/-- The package clause is found exactly in its shape. -/
theorem packageClause_eq_ok_iff {text : Text} {front : List Token}
    {package : Option PackageClause} :
    packageClause text front = .ok package ↔ PackageShape text front package := by
  constructor
  · intro h
    unfold packageClause at h
    split at h
    · next hnone =>
      cases h
      exact .absent (splitAtFirst_eq_none_iff.mp hnone)
    · next before keyword rest hsome =>
      obtain ⟨rfl, hkeyword, hbefore⟩ := splitAtFirst_eq_some_iff.mp hsome
      split at h
      · contradiction
      · next semicolon hfind =>
        obtain ⟨hsemicolon, words, behind, rfl, hwords⟩ := List.find?_eq_some_iff_append.mp hfind
        dsimp only at h
        split at h
        · contradiction
        · next hname =>
          cases h
          refine .present hbefore hkeyword (by simpa using hwords) (by simpa using hsemicolon) ?_
          rwa [textBetween, Text.strip_eq_nil_iff] at hname
  · intro h
    cases h with
    | absent hfront =>
      unfold packageClause
      rw [splitAtFirst_eq_none_iff.mpr hfront]
    | @present before words behind keyword semicolon hbefore hkeyword hwords hsemicolon hname =>
      have hsplit := splitAtFirst_eq_some_iff.mpr
        ⟨(rfl : before ++ keyword :: (words ++ semicolon :: behind) = _), hkeyword, hbefore⟩
      have hfind : (words ++ semicolon :: behind).find? (·.kind = .semicolon) = some semicolon := by
        rw [List.find?_eq_some_iff_append]
        exact ⟨by simpa using hsemicolon, words, behind, rfl, by simpa using hwords⟩
      rw [← Text.strip_eq_nil_iff] at hname
      unfold packageClause
      simp only [hsplit, hfind, textBetween]
      exact if_neg hname

/-! ## The name of the program -/

theorem isIdentifier_iff {text : Text} :
    isIdentifier text = true ↔ ∃ c cs, text = c :: cs ∧ Lexeme.isIdentifierStart c = true ∧
      ∀ d ∈ cs, Lexeme.isIdentifierPart d = true := by
  constructor
  · intro h
    cases text with
    | nil => simp [isIdentifier] at h
    | cons c cs =>
      simp only [isIdentifier, Bool.and_eq_true, List.all_eq_true] at h
      exact ⟨c, cs, rfl, h⟩
  · rintro ⟨c, cs, rfl, hstart, hpart⟩
    simp only [isIdentifier, Bool.and_eq_true, List.all_eq_true]
    exact ⟨hstart, hpart⟩

theorem isBlank_eq_false_of_isIdentifier {text : Text} (h : isIdentifier text = true) :
    ∀ c ∈ text, Text.isBlank c = false := by
  obtain ⟨c, cs, rfl, hstart, hpart⟩ := isIdentifier_iff.mp h
  intro d hd
  apply Lexeme.isBlank_eq_false_of_isIdentifierPart
  rcases List.mem_cons.mp hd with rfl | hd
  · exact Lexeme.isIdentifierPart_of_isIdentifierStart hstart
  · exact hpart d hd

/-- The text of an identifier token is an identifier. -/
theorem isIdentifier_text {text : Text} {token : Token} (hmem : token ∈ Token.ofText text)
    (hkind : token.kind = .identifier) : isIdentifier token.text = true := by
  obtain ⟨behind, hleads⟩ := Token.exists_leads_of_mem hmem
  rw [isIdentifier_iff]
  exact (hleads.of_identifier (congrArg Lexeme.Category.token hkind)).1

/-- Between an identifier in white space and the brace behind it there is no room
for another token. -/
theorem placed_name_openBrace (position : Position) {left name right : Text} (rest : Text)
    (hleft : ∀ c ∈ left, Text.isBlank c = true) (hname : isIdentifier name = true)
    (hright : ∀ c ∈ right, Text.isBlank c = true) :
    Token.placed position (Lexeme.all (left ++ (name ++ (right ++ '{' :: rest)))) =
      ⟨.identifier, name, position.after left, (position.after left).after name⟩ ::
        ⟨.openBrace, ['{'], ((position.after left).after name).after right,
          (((position.after left).after name).after right).after ['{']⟩ ::
        Token.placed ((((position.after left).after name).after right).after ['{'])
          (Lexeme.all rest) := by
  obtain ⟨c, cs, rfl, hstart, hpart⟩ := isIdentifier_iff.mp hname
  have hend : ∀ d ∈ (right ++ '{' :: rest).head?, Lexeme.isIdentifierPart d = false := by
    cases right with
    | nil =>
      rintro d ⟨rfl⟩
      rfl
    | cons e es =>
      rintro d ⟨rfl⟩
      exact Lexeme.isIdentifierPart_eq_false_of_isBlank (hright e List.mem_cons_self)
  have hbrace : Lexeme.Leads ⟨.token (Lexeme.solitaryKind '{'), ['{']⟩ rest :=
    .solitary (by decide)
  rw [Token.placed_all_of_blank position _ hleft,
    Token.placed_all_of_leads _ (.identifier hstart hpart hend),
    Token.placed_all_of_blank _ _ hright]
  exact congrArg (List.cons _) (Token.placed_all_of_leads _ hbrace)

/-- The text behind a token, up to a later token. -/
theorem exists_between {text : Text} {front between rest : List Token} {left right : Token}
    (htokens : Token.ofText text = front ++ left :: (between ++ right :: rest)) :
    ∃ before middle behind, text = before ++ (middle ++ (right.text ++ behind)) ∧
      left.stop.offset = before.length ∧ right.start = left.stop.after middle ∧
      between ++ right :: rest =
        Token.placed left.stop (Lexeme.all (middle ++ (right.text ++ behind))) := by
  obtain ⟨before, behind, htext, hstart, hstop, hrest, -⟩ := Token.exists_texts_of_ofText htokens
  obtain ⟨lexemes, more, hall, hright, -⟩ := Token.exists_lexemes_of_placed hrest.symm
  have hbehind : behind = Lexeme.joined lexemes ++ (right.text ++ Lexeme.joined more) := by
    rw [← Lexeme.joined_all behind, hall, Lexeme.joined_append, Lexeme.joined_cons]
    rfl
  refine ⟨before ++ left.text, Lexeme.joined lexemes, Lexeme.joined more, ?_, ?_, hright, ?_⟩
  · rw [← hbehind, htext, List.append_assoc]
  · rw [hstop, Position.offset_after, hstart, Position.offset_after, List.length_append,
      Position.start, Nat.zero_add]
  · rw [← hbehind, hrest]

/-- If the text between `prog` and the first brace behind it is an identifier in
white space, then one token stands there. -/
theorem exists_name_of_isIdentifier {text : Text} {front named inner : List Token}
    {prog openBrace : Token}
    (htokens : Token.ofText text = front ++ prog :: (named ++ openBrace :: inner))
    (hnamed : ∀ token ∈ named, token.kind ≠ .openBrace) (hkind : openBrace.kind = .openBrace)
    (hname : isIdentifier (textBetween text prog openBrace) = true) :
    ∃ name, named = [name] ∧ name.kind = .identifier ∧
      (∀ c ∈ Text.slice text prog.stop.offset name.start.offset, Text.isBlank c = true) ∧
      ∀ c ∈ Text.slice text name.stop.offset openBrace.start.offset, Text.isBlank c = true := by
  obtain ⟨before, middle, behind, htext, hbefore, hopen, hrest⟩ := exists_between htokens
  have hmem : openBrace ∈ Token.ofText text := by simp [htokens]
  have hbrace : openBrace.text = ['{'] := Token.text_eq_of_kind hmem hkind (by decide)
  have hmiddle : Text.slice text prog.stop.offset openBrace.start.offset = middle := by
    apply Text.slice_of_append htext hbefore
    rw [hopen, Position.offset_after]
  rw [textBetween, hmiddle] at hname
  obtain ⟨left, right, hsides, hleft, hright⟩ := Text.exists_blanks_of_strip middle
  generalize Text.strip middle = name at hname hsides
  subst hsides
  rw [hbrace] at hrest htext
  simp only [List.append_assoc, List.cons_append, List.nil_append] at hrest htext
  rw [placed_name_openBrace prog.stop behind hleft hname hright] at hrest
  -- The first of these tokens is no brace and the second is one, so that the search
  -- for the first brace stops between them.
  cases named with
  | nil =>
    simp only [List.nil_append, List.cons.injEq] at hrest
    simp [hrest.1] at hkind
  | cons first named =>
    simp only [List.cons_append, List.cons.injEq] at hrest
    obtain ⟨rfl, hrest⟩ := hrest
    cases named with
    | cons second named =>
      simp only [List.cons_append, List.cons.injEq] at hrest
      exact absurd (by simp [hrest.1]) (hnamed second (by simp))
    | nil =>
      simp only [List.nil_append, List.cons.injEq] at hrest
      refine ⟨_, rfl, rfl, ?_, ?_⟩
      · have hslice : Text.slice text prog.stop.offset (prog.stop.after left).offset = left := by
          apply Text.slice_of_append htext hbefore
          rw [Position.offset_after]
        rwa [hslice]
      · have hslice : Text.slice text ((prog.stop.after left).after name).offset
            openBrace.start.offset = right := by
          have hcut : text = before ++ (left ++ name) ++ (right ++ '{' :: behind) := by
            simp [htext]
          apply Text.slice_of_append hcut
          · simp [Position.offset_after, hbefore, Nat.add_assoc]
          · simp [hrest.1, Position.offset_after]
        rwa [hslice]

/-! ## Layouts and outlines -/

namespace Layout

variable {text : Text} (layout : Layout text)

/-! The tokens of a layout, split at one landmark after the other. -/

theorem tokens_from_name : Token.ofText text = (layout.front ++ [layout.prog]) ++
    layout.name :: layout.openBrace ::
      (layout.members ++ layout.begin ::
        (layout.body ++ layout.closeBrace :: layout.trailing)) := by
  simp [layout.tokens_eq]

theorem tokens_from_openBrace :
    Token.ofText text = (layout.front ++ [layout.prog, layout.name]) ++ layout.openBrace ::
      (layout.members ++ layout.begin ::
        (layout.body ++ layout.closeBrace :: layout.trailing)) := by
  simp [layout.tokens_eq]

theorem tokens_from_begin : Token.ofText text =
    (layout.front ++ layout.prog :: layout.name :: layout.openBrace :: layout.members) ++
      layout.begin :: (layout.body ++ layout.closeBrace :: layout.trailing) := by
  simp [layout.tokens_eq]

theorem tokens_from_closeBrace : Token.ofText text =
    (layout.front ++ layout.prog :: layout.name :: layout.openBrace ::
      (layout.members ++ layout.begin :: layout.body)) ++ layout.closeBrace :: layout.trailing := by
  simp [layout.tokens_eq]

theorem prog_mem : layout.prog ∈ Token.ofText text := by
  simp [layout.tokens_eq]

theorem begin_mem : layout.begin ∈ Token.ofText text := by
  simp [layout.tokens_eq]

theorem closeBrace_mem : layout.closeBrace ∈ Token.ofText text := by
  simp [layout.tokens_eq]

theorem name_mem : layout.name ∈ Token.ofText text := by
  simp [layout.tokens_eq]

/-- Between `prog` and its brace stands the name. -/
theorem slice_prog_openBrace :
    Text.slice text layout.prog.stop.offset layout.openBrace.start.offset =
      Text.slice text layout.prog.stop.offset layout.name.start.offset ++
        (layout.name.text ++
          Text.slice text layout.name.stop.offset layout.openBrace.start.offset) := by
  have hname := Token.inText_of_mem layout.name_mem
  have hprog : layout.prog.stop.offset ≤ layout.name.start.offset :=
    Token.stop_le_of_mem_rest layout.tokens_eq (by simp)
  have hopen : layout.name.stop.offset ≤ layout.openBrace.start.offset :=
    Token.stop_le_of_mem_rest layout.tokens_from_name (by simp)
  have hmiddle := Text.slice_append_slice text (Nat.le_of_lt hname.start_lt_stop) hopen
  have hslice := Text.slice_append_slice text hprog
    (Nat.le_trans (Nat.le_of_lt hname.start_lt_stop) hopen)
  rw [← hmiddle, hname.slice_eq] at hslice
  exact hslice.symm

/-- What stands between `prog` and its brace is the name in white space. -/
theorem textBetween_prog_openBrace :
    textBetween text layout.prog layout.openBrace = layout.name.text := by
  have hidentifier := isIdentifier_text layout.name_mem layout.name_kind
  rw [textBetween, layout.slice_prog_openBrace]
  exact Text.strip_append layout.blank_before_name (isBlank_eq_false_of_isIdentifier hidentifier)
    layout.blank_behind_name

/-- The search finds the outline of a layout. -/
theorem ofText_eq : ofText text = .ok layout.outline := by
  have hmembers : ∀ token ∈ layout.members, token.isWord "begin" = false := by
    have honce := layout.begin_once
    rw [layout.tokens_from_begin,
      countP_append_cons_eq_one_iff (Token.isWord · "begin") layout.begin_isWord] at honce
    intro token htoken
    exact honce.1 token (by simp [htoken])
  have hprog : splitAtOnly .prog (Token.ofText text) =
      .ok (layout.front, layout.prog, layout.name :: layout.openBrace ::
        (layout.members ++ layout.begin ::
          (layout.body ++ layout.closeBrace :: layout.trailing))) :=
    splitAtOnly_eq_ok_iff.mpr ⟨layout.tokens_eq, layout.prog_isWord, layout.prog_once⟩
  have hopen : splitAtFirst (·.kind = .openBrace) (layout.name :: layout.openBrace ::
      (layout.members ++ layout.begin :: (layout.body ++ layout.closeBrace :: layout.trailing))) =
      some ([layout.name], layout.openBrace,
        layout.members ++ layout.begin :: (layout.body ++ layout.closeBrace :: layout.trailing)) :=
    splitAtFirst_eq_some_iff.mpr ⟨rfl, decide_eq_true layout.openBrace_kind, by
      simp [layout.name_kind]⟩
  have hbegin : splitAtFirst (·.isWord Keyword.begin.word)
      (layout.members ++ layout.begin :: (layout.body ++ layout.closeBrace :: layout.trailing)) =
      some (layout.members, layout.begin, layout.body ++ layout.closeBrace :: layout.trailing) :=
    splitAtFirst_eq_some_iff.mpr ⟨rfl, layout.begin_isWord, hmembers⟩
  have hclose : ((layout.body ++ layout.closeBrace :: layout.trailing).filter
      (·.kind = .closeBrace)).getLast? = some layout.closeBrace :=
    getLast?_filter_eq_some_iff.mpr ⟨decide_eq_true layout.closeBrace_kind, layout.body,
      layout.trailing, rfl, fun token hmem => decide_eq_false (layout.trailing_kind token hmem)⟩
  have hname : isIdentifier (textBetween text layout.prog layout.openBrace) = true := by
    rw [layout.textBetween_prog_openBrace]
    exact isIdentifier_text layout.name_mem layout.name_kind
  have honce : ∃ found, splitAtOnly .begin (Token.ofText text) = .ok found :=
    exists_splitAtOnly_iff.mpr layout.begin_once
  have hpackage := packageClause_eq_ok_iff.mpr layout.package_shape
  refine ofText_eq_ok_iff.mpr ⟨_, _, _, _, _, _, _, _, _, _, _, hprog, hopen, hname, honce, hbegin,
    hclose, hpackage, ?_⟩
  rw [layout.textBetween_prog_openBrace]
  rfl

end Layout

/-- An outline that was found has a layout. -/
theorem exists_layout_of_ofText {text : Text} {outline : Outline} (h : ofText text = .ok outline) :
    ∃ layout : Layout text, layout.outline = outline := by
  obtain ⟨front, prog, rest, named, openBrace, inner, members, start, body, closeBrace, package,
    hfirst, hbrace, hname, hbegin, hsecond, hlast, hpackage, rfl⟩ := ofText_eq_ok_iff.mp h
  obtain ⟨htokens, hprog, honce⟩ := splitAtOnly_eq_ok_iff.mp hfirst
  obtain ⟨rfl, hopen, hnamed⟩ := splitAtFirst_eq_some_iff.mp hbrace
  obtain ⟨rfl, hstart, -⟩ := splitAtFirst_eq_some_iff.mp hsecond
  obtain ⟨hclose, body, trailing, rfl, htrailing⟩ := getLast?_filter_eq_some_iff.mp hlast
  simp only [decide_eq_true_eq] at hopen hclose
  simp only [decide_eq_false_iff_not] at hnamed htrailing
  obtain ⟨name, rfl, hkind, hleft, hright⟩ :=
    exists_name_of_isIdentifier htokens hnamed hopen hname
  have hbeginOnce := exists_splitAtOnly_iff.mp hbegin
  let layout : Layout text := {
    front := front
    prog := prog
    name := name
    openBrace := openBrace
    members := members
    begin := start
    body := body
    closeBrace := closeBrace
    trailing := trailing
    package := package
    tokens_eq := htokens
    prog_isWord := hprog
    prog_once := honce
    name_kind := hkind
    openBrace_kind := hopen
    begin_isWord := hstart
    begin_once := hbeginOnce
    closeBrace_kind := hclose
    trailing_kind := htrailing
    blank_before_name := hleft
    blank_behind_name := hright
    package_shape := packageClause_eq_ok_iff.mp hpackage }
  refine ⟨layout, ?_⟩
  rw [layout.textBetween_prog_openBrace]
  rfl

/-- A package clause stands in front of `prog`, and its semicolon behind its
keyword. -/
theorem PackageShape.start_lt {text : Text} {front rest : List Token} {prog : Token}
    {clause : PackageClause} (h : PackageShape text front (some clause))
    (htokens : Token.ofText text = front ++ prog :: rest) :
    clause.start < clause.semicolon ∧ clause.semicolon < prog.start.offset := by
  cases h with
  | @present before words behind keyword semicolon =>
    have hkeyword : Token.ofText text =
        before ++ keyword :: (words ++ semicolon :: (behind ++ prog :: rest)) := by
      simp [htokens]
    have hsemicolon : Token.ofText text =
        (before ++ keyword :: words) ++ semicolon :: (behind ++ prog :: rest) := by
      simp [htokens]
    exact ⟨Token.start_lt_of_mem_rest hkeyword (by simp),
      Token.start_lt_of_mem_rest hsemicolon (by simp)⟩

/-- A text has an outline exactly if it has a layout. The outline then lists the
places of the layout's tokens, which come in the order of the text. -/
theorem ofText_exact (text : Text) :
    (∀ outline, ofText text = .ok outline ↔ ∃ layout : Layout text, layout.outline = outline) ∧
      ((∃ defect, ofText text = .error defect) ↔ ¬Nonempty (Layout text)) ∧
      ∀ layout : Layout text,
        (∀ clause ∈ layout.outline.package,
          clause.start < clause.semicolon ∧ clause.semicolon < layout.outline.prog) ∧
        layout.outline.prog < layout.outline.openBrace ∧
        layout.outline.openBrace < layout.outline.begin ∧
        layout.outline.begin < layout.outline.closeBrace := by
  refine ⟨fun outline => ⟨exists_layout_of_ofText, ?_⟩, ⟨?_, ?_⟩, fun layout => ⟨?_, ?_⟩⟩
  · rintro ⟨layout, rfl⟩
    exact layout.ofText_eq
  · rintro ⟨defect, hdefect⟩ ⟨layout⟩
    rw [layout.ofText_eq] at hdefect
    contradiction
  · intro hnone
    cases hresult : ofText text with
    | error defect => exact ⟨defect, rfl⟩
    | ok outline =>
      obtain ⟨layout, -⟩ := exists_layout_of_ofText hresult
      exact absurd ⟨layout⟩ hnone
  · intro clause hclause
    have hpackage : layout.package = some clause := hclause
    have hshape := layout.package_shape
    rw [hpackage] at hshape
    exact hshape.start_lt layout.tokens_eq
  · exact ⟨Token.start_lt_of_mem_rest layout.tokens_eq (by simp),
      Token.start_lt_of_mem_rest layout.tokens_from_openBrace (by simp),
      Token.start_lt_of_mem_rest layout.tokens_from_begin (by simp)⟩

theorem ofText_exact_of_package :
    ∃ layout : Layout "package a.b ;prog A{int x;begin{}}".toList,
      layout.outline.package = some ⟨0, 12, "a.b".toList⟩ ∧ layout.name.text = ['A'] := by
  have haccepted : ofText "package a.b ;prog A{int x;begin{}}".toList =
      .ok ⟨13, 19, 26, 33, ['A'], some ⟨0, 12, "a.b".toList⟩, [19, 31], []⟩ := by decide +kernel
  obtain ⟨layout, hlayout⟩ := ((ofText_exact _).1 _).mp haccepted
  exact ⟨layout, by rw [hlayout], congrArg Outline.programName hlayout⟩

end Transcompiler.Outline
