/-
# Which lexeme begins a text

`Lexeme.first` tries the rules one after the other and looks at as much of the
text as a rule asks for. This module says the same without the rules:
`Leads lexeme rest` lists, class by class, what the lexeme has to be and what it
asks of the rest behind it. Most classes ask nothing, an identifier or a run of
white space only asks that the rest does not go on with it, and only three
openings look further: a slash in front of a star, the empty string in front of
another quote, and a quote that nothing closes.

`first_eq_some_iff` says that the two agree, and `all_eq_iff` carries this over
to the lexemes of a whole text. What a change somewhere in a text does to its
lexemes is then a question about `Leads` alone.
-/

import Transcompiler.Lexeme
import Transcompiler.Proofs.Slice

namespace Transcompiler.Lexeme

/-! ## Closing delimiters

Where a literal or a comment ends depends on its own characters only: behind its
end any text may follow, and in front of its end none of it may be missing. -/

theorem length_le_of_throughFirst {closing text front rest : Text}
    (h : throughFirst closing text = some (front, rest)) : closing.length ≤ front.length := by
  induction text generalizing front rest with
  | nil => simp [throughFirst] at h
  | cons c cs ih =>
    rw [throughFirst] at h
    split at h
    · simp only [Option.some.injEq, Prod.mk.injEq] at h
      obtain ⟨rfl, -⟩ := h
      exact Nat.le_refl _
    · obtain ⟨⟨front', rest'⟩, hsplit, heq⟩ := Option.map_eq_some_iff.mp h
      simp only [Prod.mk.injEq] at heq
      have hlength := ih hsplit
      rw [← heq.1, List.length_cons]
      omega

/-- What follows the text does not move its first closing delimiter. -/
theorem throughFirst_append {closing text front rest : Text} (more : Text)
    (h : throughFirst closing text = some (front, rest)) :
    throughFirst closing (text ++ more) = some (front, rest ++ more) := by
  induction text generalizing front rest with
  | nil => simp [throughFirst] at h
  | cons c cs ih =>
    have hlength : closing.length ≤ (c :: cs).length := by
      have hfront := length_le_of_throughFirst h
      have happend := congrArg List.length (append_of_throughFirst h)
      rw [List.length_append] at happend
      omega
    rw [throughFirst] at h
    rw [List.cons_append, throughFirst]
    -- An occurrence in the longer text that is not one in the shorter would reach
    -- over its end, so the shorter text would have no room for a delimiter.
    have hiff : closing.isPrefixOf (c :: (cs ++ more)) = closing.isPrefixOf (c :: cs) := by
      rw [Bool.eq_iff_iff, List.isPrefixOf_iff_prefix, List.isPrefixOf_iff_prefix,
        ← List.cons_append]
      constructor
      · intro hbegins
        exact List.prefix_of_prefix_length_le hbegins (List.prefix_append _ _) hlength
      · intro hbegins
        exact hbegins.trans (List.prefix_append _ _)
    rw [hiff]
    split at h
    · next hbegins =>
      simp only [Option.some.injEq, Prod.mk.injEq] at h
      obtain ⟨rfl, rfl⟩ := h
      rw [if_pos hbegins, ← List.cons_append, List.drop_append_of_le_length hlength]
    · next hbegins =>
      obtain ⟨⟨front', rest'⟩, hsplit, heq⟩ := Option.map_eq_some_iff.mp h
      simp only [Prod.mk.injEq] at heq
      obtain ⟨rfl, rfl⟩ := heq
      rw [if_neg hbegins, ih hsplit]
      rfl

/-- The part through the first closing delimiter holds that delimiter at its end
and nowhere before. -/
theorem throughFirst_front {closing text front rest : Text} (hclosing : closing ≠ [])
    (h : throughFirst closing text = some (front, rest)) :
    throughFirst closing front = some (front, []) := by
  induction text generalizing front rest with
  | nil => simp [throughFirst] at h
  | cons c cs ih =>
    have happend := append_of_throughFirst h
    rw [throughFirst] at h
    split at h
    · simp only [Option.some.injEq, Prod.mk.injEq] at h
      obtain ⟨rfl, -⟩ := h
      obtain ⟨d, ds, rfl⟩ := List.exists_cons_of_ne_nil hclosing
      simp [throughFirst]
    · next hbegins =>
      obtain ⟨⟨front', rest'⟩, hsplit, heq⟩ := Option.map_eq_some_iff.mp h
      simp only [Prod.mk.injEq] at heq
      obtain ⟨rfl, rfl⟩ := heq
      have hshort : ¬closing.isPrefixOf (c :: front') = true := by
        intro hfront
        apply hbegins
        rw [List.isPrefixOf_iff_prefix] at hfront ⊢
        exact hfront.trans ⟨rest', happend⟩
      rw [throughFirst, if_neg hshort, ih hsplit]
      rfl

/-- A closing delimiter is found exactly in the texts that hold it. -/
theorem throughFirst_eq_none_iff {closing text : Text} (hclosing : closing ≠ []) :
    throughFirst closing text = none ↔ ¬closing <:+: text := by
  induction text with
  | nil => simp [throughFirst, hclosing]
  | cons c cs ih =>
    rw [throughFirst, List.infix_cons_iff, ← List.isPrefixOf_iff_prefix]
    split
    · next hbegins => simp [hbegins]
    · next hbegins => simp [hbegins, ih]

/-- The whole of a text is the part through its first closing delimiter exactly if
the delimiter ends the text and occurs nowhere in front of its end. -/
theorem throughFirst_eq_self_iff {closing text : Text} (hclosing : closing ≠ []) :
    throughFirst closing text = some (text, []) ↔
      ∃ inner, text = inner ++ closing ∧ ¬closing <:+: inner ++ closing.dropLast := by
  have hpositive := List.length_pos_iff.mpr hclosing
  have hshorter (front : Text) : front ++ closing.dropLast <+: front ++ closing :=
    (List.prefix_append_right_inj front).mpr (List.dropLast_prefix closing)
  constructor
  · intro h
    induction text with
    | nil => simp [throughFirst] at h
    | cons c cs ih =>
      rw [throughFirst] at h
      split at h
      · simp only [Option.some.injEq, Prod.mk.injEq] at h
        refine ⟨[], h.1.symm, ?_⟩
        intro hholds
        have hlength := hholds.length_le
        rw [List.nil_append, List.length_dropLast] at hlength
        omega
      · next hbegins =>
        obtain ⟨⟨front, rest⟩, hsplit, heq⟩ := Option.map_eq_some_iff.mp h
        simp only [Prod.mk.injEq, List.cons.injEq, true_and] at heq
        obtain ⟨rfl, rfl⟩ := heq
        obtain ⟨inner, rfl, hfirst⟩ := ih hsplit
        refine ⟨c :: inner, rfl, ?_⟩
        rw [List.cons_append, List.infix_cons_iff]
        rintro (hfront | hholds)
        · exact hbegins (List.isPrefixOf_iff_prefix.mpr (hfront.trans (hshorter (c :: inner))))
        · exact hfirst hholds
  · rintro ⟨inner, rfl, hfirst⟩
    induction inner with
    | nil =>
      obtain ⟨d, ds, rfl⟩ := List.exists_cons_of_ne_nil hclosing
      simp [throughFirst]
    | cons c inner ih =>
      have hbegins : ¬closing.isPrefixOf (c :: (inner ++ closing)) = true := by
        rw [List.isPrefixOf_iff_prefix]
        intro hfront
        have hlength : closing.length ≤ (c :: inner ++ closing.dropLast).length := by
          simp only [List.length_cons, List.length_append, List.length_dropLast]
          omega
        exact hfirst
          (List.prefix_of_prefix_length_le hfront (hshorter (c :: inner)) hlength).isInfix
      rw [List.cons_append, throughFirst, if_neg hbegins,
        ih (fun hholds => hfirst (List.infix_cons hholds))]
      rfl

/-- A character that is no backslash stands for itself. -/
theorem throughQuote_cons_of_ne {quote c : Char} (cs : Text) (hc : c ≠ '\\') :
    throughQuote quote (c :: cs) =
      if c = quote then some ([c], cs)
      else if c = '\n' then none
      else (throughQuote quote cs).map fun (front, rest) => (c :: front, rest) := by
  rw [throughQuote.eq_def]
  split <;> simp_all

/-- What follows the text does not move its first unescaped quote. -/
theorem throughQuote_append {quote : Char} {text front rest : Text} (more : Text)
    (h : throughQuote quote text = some (front, rest)) :
    throughQuote quote (text ++ more) = some (front, rest ++ more) := by
  fun_induction throughQuote quote text generalizing front rest with
  | case1 => simp at h
  | case2 => simp at h
  | case3 => simp at h
  | case4 c cs hline ih =>
    obtain ⟨⟨front', rest'⟩, hsplit, heq⟩ := Option.map_eq_some_iff.mp h
    simp only [Prod.mk.injEq] at heq
    obtain ⟨rfl, rfl⟩ := heq
    simp [throughQuote, hline, ih hsplit]
  | case5 cs hend hescape =>
    simp only [Option.some.injEq, Prod.mk.injEq] at h
    obtain ⟨rfl, rfl⟩ := h
    have hplain : quote ≠ '\\' := by cases cs <;> simp_all
    rw [List.cons_append, throughQuote_cons_of_ne _ hplain, if_pos rfl]
  | case6 => simp at h
  | case7 c cs hend hescape hquote hline ih =>
    obtain ⟨⟨front', rest'⟩, hsplit, heq⟩ := Option.map_eq_some_iff.mp h
    simp only [Prod.mk.injEq] at heq
    obtain ⟨rfl, rfl⟩ := heq
    have hplain : c ≠ '\\' := by cases cs <;> simp_all
    rw [List.cons_append, throughQuote_cons_of_ne _ hplain, if_neg hquote, if_neg hline,
      ih hsplit]
    rfl

/-- The part through the first unescaped quote holds such a quote at its end and
nowhere before. -/
theorem throughQuote_front {quote : Char} {text front rest : Text}
    (h : throughQuote quote text = some (front, rest)) :
    throughQuote quote front = some (front, []) := by
  fun_induction throughQuote quote text generalizing front rest with
  | case1 => simp at h
  | case2 => simp at h
  | case3 => simp at h
  | case4 c cs hline ih =>
    obtain ⟨⟨front', rest'⟩, hsplit, heq⟩ := Option.map_eq_some_iff.mp h
    simp only [Prod.mk.injEq] at heq
    obtain ⟨rfl, rfl⟩ := heq
    simp [throughQuote, hline, ih hsplit]
  | case5 cs hend hescape =>
    simp only [Option.some.injEq, Prod.mk.injEq] at h
    obtain ⟨rfl, rfl⟩ := h
    have hplain : quote ≠ '\\' := by cases cs <;> simp_all
    rw [throughQuote_cons_of_ne _ hplain, if_pos rfl]
  | case6 => simp at h
  | case7 c cs hend hescape hquote hline ih =>
    obtain ⟨⟨front', rest'⟩, hsplit, heq⟩ := Option.map_eq_some_iff.mp h
    simp only [Prod.mk.injEq] at heq
    obtain ⟨rfl, rfl⟩ := heq
    have hplain : c ≠ '\\' := by cases cs <;> simp_all
    rw [throughQuote_cons_of_ne _ hplain, if_neg hquote, if_neg hline, ih hsplit]
    rfl

/-! ## The shape of a stretch -/

theorem isBlank_eq_false_of_isIdentifierPart {c : Char} (hc : isIdentifierPart c = true) :
    Text.isBlank c = false := by
  have hcode : 65 ≤ c.toNat ∧ c.toNat ≤ 90 ∨ 97 ≤ c.toNat ∧ c.toNat ≤ 122 ∨ c.toNat = 95 ∨
      c.toNat = 36 ∨ 48 ≤ c.toNat ∧ c.toNat ≤ 57 := by
    simp only [isIdentifierPart, isIdentifierStart, Bool.or_eq_true, Bool.and_eq_true,
      decide_eq_true_eq] at hc
    rcases hc with (((⟨hlow, hhigh⟩ | ⟨hlow, hhigh⟩) | rfl) | rfl) | ⟨hlow, hhigh⟩
    · exact .inl ⟨hlow, hhigh⟩
    · exact .inr (.inl ⟨hlow, hhigh⟩)
    · decide
    · decide
    · exact .inr (.inr (.inr (.inr ⟨hlow, hhigh⟩)))
  simp only [Text.isBlank, Text.blankRanges, CodeRange.contains, List.any_cons, List.any_nil,
    Bool.or_false, Bool.or_eq_false_iff, Bool.and_eq_false_iff, decide_eq_false_iff_not]
  omega

theorem isIdentifierPart_of_isIdentifierStart {c : Char} (hc : isIdentifierStart c = true) :
    isIdentifierPart c = true := by
  simp [isIdentifierPart, hc]

theorem isIdentifierPart_eq_false_of_isBlank {c : Char} (hc : Text.isBlank c = true) :
    isIdentifierPart c = false := by
  rw [Bool.eq_false_iff]
  intro hpart
  rw [isBlank_eq_false_of_isIdentifierPart hpart] at hc
  exact Bool.false_ne_true hc

theorem isIdentifierStart_eq_false_of_isBlank {c : Char} (hc : Text.isBlank c = true) :
    isIdentifierStart c = false := by
  have hpart := isIdentifierPart_eq_false_of_isBlank hc
  rw [isIdentifierPart, Bool.or_eq_false_iff] at hpart
  exact hpart.1

theorem stretch_cons_single (start : Char → Bool) (c : Char) (cs : Text) :
    stretch start (fun _ => false) (c :: cs) = if start c then some ([c], cs) else none := by
  cases cs <;> simp [stretch]

theorem stretch_of_head? {start part : Char → Bool} {c : Char} {cs rest : Text}
    (hstart : start c = true) (hpart : ∀ d ∈ cs, part d = true)
    (hrest : ∀ d ∈ rest.head?, part d = false) :
    stretch start part (c :: cs ++ rest) = some (c :: cs, rest) := by
  have htake : rest.takeWhile part = [] := by
    cases rest with
    | nil => rfl
    | cons d ds => simp [hrest d rfl]
  have hdrop : rest.dropWhile part = rest := by
    cases rest with
    | nil => rfl
    | cons d ds => simp [hrest d rfl]
  rw [List.cons_append, stretch, if_pos hstart, List.takeWhile_append_of_pos hpart,
    List.dropWhile_append_of_pos hpart, htake, hdrop, List.append_nil]

/-! ## The lexeme in front of a rest -/

/-- Whether a character is a token by itself wherever it stands in front of
another lexeme: it begins no identifier, no white space, no literal and no
comment. -/
def isSolitary (c : Char) : Bool :=
  !(isIdentifierStart c || Text.isBlank c || c = '/' || c = '"' || c = '\'')

/-- The class of a token of one solitary character. -/
def solitaryKind (c : Char) : TokenKind :=
  if c = '{' then .openBrace
  else if c = '}' then .closeBrace
  else if c = '(' then .openParen
  else if c = ';' then .semicolon
  else .other

theorem solitaryKind_cases (c : Char) :
    (c = '{' ∧ solitaryKind c = .openBrace) ∨ (c = '}' ∧ solitaryKind c = .closeBrace) ∨
      (c = '(' ∧ solitaryKind c = .openParen) ∨ (c = ';' ∧ solitaryKind c = .semicolon) ∨
      solitaryKind c = .other := by
  unfold solitaryKind
  split
  · next hc => exact .inl ⟨hc, rfl⟩
  · split
    · next hc => exact .inr (.inl ⟨hc, rfl⟩)
    · split
      · next hc => exact .inr (.inr (.inl ⟨hc, rfl⟩))
      · split
        · next hc => exact .inr (.inr (.inr (.inl ⟨hc, rfl⟩)))
        · exact .inr (.inr (.inr (.inr rfl)))

/-- The delimiter on both sides of a text block. -/
def tripleQuote : Text := ['"', '"', '"']

/-- The delimiter behind a block comment. -/
def commentEnd : Text := ['*', '/']

/-- A lexeme leads a rest if it is the first lexeme of its text followed by the
rest. -/
inductive Leads : Lexeme → Text → Prop where
  /-- An identifier does not go on in the rest. -/
  | identifier {c : Char} {cs rest : Text} (hstart : isIdentifierStart c = true)
      (hpart : ∀ d ∈ cs, isIdentifierPart d = true)
      (hrest : ∀ d ∈ rest.head?, isIdentifierPart d = false) :
      Leads ⟨.token .identifier, c :: cs⟩ rest
  /-- White space does not go on in the rest. -/
  | blank {c : Char} {cs rest : Text} (hstart : Text.isBlank c = true)
      (hpart : ∀ d ∈ cs, Text.isBlank d = true)
      (hrest : ∀ d ∈ rest.head?, Text.isBlank d = false) : Leads ⟨.gap .blank, c :: cs⟩ rest
  /-- A solitary character asks nothing of the rest. -/
  | solitary {c : Char} {rest : Text} (hsolitary : isSolitary c = true) :
      Leads ⟨.token (solitaryKind c), [c]⟩ rest
  /-- A line comment ends with its line. -/
  | lineComment {cs rest : Text} (hline : ∀ d ∈ cs, d ≠ '\n') (hrest : ∀ d ∈ rest.head?, d = '\n') :
      Leads ⟨.gap .lineComment, '/' :: '/' :: cs⟩ rest
  /-- A block comment ends with the first closing delimiter. -/
  | blockComment {cs rest : Text} (hclosed : throughFirst commentEnd cs = some (cs, [])) :
      Leads ⟨.gap .blockComment, '/' :: '*' :: cs⟩ rest
  /-- A text block ends with the first closing delimiter. -/
  | textBlock {cs rest : Text} (hclosed : throughFirst tripleQuote cs = some (cs, [])) :
      Leads ⟨.token .textBlock, '"' :: '"' :: '"' :: cs⟩ rest
  /-- A string ends with the first unescaped quote, and begins no text block
  together with the rest. -/
  | string {cs rest : Text} (hclosed : throughQuote '"' cs = some (cs, []))
      (hblock : delimited tripleQuote tripleQuote ('"' :: cs ++ rest) = none) :
      Leads ⟨.token .string, '"' :: cs⟩ rest
  /-- A character literal ends with the first unescaped quote. -/
  | character {cs rest : Text} (hclosed : throughQuote '\'' cs = some (cs, [])) :
      Leads ⟨.token .character, '\'' :: cs⟩ rest
  /-- A slash that is a token begins no comment together with the rest. -/
  | slash {rest : Text} (hline : rest.head? ≠ some '/')
      (hblock : delimited ['/', '*'] commentEnd ('/' :: rest) = none) :
      Leads ⟨.token .other, ['/']⟩ rest
  /-- A double quote that is a token begins no literal together with the rest. -/
  | doubleQuote {rest : Text} (hopen : throughQuote '"' rest = none)
      (hblock : delimited tripleQuote tripleQuote ('"' :: rest) = none) :
      Leads ⟨.token .other, ['"']⟩ rest
  /-- A single quote that is a token begins no literal together with the rest. -/
  | singleQuote {rest : Text} (hopen : throughQuote '\'' rest = none) :
      Leads ⟨.token .other, ['\'']⟩ rest

theorem lineComment_eq_none {c : Char} {cs : Text} (hc : c ≠ '/') :
    lineComment (c :: cs) = none := by
  simp [lineComment, hc]

theorem delimited_eq_none {c d : Char} {opening closing cs : Text} (hc : d ≠ c) :
    delimited (c :: opening) closing (d :: cs) = none := by
  simp [delimited, hc.symm]

theorem quoted_eq_none {c d : Char} {cs : Text} (hc : d ≠ c) : quoted c (d :: cs) = none := by
  simp [quoted, hc]

theorem delimited_of_closed (opening : Text) {closing front : Text} (rest : Text)
    (hclosed : throughFirst closing front = some (front, [])) :
    delimited opening closing (opening ++ front ++ rest) = some (opening ++ front, rest) := by
  have hbegins : opening <+: opening ++ (front ++ rest) := List.prefix_append _ _
  have hmore := throughFirst_append rest hclosed
  rw [delimited, List.append_assoc, if_pos hbegins, List.drop_left, hmore]
  rfl

theorem quoted_of_closed {quote : Char} {front : Text} (rest : Text)
    (hclosed : throughQuote quote front = some (front, [])) :
    quoted quote (quote :: front ++ rest) = some (quote :: front, rest) := by
  have hmore := throughQuote_append rest hclosed
  simp only [List.cons_append, quoted, if_true, hmore]
  rfl

/-- What stands behind the opening delimiter of a delimited lexeme is closed. -/
theorem closed_of_delimited {opening closing text front rest : Text} (hclosing : closing ≠ [])
    (h : delimited opening closing text = some (front, rest)) :
    ∃ inner, front = opening ++ inner ∧ throughFirst closing inner = some (inner, []) := by
  rw [delimited] at h
  split at h
  · obtain ⟨⟨front', rest'⟩, hsplit, heq⟩ := Option.map_eq_some_iff.mp h
    simp only [Prod.mk.injEq] at heq
    exact ⟨front', heq.1.symm, throughFirst_front hclosing hsplit⟩
  · simp at h

/-- What a rule of a class contributes to `first`. -/
def ofSplit (category : Category) (split : Option (Text × Text)) : Option (Lexeme × Text) :=
  split.map fun (front, rest) => (⟨category, front⟩, rest)

@[simp]
theorem ofSplit_none (category : Category) : ofSplit category none = none := rfl

@[simp]
theorem ofSplit_some (category : Category) (front rest : Text) :
    ofSplit category (some (front, rest)) = some (⟨category, front⟩, rest) := rfl

/-- The rules written out: the first split that succeeds decides. -/
theorem first_eq_or (text : Text) :
    first text =
      ((ofSplit (.gap .lineComment) (lineComment text)).or <|
        (ofSplit (.gap .blockComment) (delimited ['/', '*'] commentEnd text)).or <|
        (ofSplit (.token .textBlock) (delimited tripleQuote tripleQuote text)).or <|
        (ofSplit (.token .string) (quoted '"' text)).or <|
        (ofSplit (.token .character) (quoted '\'' text)).or <|
        (ofSplit (.token .identifier) (stretch isIdentifierStart isIdentifierPart text)).or <|
        (ofSplit (.token .openBrace) (stretch (· = '{') (fun _ => false) text)).or <|
        (ofSplit (.token .closeBrace) (stretch (· = '}') (fun _ => false) text)).or <|
        (ofSplit (.token .openParen) (stretch (· = '(') (fun _ => false) text)).or <|
        (ofSplit (.token .semicolon) (stretch (· = ';') (fun _ => false) text)).or <|
        (ofSplit (.gap .blank) (stretch Text.isBlank Text.isBlank text)).or <|
        ofSplit (.token .other) (stretch (fun _ => true) (fun _ => false) text)) := by
  have hcons (rule : Rule) (more : List Rule) :
      ((rule :: more).findSome? fun rule =>
          (rule.split text).map fun (front, rest) => (⟨rule.category, front⟩, rest)) =
        (ofSplit rule.category (rule.split text)).or (more.findSome? fun rule =>
          (rule.split text).map fun (front, rest) => (⟨rule.category, front⟩, rest)) := by
    rw [List.findSome?_cons]
    cases hsplit : rule.split text <;> rfl
  simp only [first, rules, hcons, List.findSome?_nil, Option.or_none]
  rfl

/-- The first character of a comment or a literal is a token by itself if neither
begins with it. -/
theorem first_of_opening {c : Char} {cs : Text} (hc : c = '/' ∨ c = '"' ∨ c = '\'')
    (hline : lineComment (c :: cs) = none)
    (hcomment : delimited ['/', '*'] commentEnd (c :: cs) = none)
    (hblock : delimited tripleQuote tripleQuote (c :: cs) = none)
    (hdouble : quoted '"' (c :: cs) = none) (hsingle : quoted '\'' (c :: cs) = none) :
    first (c :: cs) = some (⟨.token .other, [c]⟩, cs) := by
  have hidentifier : stretch isIdentifierStart isIdentifierPart (c :: cs) = none := by
    rcases hc with rfl | rfl | rfl <;> rfl
  have hblank : stretch Text.isBlank Text.isBlank (c :: cs) = none := by
    rcases hc with rfl | rfl | rfl <;> rfl
  rw [first_eq_or, hline, hcomment, hblock, hdouble, hsingle, hidentifier, hblank]
  simp only [stretch_cons_single]
  rcases hc with rfl | rfl | rfl <;> rfl

/-- A lexeme that leads a rest is the one that the rules split off. -/
theorem first_of_leads {lexeme : Lexeme} {rest : Text} (h : Leads lexeme rest) :
    first (lexeme.text ++ rest) = some (lexeme, rest) := by
  cases h with
  | @identifier c cs _ hstart hpart hrest =>
    have hne (d : Char) (hd : isIdentifierStart d = false) : c ≠ d := by
      rintro rfl
      simp [hd] at hstart
    have hsplit := stretch_of_head? hstart hpart hrest
    rw [first_eq_or]
    simp only [List.cons_append] at hsplit ⊢
    simp [lineComment_eq_none (hne '/' rfl), delimited_eq_none (hne '/' rfl), tripleQuote,
      delimited_eq_none (hne '"' rfl), quoted_eq_none (hne '"' rfl),
      quoted_eq_none (hne '\'' rfl), hsplit]
  | @blank c cs _ hstart hpart hrest =>
    have hne (d : Char) (hd : Text.isBlank d = false) : c ≠ d := by
      rintro rfl
      simp [hd] at hstart
    have hidentifier := isIdentifierStart_eq_false_of_isBlank hstart
    have hsplit := stretch_of_head? hstart hpart hrest
    rw [first_eq_or]
    simp only [List.cons_append] at hsplit ⊢
    rw [hsplit]
    simp [lineComment_eq_none (hne '/' rfl), delimited_eq_none (hne '/' rfl), tripleQuote,
      delimited_eq_none (hne '"' rfl), quoted_eq_none (hne '"' rfl),
      quoted_eq_none (hne '\'' rfl), stretch, hidentifier, hne '{' rfl, hne '}' rfl,
      hne '(' rfl, hne ';' rfl]
  | @solitary c _ hsolitary =>
    simp only [isSolitary, Bool.not_eq_true', Bool.or_eq_false_iff, decide_eq_false_iff_not]
      at hsolitary
    obtain ⟨⟨⟨⟨hidentifier, hblank⟩, hslash⟩, hdouble⟩, hsingle⟩ := hsolitary
    rw [first_eq_or]
    simp only [List.cons_append, List.nil_append, lineComment_eq_none hslash,
      delimited_eq_none hslash, tripleQuote, delimited_eq_none hdouble, quoted_eq_none hdouble,
      quoted_eq_none hsingle, ofSplit_none, Option.none_or, stretch_cons_single, solitaryKind]
    simp only [stretch, hidentifier, hblank]
    by_cases hopen : c = '{'
    · simp [hopen]
    · by_cases hclose : c = '}'
      · simp [hclose]
      · by_cases hparen : c = '('
        · simp [hparen]
        · by_cases hsemicolon : c = ';'
          · simp [hsemicolon]
          · simp [hopen, hclose, hparen, hsemicolon]
  | @lineComment cs _ hline hrest =>
    have hstretch :
        stretch (fun _ => true) (· ≠ '\n') ('/' :: cs ++ rest) = some ('/' :: cs, rest) :=
      stretch_of_head? rfl (by simpa using hline) (by simpa using hrest)
    simp only [stretch, List.cons_append, if_true, Option.some.injEq, Prod.mk.injEq,
      List.cons.injEq, true_and] at hstretch
    rw [first_eq_or]
    simp only [lineComment, List.cons_append, hstretch, ofSplit_some, Option.some_or]
  | blockComment hclosed =>
    have hsplit := delimited_of_closed ['/', '*'] rest hclosed
    rw [first_eq_or]
    simp only [List.cons_append, List.nil_append] at hsplit ⊢
    simp [lineComment, hsplit]
  | textBlock hclosed =>
    have hsplit := delimited_of_closed tripleQuote rest hclosed
    rw [first_eq_or]
    simp only [tripleQuote, List.cons_append, List.nil_append] at hsplit ⊢
    simp [lineComment, delimited_eq_none, hsplit]
  | string hclosed hblock =>
    have hsplit := quoted_of_closed rest hclosed
    rw [first_eq_or]
    simp only [List.cons_append] at hsplit hblock ⊢
    simp [lineComment, delimited_eq_none, hblock, hsplit]
  | character hclosed =>
    have hsplit := quoted_of_closed rest hclosed
    rw [first_eq_or]
    simp only [List.cons_append] at hsplit ⊢
    simp [lineComment, tripleQuote, delimited_eq_none, quoted_eq_none, hsplit]
  | slash hline hblock =>
    have hnone : lineComment ('/' :: rest) = none := by
      cases rest with
      | nil => rfl
      | cons d ds =>
        have hd : d ≠ '/' := by simpa using hline
        simp [lineComment, hd]
    exact first_of_opening (.inl rfl) hnone hblock (delimited_eq_none (by decide))
      (quoted_eq_none (by decide)) (quoted_eq_none (by decide))
  | doubleQuote hopen hblock =>
    have hnone : quoted '"' ('"' :: rest) = none := by simp [quoted, hopen]
    exact first_of_opening (.inr (.inl rfl)) (lineComment_eq_none (by decide))
      (delimited_eq_none (by decide)) hblock hnone (quoted_eq_none (by decide))
  | singleQuote hopen =>
    have hnone : quoted '\'' ('\'' :: rest) = none := by simp [quoted, hopen]
    exact first_of_opening (.inr (.inr rfl)) (lineComment_eq_none (by decide))
      (delimited_eq_none (by decide)) (delimited_eq_none (by decide))
      (quoted_eq_none (by decide)) hnone

theorem exists_leads_slash (cs : Text) :
    ∃ lexeme rest, lexeme.text ++ rest = '/' :: cs ∧ Leads lexeme rest := by
  by_cases hline : cs.head? = some '/'
  · obtain ⟨ds, rfl⟩ := List.head?_eq_some_iff.mp hline
    obtain ⟨front, rest, rfl, hfront, hrest⟩ := exists_longest (· ≠ '\n') ds
    refine ⟨⟨_, '/' :: '/' :: front⟩, rest, rfl, .lineComment ?_ ?_⟩
    · intro d hd
      simpa using hfront d hd
    · intro d hd
      simpa using hrest d hd
  · cases hblock : delimited ['/', '*'] commentEnd ('/' :: cs) with
    | none => exact ⟨⟨_, _⟩, cs, rfl, .slash hline hblock⟩
    | some split =>
      obtain ⟨front, rest⟩ := split
      obtain ⟨ds, rfl, hclosed⟩ := closed_of_delimited (by decide) hblock
      exact ⟨_, rest, (append_of_delimited (by decide) hblock).2, .blockComment hclosed⟩

theorem exists_leads_doubleQuote (cs : Text) :
    ∃ lexeme rest, lexeme.text ++ rest = '"' :: cs ∧ Leads lexeme rest := by
  cases hblock : delimited tripleQuote tripleQuote ('"' :: cs) with
  | some split =>
    obtain ⟨front, rest⟩ := split
    obtain ⟨ds, rfl, hclosed⟩ := closed_of_delimited (by decide) hblock
    exact ⟨_, rest, (append_of_delimited (by decide) hblock).2, .textBlock hclosed⟩
  | none =>
    cases hquote : throughQuote '"' cs with
    | none => exact ⟨⟨_, _⟩, cs, rfl, .doubleQuote hquote hblock⟩
    | some split =>
      obtain ⟨front, rest⟩ := split
      have happend := append_of_throughQuote hquote
      subst happend
      exact ⟨⟨_, '"' :: front⟩, rest, rfl, .string (throughQuote_front hquote) hblock⟩

theorem exists_leads_singleQuote (cs : Text) :
    ∃ lexeme rest, lexeme.text ++ rest = '\'' :: cs ∧ Leads lexeme rest := by
  cases hquote : throughQuote '\'' cs with
  | none => exact ⟨⟨_, _⟩, cs, rfl, .singleQuote hquote⟩
  | some split =>
    obtain ⟨front, rest⟩ := split
    have happend := append_of_throughQuote hquote
    subst happend
    exact ⟨⟨_, '\'' :: front⟩, rest, rfl, .character (throughQuote_front hquote)⟩

/-- Some lexeme leads the rest of every text that is not empty. -/
theorem exists_leads (c : Char) (cs : Text) :
    ∃ lexeme rest, lexeme.text ++ rest = c :: cs ∧ Leads lexeme rest := by
  by_cases hidentifier : isIdentifierStart c = true
  · obtain ⟨front, rest, rfl, hpart, hrest⟩ := exists_longest isIdentifierPart cs
    exact ⟨⟨_, c :: front⟩, rest, rfl, .identifier hidentifier hpart hrest⟩
  by_cases hblank : Text.isBlank c = true
  · obtain ⟨front, rest, rfl, hpart, hrest⟩ := exists_longest Text.isBlank cs
    exact ⟨⟨_, c :: front⟩, rest, rfl, .blank hblank hpart hrest⟩
  by_cases hslash : c = '/'
  · exact hslash ▸ exists_leads_slash cs
  by_cases hdouble : c = '"'
  · exact hdouble ▸ exists_leads_doubleQuote cs
  by_cases hsingle : c = '\''
  · exact hsingle ▸ exists_leads_singleQuote cs
  refine ⟨⟨_, [c]⟩, cs, rfl, .solitary ?_⟩
  simp [isSolitary, hidentifier, hblank, hslash, hdouble, hsingle]

/-- The rules and `Leads` agree on the first lexeme of a text. -/
theorem first_eq_some_iff {text rest : Text} {lexeme : Lexeme} :
    first text = some (lexeme, rest) ↔ lexeme.text ++ rest = text ∧ Leads lexeme rest := by
  constructor
  · intro hfirst
    cases text with
    | nil => exact absurd (length_lt_of_first hfirst) (Nat.not_lt_zero _)
    | cons c cs =>
      obtain ⟨lexeme', rest', happend, hleads⟩ := exists_leads c cs
      have hfirst' := first_of_leads hleads
      rw [happend, hfirst] at hfirst'
      cases hfirst'
      exact ⟨happend, hleads⟩
  · rintro ⟨rfl, hleads⟩
    exact first_of_leads hleads

/-! ## The lexemes of a text -/

/-- The text that lexemes make up together. -/
def joined (lexemes : List Lexeme) : Text :=
  lexemes.flatMap (·.text)

@[simp]
theorem joined_nil : joined [] = [] := rfl

@[simp]
theorem joined_append (left right : List Lexeme) :
    joined (left ++ right) = joined left ++ joined right :=
  List.flatMap_append

@[simp]
theorem joined_cons (lexeme : Lexeme) (lexemes : List Lexeme) :
    joined (lexeme :: lexemes) = lexeme.text ++ joined lexemes := rfl

/-- Lexemes are chained if each of them leads the text of those behind it. -/
def Chained : List Lexeme → Prop
  | [] => True
  | lexeme :: lexemes => Leads lexeme (joined lexemes) ∧ Chained lexemes

theorem Chained.right {left right : List Lexeme} (h : Chained (left ++ right)) : Chained right := by
  induction left with
  | nil => exact h
  | cons lexeme left ih => exact ih h.2

theorem Leads.text_ne_nil {lexeme : Lexeme} {rest : Text} (h : Leads lexeme rest) :
    lexeme.text ≠ [] :=
  (append_of_first (first_of_leads h)).1

/-- The characters of an identifier, and the end of it. -/
theorem Leads.of_identifier {lexeme : Lexeme} {rest : Text} (h : Leads lexeme rest)
    (hkind : lexeme.category = .token .identifier) :
    (∃ c cs, lexeme.text = c :: cs ∧ isIdentifierStart c = true ∧
      ∀ d ∈ cs, isIdentifierPart d = true) ∧ ∀ d ∈ rest.head?, isIdentifierPart d = false := by
  cases h with
  | identifier hstart hpart hrest => exact ⟨⟨_, _, rfl, hstart, hpart⟩, hrest⟩
  | @solitary c _ _ =>
    rw [Category.token.injEq] at hkind
    rcases solitaryKind_cases c with ⟨-, hc⟩ | ⟨-, hc⟩ | ⟨-, hc⟩ | ⟨-, hc⟩ | hc <;>
      simp [hc] at hkind
  | _ => simp at hkind

/-- The one character of a brace, a parenthesis or a semicolon. -/
theorem Leads.solitary_text {lexeme : Lexeme} {rest : Text} (h : Leads lexeme rest) {d : Char}
    (hkind : lexeme.category = .token (solitaryKind d)) (hd : solitaryKind d ≠ .other) :
    lexeme.text = [d] := by
  cases h with
  | @solitary c _ _ =>
    rw [Category.token.injEq] at hkind
    have hc := solitaryKind_cases c
    have hd' := solitaryKind_cases d
    grind
  | _ =>
    rcases solitaryKind_cases d with ⟨-, hd'⟩ | ⟨-, hd'⟩ | ⟨-, hd'⟩ | ⟨-, hd'⟩ | hd' <;>
      simp [hd'] at hkind hd

theorem all_of_leads {lexeme : Lexeme} {rest : Text} (h : Leads lexeme rest) :
    all (lexeme.text ++ rest) = lexeme :: all rest :=
  all_of_first (first_of_leads h)

theorem all_joined {lexemes : List Lexeme} (h : Chained lexemes) :
    all (joined lexemes) = lexemes := by
  induction lexemes with
  | nil => exact all_nil
  | cons lexeme lexemes ih =>
    obtain ⟨hleads, hchained⟩ := h
    rw [joined_cons, all_of_leads hleads, ih hchained]

theorem joined_all (text : Text) : joined (all text) = text :=
  flatMap_text_all text

theorem chained_all (text : Text) : Chained (all text) := by
  fun_induction all text with
  | case1 => trivial
  | case2 text lexeme rest hfirst ih =>
    obtain ⟨happend, hleads⟩ := first_eq_some_iff.mp hfirst
    refine ⟨?_, ih⟩
    rwa [joined_all]

/-- The lexemes of a text are the one chain of lexemes that makes it up. -/
theorem all_eq_iff {text : Text} {lexemes : List Lexeme} :
    all text = lexemes ↔ joined lexemes = text ∧ Chained lexemes := by
  constructor
  · rintro rfl
    exact ⟨joined_all text, chained_all text⟩
  · rintro ⟨rfl, hchained⟩
    exact all_joined hchained

end Transcompiler.Lexeme
