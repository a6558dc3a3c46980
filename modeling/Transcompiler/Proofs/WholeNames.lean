/-
# Keywords as whole names

A keyword counts only where it is a token of its own, and a token of letters goes as far
as its letters go. So a keyword inside a longer Java identifier should never count.
`Text.IsName` says where a Java identifier stands in a text, and `Text.StandsApart` how
far a stretch is from being cut out of one.

The lexer follows the letters of ASCII only. A letter or a digit beyond ASCII is a token
by itself, so it ends a name in front of it and lets one begin behind it: of `éprog` the
last four letters are the keyword. This is the only way in which a name is cut. What is
carried from lexeme to lexeme is `Lexeme.Parted`: where an identifier can begin, none
could have begun shortly before.
-/

import Mathlib.Data.List.DropRight
import Transcompiler.Proofs.Letters
import Transcompiler.Proofs.Literals
import Transcompiler.Proofs.Substitution

namespace Transcompiler

namespace Text

/-! ## Names in a text -/

/-- A Java identifier stands between two offsets: it begins with a character that begins
names, and it goes as far to both sides as there are characters of names. -/
structure IsName (text : Text) (start stop : Nat) : Prop where
  start_lt_stop : start < stop
  stop_le : stop ≤ text.length
  first : ∀ c ∈ text[start]?, isNameStart c = true
  parts : ∀ c ∈ slice text start stop, isNamePart c = true
  /-- It has not begun earlier. -/
  front : ∀ c ∈ (text.take start).getLast?, isNamePart c = false
  /-- It does not go on. -/
  behind : ∀ c ∈ (text.drop stop).head?, isNamePart c = false

instance (text : Text) (start stop : Nat) : Decidable (IsName text start stop) :=
  -- Tested along the text: the quantifiers over characters would go through all of them.
  decidable_of_iff
    (start < stop ∧ stop ≤ text.length ∧ text[start]?.all isNameStart = true ∧
      (slice text start stop).all isNamePart = true ∧
      (text.take start).getLast?.all (!isNamePart ·) = true ∧
      (text.drop stop).head?.all (!isNamePart ·) = true) <| by
    simp only [Option.all_eq_true, List.all_eq_true, Bool.not_eq_true']
    exact ⟨fun ⟨hlt, hle, hfirst, hparts, hfront, hbehind⟩ =>
        ⟨hlt, hle, hfirst, hparts, hfront, hbehind⟩,
      fun h => ⟨h.start_lt_stop, h.stop_le, h.first, h.parts, h.front, h.behind⟩⟩

/-- A stretch of a text touches characters of names only beyond ASCII, or where digits
stand in front of it. So it is all of the name in which it lies, up to what is cut off
at such a character. -/
structure StandsApart (text : Text) (start stop : Nat) : Prop where
  front : ∀ c ∈ (text.take start).getLast?, isNamePart c = true →
    isAscii c = false ∨ isDecimal c = true
  behind : ∀ c ∈ (text.drop stop).head?, isNamePart c = true → isAscii c = false
  name : ∀ first last, IsName text first last → first < stop → start < last →
    (start = first ∨ ∃ c ∈ slice text first start, isAscii c = false) ∧
      (stop = last ∨ ∃ c ∈ (text.drop stop).head?, isAscii c = false)

theorem mem_slice_iff {text : Text} {start stop : Nat} {c : Char} :
    c ∈ slice text start stop ↔
      ∃ offset, start ≤ offset ∧ offset < stop ∧ text[offset]? = some c := by
  rw [slice, List.mem_iff_getElem?]
  constructor
  · rintro ⟨index, hindex⟩
    rw [List.getElem?_drop, List.getElem?_take] at hindex
    split at hindex
    · next hlt => exact ⟨start + index, Nat.le_add_right _ _, hlt, hindex⟩
    · contradiction
  · rintro ⟨offset, hstart, hstop, hoffset⟩
    refine ⟨offset - start, ?_⟩
    rw [List.getElem?_drop, Nat.add_sub_cancel' hstart, List.getElem?_take, if_pos hstop, hoffset]

/-- The character in front of an offset. -/
theorem getLast?_take_succ {text : Text} {offset : Nat} (h : offset < text.length) :
    (text.take (offset + 1)).getLast? = text[offset]? := by
  rw [List.getLast?_take, if_neg (Nat.succ_ne_zero _), Nat.add_sub_cancel,
    List.getElem?_eq_getElem h, Option.some_or]

end Text

namespace Lexeme

/-! ## Where an identifier can begin -/

/-- The identifier characters that a text ends with are digits, so no identifier has
begun among them. -/
def EndsInDigits (front : Text) : Prop :=
  ∀ c ∈ front.rtakeWhile isIdentifierPart, isIdentifierStart c = false

/-- A text in front of a rest that goes on with an identifier character holds no
beginning of that identifier. -/
def Parted (front rest : Text) : Prop :=
  ∀ c ∈ rest.head?, isIdentifierPart c = true → EndsInDigits front

theorem endsInDigits_nil : EndsInDigits [] := by
  intro c hc
  contradiction

theorem endsInDigits_concat_of_not_part (front : Text) {c : Char}
    (hc : isIdentifierPart c = false) : EndsInDigits (front ++ [c]) := by
  intro d hd
  rw [List.rtakeWhile_concat_neg _ _ _ (by simp [hc])] at hd
  contradiction

/-- A digit at the end leaves a text that ends in digits as it is. -/
theorem EndsInDigits.concat {front : Text} (h : EndsInDigits front) {c : Char}
    (hc : isIdentifierStart c = false) : EndsInDigits (front ++ [c]) := by
  by_cases hpart : isIdentifierPart c = true
  · intro d hd
    rw [List.rtakeWhile_concat_pos _ _ _ hpart, List.mem_append, List.mem_singleton] at hd
    rcases hd with hd | rfl
    · exact h d hd
    · exact hc
  · exact endsInDigits_concat_of_not_part front (by simpa using hpart)

/-- Nothing that ends in a character of another class touches an identifier. -/
theorem parted_of_last {front text init : Text} {c : Char} (htext : text = init ++ [c])
    (hc : isIdentifierPart c = false) (rest : Text) : Parted (front ++ text) rest := by
  intro _ _ _
  rw [htext, ← List.append_assoc]
  exact endsInDigits_concat_of_not_part _ hc

theorem parted_of_head? {front rest : Text} (h : ∀ c ∈ rest.head?, isIdentifierPart c = false) :
    Parted front rest := by
  intro c hc hpart
  rw [h c hc] at hpart
  contradiction

/-- A stretch of identifier characters that reaches the end of a text begins with a
digit if the text ends in digits. -/
theorem not_endsInDigits_of_start {text : Text} {start stop : Nat} (hlt : start < stop)
    (hpart : ∀ c ∈ Text.slice text start stop, isIdentifierPart c = true) {c : Char}
    (hfirst : text[start]? = some c) (hstart : isIdentifierStart c = true) :
    ¬EndsInDigits (text.take stop) := by
  intro hdigits
  have hmem : c ∈ (text.take stop).rtakeWhile isIdentifierPart := by
    rw [← Text.take_append_slice text (Nat.le_of_lt hlt), List.rtakeWhile, List.reverse_append,
      List.takeWhile_append_of_pos (by simpa using hpart), List.mem_reverse, List.mem_append,
      List.mem_reverse]
    exact .inl (Text.mem_slice_iff.mpr ⟨start, Nat.le_refl _, hlt, hfirst⟩)
  rw [hdigits c hmem] at hstart
  contradiction

theorem EndsInDigits.getLast? {front : Text} (h : EndsInDigits front) {c : Char}
    (hlast : c ∈ front.getLast?) (hpart : isIdentifierPart c = true) :
    isIdentifierStart c = false := by
  obtain ⟨init, rfl⟩ := List.getLast?_eq_some_iff.mp hlast
  apply h
  rw [List.rtakeWhile_concat_pos _ _ _ hpart]
  exact List.mem_concat_self

/-- The step over one lexeme. Only a digit that is a token by itself can touch an
identifier behind it. -/
theorem Leads.parted {lexeme : Lexeme} {front rest : Text} (h : Leads lexeme rest)
    (hfront : Parted front (lexeme.text ++ rest)) : Parted (front ++ lexeme.text) rest := by
  cases h with
  | identifier _ _ hrest => exact parted_of_head? hrest
  | @blank c cs _ hstart hpart _ =>
    have hall : ∀ d ∈ c :: cs, Text.isBlank d = true := List.forall_mem_cons.mpr ⟨hstart, hpart⟩
    have hne : c :: cs ≠ [] := List.cons_ne_nil c cs
    refine parted_of_last (List.dropLast_append_getLast hne).symm ?_ rest
    exact isIdentifierPart_eq_false_of_isBlank (hall _ (List.getLast_mem hne))
  | @solitary c _ hsolitary =>
    have hstart : isIdentifierStart c = false := by
      simp only [isSolitary, Bool.not_eq_true', Bool.or_eq_false_iff] at hsolitary
      exact hsolitary.1.1.1.1
    by_cases hpart : isIdentifierPart c = true
    · intro _ _ _
      exact (hfront c rfl hpart).concat hstart
    · exact parted_of_last (List.nil_append [c]).symm (by simpa using hpart) rest
  | lineComment _ hrest =>
    apply parted_of_head?
    intro c hc
    rw [hrest c hc]
    decide
  | blockComment hclosed =>
    obtain ⟨inner, rfl, -⟩ := (throughFirst_eq_self_iff (by decide)).mp hclosed
    have htext : '/' :: '*' :: (inner ++ commentEnd) = ('/' :: '*' :: inner ++ ['*']) ++ ['/'] := by
      simp [commentEnd]
    exact parted_of_last htext (by decide) rest
  | textBlock hclosed =>
    obtain ⟨inner, rfl, -⟩ := (throughFirst_eq_self_iff (by decide)).mp hclosed
    have htext : '"' :: '"' :: '"' :: (inner ++ tripleQuote) =
        ('"' :: '"' :: '"' :: inner ++ ['"', '"']) ++ ['"'] := by
      simp [tripleQuote]
    exact parted_of_last htext (by decide) rest
  | string hclosed _ =>
    obtain ⟨hends, -⟩ := (throughQuote_eq_self_iff (by decide) (by decide)).mp hclosed
    obtain ⟨inner, rfl⟩ := hends.exists_interior
    exact parted_of_last (List.cons_append).symm (by decide) rest
  | character hclosed =>
    obtain ⟨hends, -⟩ := (throughQuote_eq_self_iff (by decide) (by decide)).mp hclosed
    obtain ⟨inner, rfl⟩ := hends.exists_interior
    exact parted_of_last (List.cons_append).symm (by decide) rest
  | slash => exact parted_of_last (List.nil_append _).symm (by decide) rest
  | doubleQuote => exact parted_of_last (List.nil_append _).symm (by decide) rest
  | singleQuote => exact parted_of_last (List.nil_append _).symm (by decide) rest

/-- The run over all lexemes in front of a place. -/
theorem Chained.parted {before behind : List Lexeme} {front : Text}
    (h : Chained (before ++ behind)) (hfront : Parted front (joined (before ++ behind))) :
    Parted (front ++ joined before) (joined behind) := by
  induction before generalizing front with
  | nil =>
    rw [joined_nil, List.append_nil]
    exact hfront
  | cons lexeme before ih =>
    obtain ⟨hleads, hchained⟩ := h
    have hstep : Parted (front ++ lexeme.text) (joined (before ++ behind)) := hleads.parted hfront
    have hrun := ih hchained hstep
    rwa [List.append_assoc, ← joined_cons] at hrun

end Lexeme

namespace Text

/-! ## Identifiers and names -/

/-- The identifier characters between two offsets are a stretch of their own: none has
begun shortly before, and they do not go on. -/
structure IsIdentifierAt (text : Text) (start stop : Nat) : Prop where
  stop_le : stop ≤ text.length
  parts : ∀ c ∈ slice text start stop, Lexeme.isIdentifierPart c = true
  front : Lexeme.EndsInDigits (text.take start)
  behind : ∀ c ∈ (text.drop stop).head?, Lexeme.isIdentifierPart c = false

namespace IsIdentifierAt

variable {text : Text} {start stop : Nat} (h : IsIdentifierAt text start stop)

include h

theorem isNamePart {offset : Nat} (hfirst : start ≤ offset) (hlast : offset < stop) :
    ∀ c ∈ text[offset]?, isNamePart c = true := by
  intro c hc
  have hmem : c ∈ slice text start stop := mem_slice_iff.mpr ⟨offset, hfirst, hlast, hc⟩
  exact (Lexeme.isIdentifierPart_iff_isNamePart.mp (h.parts c hmem)).1

variable {first last : Nat} (hname : IsName text first last)

include hname

/-- The name in which an identifier lies begins with the identifier, or in front of it
with a character beyond ASCII. -/
theorem start_eq (hstop : first < stop) (hstart : start < last) :
    start = first ∨ ∃ c ∈ slice text first start, isAscii c = false := by
  rcases Nat.lt_trichotomy start first with hless | heq | hgreater
  · -- The character in front of the name would be one of the identifier.
    obtain ⟨offset, rfl⟩ := Nat.exists_eq_add_one_of_ne_zero (Nat.ne_zero_of_lt hless)
    have hlength : offset < text.length := by
      have := hname.start_lt_stop
      have := hname.stop_le
      omega
    have hoffset : text[offset]? = some text[offset] := List.getElem?_eq_getElem hlength
    have hpart := h.isNamePart (Nat.le_of_lt_succ hless) (Nat.lt_of_succ_lt hstop) _ hoffset
    rw [hname.front _ ((getLast?_take_succ hlength).trans hoffset)] at hpart
    contradiction
  · exact .inl heq
  · right
    by_contra hnone
    have hascii : ∀ c ∈ slice text first start, isAscii c = true := by
      intro c hc
      by_contra hc'
      exact hnone ⟨c, hc, by simpa using hc'⟩
    have hidentifier : ∀ c ∈ slice text first start, Lexeme.isIdentifierPart c = true := by
      intro c hc
      obtain ⟨offset, hlow, hhigh, hoffset⟩ := mem_slice_iff.mp hc
      have hmem : c ∈ slice text first last :=
        mem_slice_iff.mpr ⟨offset, hlow, Nat.lt_trans hhigh hstart, hoffset⟩
      exact Lexeme.isIdentifierPart_iff_isNamePart.mpr ⟨hname.parts c hmem, hascii c hc⟩
    have hlength : first < text.length := Nat.lt_of_lt_of_le hname.start_lt_stop hname.stop_le
    have hfirst : text[first]? = some text[first] := List.getElem?_eq_getElem hlength
    have hmem : text[first] ∈ slice text first start :=
      mem_slice_iff.mpr ⟨first, Nat.le_refl _, hgreater, hfirst⟩
    have hbegins : Lexeme.isIdentifierStart text[first] = true :=
      Lexeme.isIdentifierStart_iff_isNameStart.mpr ⟨hname.first _ hfirst, hascii _ hmem⟩
    exact Lexeme.not_endsInDigits_of_start hgreater hidentifier hfirst hbegins h.front

/-- The name in which an identifier lies ends with the identifier, or goes on with a
character beyond ASCII. -/
theorem stop_eq (hstop : first < stop) (hstart : start < last) :
    stop = last ∨ ∃ c ∈ (text.drop stop).head?, isAscii c = false := by
  rcases Nat.lt_trichotomy stop last with hless | heq | hgreater
  · right
    have hlength : stop < text.length := Nat.lt_of_lt_of_le hless hname.stop_le
    have hoffset : text[stop]? = some text[stop] := List.getElem?_eq_getElem hlength
    have hhead : text[stop] ∈ (text.drop stop).head? := List.head?_drop.trans hoffset
    have hmem : text[stop] ∈ slice text first last :=
      mem_slice_iff.mpr ⟨stop, Nat.le_of_lt hstop, hless, hoffset⟩
    refine ⟨text[stop], hhead, ?_⟩
    by_contra hascii
    have hpart : Lexeme.isIdentifierPart text[stop] = true :=
      Lexeme.isIdentifierPart_iff_isNamePart.mpr ⟨hname.parts _ hmem, by simpa using hascii⟩
    rw [h.behind _ hhead] at hpart
    contradiction
  · exact .inl heq
  · -- The character behind the name would be one of the identifier.
    have hlength : last < text.length := Nat.lt_of_lt_of_le hgreater h.stop_le
    have hoffset : text[last]? = some text[last] := List.getElem?_eq_getElem hlength
    have hpart := h.isNamePart (Nat.le_of_lt hstart) hgreater _ hoffset
    rw [hname.behind _ (List.head?_drop.trans hoffset)] at hpart
    contradiction

omit hname in
theorem standsApart : StandsApart text start stop where
  front := by
    intro c hc hpart
    by_cases hascii : isAscii c = true
    · right
      have hidentifier := Lexeme.isIdentifierPart_iff_isNamePart.mpr ⟨hpart, hascii⟩
      have hstart := h.front.getLast? hc hidentifier
      rcases Lexeme.isIdentifierPart_iff.mp hidentifier with hletter | hdigit
      · rw [hstart] at hletter
        contradiction
      · exact (isDecimal_iff_of_isAscii hascii).mpr hdigit
    · exact .inl (by simpa using hascii)
  behind := by
    intro c hc hpart
    by_contra hascii
    have hidentifier : Lexeme.isIdentifierPart c = true :=
      Lexeme.isIdentifierPart_iff_isNamePart.mpr ⟨hpart, by simpa using hascii⟩
    rw [h.behind c hc] at hidentifier
    contradiction
  name first last hname hstop hstart :=
    ⟨h.start_eq hname hstop hstart, h.stop_eq hname hstop hstart⟩

end IsIdentifierAt

end Text

namespace Token

/-- An identifier among the tokens of a text is all of a stretch of identifier
characters. -/
theorem isIdentifierAt_of_mem {text : Text} {token : Token} (hmem : token ∈ ofText text)
    (hkind : token.kind = .identifier) :
    text.IsIdentifierAt token.start.offset token.stop.offset := by
  obtain ⟨front, rest, hsplit⟩ := List.append_of_mem hmem
  obtain ⟨before, behind, hall, hstart, hstop, -, -⟩ := exists_lexemes_of_placed hsplit
  obtain ⟨hjoined, hchained⟩ := Lexeme.all_eq_iff.mp hall
  obtain ⟨⟨c, cs, htext, hc, -⟩, hbehind⟩ :=
    (Lexeme.Chained.right hchained).1.of_identifier (congrArg Lexeme.Category.token hkind)
  have hcut : text = Lexeme.joined before ++ (token.text ++ Lexeme.joined behind) := by
    rw [← hjoined, Lexeme.joined_append]
    rfl
  have hfirst : token.start.offset = (Lexeme.joined before).length := by
    rw [hstart, Position.offset_after, Position.start, Nat.zero_add]
  have hlast : token.stop.offset = (Lexeme.joined before ++ token.text).length := by
    rw [hstop, Position.offset_after, hfirst, List.length_append]
  refine ⟨(inText_of_mem hmem).stop_le, ?_, ?_, ?_⟩
  · rw [(inText_of_mem hmem).slice_eq]
    exact isIdentifierPart_of_identifier hmem hkind
  · have hparted : Lexeme.Parted ([] ++ Lexeme.joined before)
        (Lexeme.joined (token.lexeme :: behind)) :=
      hchained.parted fun _ _ _ => Lexeme.endsInDigits_nil
    rw [hfirst, hcut, List.take_left]
    apply hparted c
    · rw [Lexeme.joined_cons, htext]
      rfl
    · exact Lexeme.isIdentifierPart_of_isIdentifierStart hc
  · rw [hlast, hcut, ← List.append_assoc, List.drop_left]
    exact hbehind

end Token

namespace Outline

/-! ## The keywords of an outline -/

/-- The keywords that an outline was found by or renames, each at its offset. -/
def keywords (outline : Outline) : List (Nat × String) :=
  (outline.prog, "prog") :: (outline.begin, "begin") ::
    (outline.package.toList.map fun clause => (clause.start, "package")) ++
      outline.entryPoints.map fun offset => (offset, "main")

/-- Each keyword of an outline is a token. -/
theorem exists_token_of_mem_keywords {text : Text} {outline : Outline}
    (h : ofText text = .ok outline) {offset : Nat} {word : String}
    (hmem : (offset, word) ∈ outline.keywords) :
    ∃ token ∈ Token.ofText text, token.isWord word = true ∧ token.start.offset = offset := by
  obtain ⟨layout, rfl⟩ := exists_layout_of_ofText h
  simp only [keywords, List.cons_append, List.mem_cons, List.mem_append, List.mem_map,
    Option.mem_toList, Prod.mk.injEq] at hmem
  rcases hmem with ⟨rfl, rfl⟩ | ⟨rfl, rfl⟩ | ⟨clause, hclause, rfl, rfl⟩ | ⟨_, hmain, rfl, rfl⟩
  · exact ⟨layout.prog, layout.prog_mem, layout.prog_isWord, rfl⟩
  · exact ⟨layout.begin, layout.begin_mem, layout.begin_isWord, rfl⟩
  · have hpackage : layout.package = some clause := hclause
    have hshape := layout.package_shape
    rw [hpackage] at hshape
    generalize hfront : layout.front = front at hshape
    cases hshape with
    | @present before words behind keyword semicolon hbefore hkeyword =>
      refine ⟨keyword, ?_, hkeyword, rfl⟩
      simp [layout.tokens_eq, hfront]
  · obtain ⟨token, htoken, rfl⟩ := List.mem_map.mp hmain
    exact ⟨token, (renamedMains_sublist _).subset htoken, isWord_of_mem_renamedMains htoken, rfl⟩

end Outline

namespace Token

/-- An identifier of a text touches no character of a Java
name, unless that is one beyond ASCII or a digit in front of it. So it is all of the name
in which it lies, up to what is cut off at a character beyond ASCII, and the keywords of
an outline are such identifiers. -/
theorem identifier_standsApart (text : Text) :
    (∀ token ∈ ofText text, token.kind = .identifier →
      text.StandsApart token.start.offset token.stop.offset) ∧
    ∀ outline, Outline.ofText text = .ok outline → ∀ offset word,
      (offset, word) ∈ outline.keywords →
        text.slice offset (offset + word.length) = word.toList ∧
          text.StandsApart offset (offset + word.length) := by
  refine ⟨fun token hmem hkind => (isIdentifierAt_of_mem hmem hkind).standsApart, ?_⟩
  intro outline houtline offset word hkeyword
  obtain ⟨token, hmem, hword, rfl⟩ := Outline.exists_token_of_mem_keywords houtline hkeyword
  have hplace := inText_of_mem hmem
  rw [← hplace.stop_eq_of_isWord hword, hplace.slice_eq]
  exact ⟨(isWord_iff.mp hword).2,
    (isIdentifierAt_of_mem hmem (isWord_iff.mp hword).1).standsApart⟩

/-- Of two names the first is one identifier. The second begins beyond ASCII, so the
keyword is cut out of it. -/
theorem identifier_standsApart_of_accent :
    ∃ text : Text, text = ['x', '1', 'p', 'r', 'o', 'g', ' ', 'é', 'p', 'r', 'o', 'g'] ∧
      text.IsName 0 6 ∧ text.StandsApart 0 6 ∧ text.IsName 7 12 ∧ text.StandsApart 8 12 ∧
      (∃ token ∈ ofText text, token.isWord "prog" = true ∧ token.start.offset = 8) ∧
      Text.StandsApart "prog A\x7bbegin\x7d".toList 7 12 := by
  have hfirst : ⟨.identifier, ['x', '1', 'p', 'r', 'o', 'g'], ⟨0, 1, 1⟩, ⟨6, 1, 7⟩⟩ ∈
      ofText ['x', '1', 'p', 'r', 'o', 'g', ' ', 'é', 'p', 'r', 'o', 'g'] := by decide +kernel
  have hsecond : ⟨.identifier, ['p', 'r', 'o', 'g'], ⟨8, 1, 9⟩, ⟨12, 1, 13⟩⟩ ∈
      ofText ['x', '1', 'p', 'r', 'o', 'g', ' ', 'é', 'p', 'r', 'o', 'g'] := by decide +kernel
  have houtline : Outline.ofText "prog A\x7bbegin\x7d".toList =
      .ok ⟨0, 6, 7, 12, ['A'], none, [6], []⟩ := by decide +kernel
  have happart := (identifier_standsApart
    ['x', '1', 'p', 'r', 'o', 'g', ' ', 'é', 'p', 'r', 'o', 'g']).1
  exact ⟨_, rfl, by decide +kernel, happart _ hfirst rfl, by decide +kernel,
    happart _ hsecond rfl, ⟨_, hsecond, by decide, rfl⟩,
    ((identifier_standsApart _).2 _ houtline 7 "begin" (by simp [Outline.keywords])).2⟩

end Token

end Transcompiler
