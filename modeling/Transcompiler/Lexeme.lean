/-
# Lexemes of a ZeptoN unit

A unit is cut from left to right into lexemes: significant ones, which become
tokens, and gaps, which are white space and comments. At every place the first
rule of `Lexeme.rules` that matches decides, so a comment wins over the
operators it begins with and a text block wins over the empty string its first
two quotes would make. A quote or comment opening that is never closed matches
no literal or comment rule and falls through to a single character.

Each rule carries the proof that it splits its text without loss and takes at
least one character. Cutting therefore ends, and the lexemes joined together are
the unit again.
-/

import Transcompiler.Text.Blank

namespace Transcompiler

/-- The classes of significant lexemes. -/
inductive TokenKind where
  | identifier
  | openBrace
  | closeBrace
  | openParen
  | semicolon
  | textBlock
  | string
  | character
  | other
deriving DecidableEq, Repr

/-- The classes of lexemes that separate significant ones. -/
inductive Gap where
  | lineComment
  | blockComment
  | blank
deriving DecidableEq, Repr

namespace Lexeme

/-- A lexeme is a token or a gap between tokens. -/
inductive Category where
  | token (kind : TokenKind)
  | gap (gap : Gap)
deriving DecidableEq, Repr

end Lexeme

/-- A stretch of a unit together with its class. -/
structure Lexeme where
  /-- What the stretch is. -/
  category : Lexeme.Category
  /-- The characters of the stretch. -/
  text : Text
deriving DecidableEq, Repr

namespace Lexeme

/-! ## Splitting off a front part -/

/-- The characters that may begin an identifier. Only ASCII letters count. -/
def isIdentifierStart (c : Char) : Bool :=
  ('A' ≤ c && c ≤ 'Z') || ('a' ≤ c && c ≤ 'z') || c = '_' || c = '$'

/-- The characters that may continue an identifier. -/
def isIdentifierPart (c : Char) : Bool :=
  isIdentifierStart c || ('0' ≤ c && c ≤ '9')

/-- Splits a text behind the first occurrence of `closing`. -/
def throughFirst (closing : Text) : Text → Option (Text × Text)
  | [] => none
  | c :: cs =>
    if closing.isPrefixOf (c :: cs) then some (closing, (c :: cs).drop closing.length)
    else (throughFirst closing cs).map fun (front, rest) => (c :: front, rest)

/-- Splits a text behind the first `quote` that no backslash escapes. A line feed
in front of it, escaped or not, leaves the text unsplit. -/
def throughQuote (quote : Char) : Text → Option (Text × Text)
  | [] => none
  | '\\' :: [] => none
  | '\\' :: c :: cs =>
    if c = '\n' then none
    else (throughQuote quote cs).map fun (front, rest) => ('\\' :: c :: front, rest)
  | c :: cs =>
    if c = quote then some ([c], cs)
    else if c = '\n' then none
    else (throughQuote quote cs).map fun (front, rest) => (c :: front, rest)

/-- Two slashes and all that follows them on the line. -/
def lineComment : Text → Option (Text × Text)
  | '/' :: '/' :: cs => some ('/' :: '/' :: cs.takeWhile (· ≠ '\n'), cs.dropWhile (· ≠ '\n'))
  | _ => none

/-- An opening delimiter, and all up to the first closing delimiter behind it. -/
def delimited (opening closing : Text) (text : Text) : Option (Text × Text) :=
  if opening <+: text then
    (throughFirst closing (text.drop opening.length)).map fun (front, rest) =>
      (opening ++ front, rest)
  else none

/-- A quote, and all up to the first unescaped quote behind it on the line. -/
def quoted (quote : Char) : Text → Option (Text × Text)
  | [] => none
  | c :: cs =>
    if c = quote then (throughQuote quote cs).map fun (front, rest) => (c :: front, rest)
    else none

/-- The longest stretch that begins with a `start` character and goes on with
`part` characters. -/
def stretch (start part : Char → Bool) : Text → Option (Text × Text)
  | [] => none
  | c :: cs => if start c then some (c :: cs.takeWhile part, cs.dropWhile part) else none

/-! ## Nothing is lost -/

theorem append_of_throughFirst {closing text front rest : Text}
    (h : throughFirst closing text = some (front, rest)) : front ++ rest = text := by
  induction text generalizing front rest with
  | nil => simp [throughFirst] at h
  | cons c cs ih =>
    rw [throughFirst] at h
    split at h
    · next hprefix =>
      simp only [Option.some.injEq, Prod.mk.injEq] at h
      obtain ⟨rfl, rfl⟩ := h
      exact List.prefix_iff_eq_append.mp (List.isPrefixOf_iff_prefix.mp hprefix)
    · obtain ⟨⟨front', rest'⟩, hsplit, heq⟩ := Option.map_eq_some_iff.mp h
      simp only [Prod.mk.injEq] at heq
      obtain ⟨rfl, rfl⟩ := heq
      simp [ih hsplit]

theorem append_of_throughQuote {quote : Char} {text front rest : Text}
    (h : throughQuote quote text = some (front, rest)) : front ++ rest = text := by
  fun_induction throughQuote quote text generalizing front rest with
  | case1 => simp at h
  | case2 => simp at h
  | case3 => simp at h
  | case4 c cs hline ih =>
    obtain ⟨⟨front', rest'⟩, hsplit, heq⟩ := Option.map_eq_some_iff.mp h
    simp only [Prod.mk.injEq] at heq
    obtain ⟨rfl, rfl⟩ := heq
    simp [ih hsplit]
  | case5 =>
    simp only [Option.some.injEq, Prod.mk.injEq] at h
    obtain ⟨rfl, rfl⟩ := h
    rfl
  | case6 => simp at h
  | case7 c cs _ _ _ _ ih =>
    obtain ⟨⟨front', rest'⟩, hsplit, heq⟩ := Option.map_eq_some_iff.mp h
    simp only [Prod.mk.injEq] at heq
    obtain ⟨rfl, rfl⟩ := heq
    simp [ih hsplit]

theorem append_of_lineComment {text front rest : Text}
    (h : lineComment text = some (front, rest)) : front ≠ [] ∧ front ++ rest = text := by
  fun_cases lineComment text with
  | case1 cs =>
    simp only [lineComment, Option.some.injEq, Prod.mk.injEq] at h
    obtain ⟨rfl, rfl⟩ := h
    simp
  | case2 h' => simp [lineComment] at h

theorem append_of_delimited {opening closing text front rest : Text} (hopening : opening ≠ [])
    (h : delimited opening closing text = some (front, rest)) :
    front ≠ [] ∧ front ++ rest = text := by
  rw [delimited] at h
  split at h
  · next hprefix =>
    obtain ⟨⟨front', rest'⟩, hsplit, heq⟩ := Option.map_eq_some_iff.mp h
    simp only [Prod.mk.injEq] at heq
    obtain ⟨rfl, rfl⟩ := heq
    refine ⟨by simp [hopening], ?_⟩
    rw [List.append_assoc, append_of_throughFirst hsplit]
    exact List.prefix_iff_eq_append.mp hprefix
  · simp at h

theorem append_of_quoted {quote : Char} {text front rest : Text}
    (h : quoted quote text = some (front, rest)) : front ≠ [] ∧ front ++ rest = text := by
  cases text with
  | nil => simp [quoted] at h
  | cons c cs =>
    rw [quoted] at h
    split at h
    · obtain ⟨⟨front', rest'⟩, hsplit, heq⟩ := Option.map_eq_some_iff.mp h
      simp only [Prod.mk.injEq] at heq
      obtain ⟨rfl, rfl⟩ := heq
      simp [append_of_throughQuote hsplit]
    · simp at h

theorem append_of_stretch {start part : Char → Bool} {text front rest : Text}
    (h : stretch start part text = some (front, rest)) : front ≠ [] ∧ front ++ rest = text := by
  cases text with
  | nil => simp [stretch] at h
  | cons c cs =>
    rw [stretch] at h
    split at h
    · simp only [Option.some.injEq, Prod.mk.injEq] at h
      obtain ⟨rfl, rfl⟩ := h
      simp
    · simp at h

/-! ## The rules -/

/-- A lexical rule: a class, and a way to split a lexeme of that class off a
text. -/
structure Rule where
  /-- The class of the lexemes that the rule splits off. -/
  category : Category
  /-- The lexeme and the rest, if the text begins with a lexeme of the class. -/
  split : Text → Option (Text × Text)
  /-- A lexeme is not empty, and lexeme and rest together are the text. -/
  append_of_split : ∀ {text front rest : Text}, split text = some (front, rest) →
    front ≠ [] ∧ front ++ rest = text

/-- The rule for a lexeme of exactly one given character. -/
def Rule.single (kind : TokenKind) (c : Char) : Rule where
  category := .token kind
  split := stretch (· = c) (fun _ => false)
  append_of_split := append_of_stretch

/-- The rule for a quoted literal. -/
def Rule.literal (kind : TokenKind) (quote : Char) : Rule where
  category := .token kind
  split := quoted quote
  append_of_split := append_of_quoted

/-- The rule for the longest stretch of characters of a class. -/
def Rule.ofStretch (category : Category) (start part : Char → Bool) : Rule where
  category := category
  split := stretch start part
  append_of_split := append_of_stretch

/-- The rule for all from an opening delimiter through the next closing one. -/
def Rule.between (category : Category) (opening closing : Text) (hopening : opening ≠ []) :
    Rule where
  category := category
  split := delimited opening closing
  append_of_split := append_of_delimited hopening

/-- The lexical rules in the order of their precedence. The last one takes any
character, so some rule matches every text that is not empty. -/
def rules : List Rule :=
  [ { category := .gap .lineComment, split := lineComment,
      append_of_split := append_of_lineComment },
    Rule.between (.gap .blockComment) ['/', '*'] ['*', '/'] (by simp),
    Rule.between (.token .textBlock) ['"', '"', '"'] ['"', '"', '"'] (by simp),
    Rule.literal .string '"',
    Rule.literal .character '\'',
    Rule.ofStretch (.token .identifier) isIdentifierStart isIdentifierPart,
    Rule.single .openBrace '{',
    Rule.single .closeBrace '}',
    Rule.single .openParen '(',
    Rule.single .semicolon ';',
    Rule.ofStretch (.gap .blank) Text.isBlank Text.isBlank,
    Rule.ofStretch (.token .other) (fun _ => true) (fun _ => false) ]

/-- Splits the first lexeme off a text, by the first rule that matches. -/
def first (text : Text) : Option (Lexeme × Text) :=
  rules.findSome? fun rule =>
    (rule.split text).map fun (front, rest) => (⟨rule.category, front⟩, rest)

theorem append_of_first {text rest : Text} {lexeme : Lexeme}
    (h : first text = some (lexeme, rest)) :
    lexeme.text ≠ [] ∧ lexeme.text ++ rest = text := by
  obtain ⟨_, rule, _, _, hrule, _⟩ := List.findSome?_eq_some_iff.mp h
  obtain ⟨⟨front, rest'⟩, hsplit, heq⟩ := Option.map_eq_some_iff.mp hrule
  simp only [Prod.mk.injEq] at heq
  obtain ⟨rfl, rfl⟩ := heq
  exact rule.append_of_split hsplit

theorem length_lt_of_first {text rest : Text} {lexeme : Lexeme}
    (h : first text = some (lexeme, rest)) : rest.length < text.length := by
  obtain ⟨hne, rfl⟩ := append_of_first h
  have := List.length_pos_iff.mpr hne
  simp only [List.length_append]
  omega

/-- The lexemes of a text, from left to right. -/
def all (text : Text) : List Lexeme :=
  match _h : first text with
  | none => []
  | some (lexeme, rest) => lexeme :: all rest
termination_by text.length
decreasing_by exact length_lt_of_first _h

/-- Some rule matches every text that is not empty. -/
theorem first_cons_ne_none (c : Char) (cs : Text) : first (c :: cs) ≠ none := by
  intro hnone
  have hother := List.findSome?_eq_none_iff.mp hnone
    (Rule.ofStretch (.token .other) (fun _ => true) (fun _ => false)) (by simp [rules])
  simp [Rule.ofStretch, stretch] at hother

theorem all_nil : all [] = [] := by
  unfold all
  split
  · rfl
  · next hfirst => exact absurd (length_lt_of_first hfirst) (Nat.not_lt_zero _)

theorem all_of_first {text rest : Text} {lexeme : Lexeme} (h : first text = some (lexeme, rest)) :
    all text = lexeme :: all rest := by
  rw [all]
  split
  · next hnone => simp [h] at hnone
  · next hsome =>
    rw [h] at hsome
    cases hsome
    rfl

/-- The lexemes of a text, joined together, are the text. -/
theorem flatMap_text_all (text : Text) : (all text).flatMap (·.text) = text := by
  fun_induction all text with
  | case1 text hnone =>
    cases text with
    | nil => rfl
    | cons c cs => exact absurd hnone (first_cons_ne_none c cs)
  | case2 text lexeme rest hfirst ih =>
    rw [List.flatMap_cons, ih]
    exact (append_of_first hfirst).2

end Lexeme

end Transcompiler
