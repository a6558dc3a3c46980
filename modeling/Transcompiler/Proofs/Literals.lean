/-
# Where literals end

The interior of a Java literal is read from left to right: a backslash together
with the character behind it, and every other character by itself. The literal
ends with the first closing delimiter that is met in this way, so that an escaped
delimiter belongs to the interior. `Text.EndsAtUnescaped` states this rule for any
delimiter.

Strings and character literals follow the rule. A text block does not: it ends with
its first three quotes in a row, also where the first of them is escaped. So a text
block is cut short exactly if three quotes occur in it after a backslash, and what
stands behind them is lexed as if it were no part of a literal.
-/

import Transcompiler.Proofs.Span

namespace Transcompiler

namespace Text

/-! ## The first unescaped delimiter -/

/-- A text ends with the first delimiter in it that is not escaped. -/
inductive EndsAtUnescaped (delimiter : Text) : Text → Prop where
  | here : EndsAtUnescaped delimiter delimiter
  /-- A plain character, at which no delimiter begins. -/
  | plain {c : Char} {rest : Text} (hplain : c ≠ '\\') (hopen : ¬delimiter <+: c :: rest)
      (h : EndsAtUnescaped delimiter rest) : EndsAtUnescaped delimiter (c :: rest)
  /-- A backslash and the character that it escapes. -/
  | escape {c : Char} {rest : Text} (h : EndsAtUnescaped delimiter rest) :
      EndsAtUnescaped delimiter ('\\' :: c :: rest)

/-- Whether a text ends with a backslash that escapes what follows the text. -/
def leavesEscape : Text → Bool
  | [] => false
  | ['\\'] => true
  | '\\' :: _ :: rest => leavesEscape rest
  | _ :: rest => leavesEscape rest

theorem EndsAtUnescaped.length_le {delimiter text : Text} (h : EndsAtUnescaped delimiter text) :
    delimiter.length ≤ text.length := by
  induction h with
  | here => exact Nat.le_refl _
  | plain _ _ _ ih => exact Nat.le_succ_of_le ih
  | escape _ ih => exact Nat.le_succ_of_le (Nat.le_succ_of_le ih)

theorem EndsAtUnescaped.exists_interior {delimiter text : Text}
    (h : EndsAtUnescaped delimiter text) : ∃ interior, text = interior ++ delimiter := by
  induction h with
  | here => exact ⟨[], rfl⟩
  | @plain c rest _ _ _ ih =>
    obtain ⟨interior, rfl⟩ := ih
    exact ⟨c :: interior, rfl⟩
  | @escape c rest _ ih =>
    obtain ⟨interior, rfl⟩ := ih
    exact ⟨'\\' :: c :: interior, rfl⟩

/-- An escape pair is no part of the delimiter behind it. -/
theorem endsAtUnescaped_escape_iff {delimiter rest : Text} {c : Char} (h : '\\' ∉ delimiter) :
    EndsAtUnescaped delimiter ('\\' :: c :: rest) ↔ EndsAtUnescaped delimiter rest := by
  refine ⟨?_, .escape⟩
  intro hends
  cases hends with
  | here => exact absurd List.mem_cons_self h
  | plain hplain => exact absurd rfl hplain
  | escape hrest => exact hrest

/-- A plain character at which no delimiter begins may be left out. -/
theorem endsAtUnescaped_plain_iff {delimiter rest : Text} {c : Char} (hplain : c ≠ '\\')
    (hopen : ¬delimiter <+: c :: rest) :
    EndsAtUnescaped delimiter (c :: rest) ↔ EndsAtUnescaped delimiter rest := by
  refine ⟨?_, .plain hplain hopen⟩
  intro hends
  cases hends with
  | here => exact absurd (List.prefix_refl _) hopen
  | plain _ _ hrest => exact hrest
  | escape => exact absurd rfl hplain

/-- A delimiter that occurs only at the end of a text is the first unescaped one
unless it is escaped. -/
theorem endsAtUnescaped_append_iff {delimiter interior : Text} (hne : delimiter ≠ [])
    (hbackslash : '\\' ∉ delimiter) (hfirst : ¬delimiter <:+: interior ++ delimiter.dropLast) :
    EndsAtUnescaped delimiter (interior ++ delimiter) ↔ leavesEscape interior = false := by
  have hpositive := List.length_pos_iff.mpr hne
  fun_induction leavesEscape interior with
  | case1 => exact iff_of_true .here rfl
  | case2 =>
    -- The backslash takes the first character of the delimiter away.
    refine iff_of_false ?_ (by decide)
    intro hends
    obtain ⟨d, ds, rfl⟩ := List.exists_cons_of_ne_nil hne
    have hlength := ((endsAtUnescaped_escape_iff hbackslash).mp hends).length_le
    rw [List.length_cons] at hlength
    omega
  | case3 c rest ih =>
    exact (endsAtUnescaped_escape_iff hbackslash).trans
      (ih fun hholds => hfirst (List.infix_cons (List.infix_cons hholds)))
  | case4 c rest hlast hpair ih =>
    have hplain : c ≠ '\\' := by cases rest <;> simp_all
    have hopen : ¬delimiter <+: c :: (rest ++ delimiter) := by
      intro hbegins
      have hshorter : c :: rest ++ delimiter.dropLast <+: c :: rest ++ delimiter :=
        (List.prefix_append_right_inj _).mpr (List.dropLast_prefix delimiter)
      have hlength : delimiter.length ≤ (c :: rest ++ delimiter.dropLast).length := by
        simp only [List.length_append, List.length_cons, List.length_dropLast]
        omega
      exact hfirst (List.prefix_of_prefix_length_le hbegins hshorter hlength).isInfix
    exact (endsAtUnescaped_plain_iff hplain hopen).trans
      (ih fun hholds => hfirst (List.infix_cons hholds))

end Text

namespace Lexeme

open Text (EndsAtUnescaped)

/-- A quoted literal ends with the first unescaped quote, and on its line. -/
theorem throughQuote_eq_self_iff {quote : Char} {text : Text} (hescape : quote ≠ '\\')
    (hfeed : quote ≠ '\n') :
    throughQuote quote text = some (text, []) ↔ EndsAtUnescaped [quote] text ∧ '\n' ∉ text := by
  constructor
  · intro h
    fun_induction throughQuote quote text with
    | case1 => simp at h
    | case2 => simp at h
    | case3 => simp at h
    | case4 c rest hline ih =>
      obtain ⟨⟨front, behind⟩, hsplit, heq⟩ := Option.map_eq_some_iff.mp h
      simp only [Prod.mk.injEq, List.cons.injEq, true_and] at heq
      obtain ⟨rfl, rfl⟩ := heq
      obtain ⟨hends, hmem⟩ := ih hsplit
      refine ⟨.escape hends, ?_⟩
      simp [Ne.symm hline, hmem]
    | case5 rest =>
      simp only [Option.some.injEq, Prod.mk.injEq] at h
      rw [h.2]
      exact ⟨.here, by simp [hfeed.symm]⟩
    | case6 => simp at h
    | case7 c rest hend hpair hquote hline ih =>
      obtain ⟨⟨front, behind⟩, hsplit, heq⟩ := Option.map_eq_some_iff.mp h
      simp only [Prod.mk.injEq, List.cons.injEq, true_and] at heq
      obtain ⟨rfl, rfl⟩ := heq
      obtain ⟨hends, hmem⟩ := ih hsplit
      have hplain : c ≠ '\\' := by cases front <;> simp_all
      refine ⟨.plain hplain ?_ hends, ?_⟩
      · rw [List.cons_prefix_cons]
        exact fun hbegins => hquote hbegins.1.symm
      · simp [Ne.symm hline, hmem]
  · rintro ⟨hends, hmem⟩
    induction hends with
    | here => rw [throughQuote_cons_of_ne _ hescape, if_pos rfl]
    | @plain c rest hplain hopen _ ih =>
      rw [List.mem_cons, not_or] at hmem
      have hquote : c ≠ quote := by
        rintro rfl
        exact hopen (List.cons_prefix_cons.mpr ⟨rfl, List.nil_prefix⟩)
      rw [throughQuote_cons_of_ne _ hplain, if_neg hquote, if_neg (Ne.symm hmem.1), ih hmem.2]
      rfl
    | @escape c rest _ ih =>
      simp only [List.mem_cons, not_or] at hmem
      simp [throughQuote, Ne.symm hmem.2.1, ih hmem.2.2]

end Lexeme

/-- The delimiter on both sides of the literals of a class. -/
def TokenKind.delimiter? : TokenKind → Option Text
  | .textBlock => some Lexeme.tripleQuote
  | .string => some ['"']
  | .character => some ['\'']
  | _ => none

/-- A literal of the Java language. -/
structure Literal where
  /-- Whether it is a text block, a string or a character literal. -/
  kind : TokenKind
  /-- What stands in front of it and behind it. -/
  delimiter : Text
  /-- What stands between its delimiters. -/
  interior : Text
  delimiter_eq : kind.delimiter? = some delimiter
  /-- The literal goes up to the first delimiter that is not escaped. -/
  ends : Text.EndsAtUnescaped delimiter (interior ++ delimiter)
  /-- Only a text block goes on over the end of a line. -/
  not_mem_interior : kind ≠ .textBlock → '\n' ∉ interior

/-- The characters of a literal, with its delimiters. -/
def Literal.text (literal : Literal) : Text :=
  literal.delimiter ++ (literal.interior ++ literal.delimiter)

namespace Lexeme

/-! ## Literals and the lexical rules -/

theorem eq_tripleQuote_of_delimiter? {kind : TokenKind} {delimiter : Text}
    (h : kind.delimiter? = some delimiter) (hkind : kind = .textBlock) :
    delimiter = tripleQuote := by
  rw [hkind] at h
  exact (Option.some.inj h).symm

/-- The delimiter of a string or a character literal is one quote. -/
theorem exists_quote_of_delimiter? {kind : TokenKind} {delimiter : Text}
    (h : kind.delimiter? = some delimiter) (hkind : kind ≠ .textBlock) :
    ∃ quote, delimiter = [quote] ∧ quote ≠ '\\' ∧ quote ≠ '\n' := by
  cases kind with
  | string => exact ⟨'"', (Option.some.inj h).symm, by decide, by decide⟩
  | character => exact ⟨'\'', (Option.some.inj h).symm, by decide, by decide⟩
  | textBlock => exact absurd rfl hkind
  | _ => simp [TokenKind.delimiter?] at h

/-- Where the rules end a literal: a text block at the first delimiter, any other
literal at the first unescaped quote of its line. -/
theorem Leads.of_literal {lexeme : Lexeme} {rest : Text} (h : Leads lexeme rest)
    {kind : TokenKind} {delimiter : Text} (hcategory : lexeme.category = .token kind)
    (hdelimiter : kind.delimiter? = some delimiter) :
    ∃ inner, lexeme.text = delimiter ++ inner ∧
      (kind = .textBlock → throughFirst delimiter inner = some (inner, [])) ∧
      (kind ≠ .textBlock → ∀ quote, delimiter = [quote] →
        throughQuote quote inner = some (inner, [])) := by
  cases h with
  | @textBlock cs _ hclosed =>
    cases hcategory
    cases hdelimiter
    exact ⟨cs, rfl, fun _ => hclosed, fun hkind => absurd rfl hkind⟩
  | @string cs _ hclosed =>
    cases hcategory
    cases hdelimiter
    refine ⟨cs, rfl, by simp, ?_⟩
    rintro - quote ⟨⟩
    exact hclosed
  | @character cs _ hclosed =>
    cases hcategory
    cases hdelimiter
    refine ⟨cs, rfl, by simp, ?_⟩
    rintro - quote ⟨⟩
    exact hclosed
  | @solitary c _ _ =>
    cases hcategory
    rcases solitaryKind_cases c with ⟨-, hc⟩ | ⟨-, hc⟩ | ⟨-, hc⟩ | ⟨-, hc⟩ | hc <;>
      simp [hc, TokenKind.delimiter?] at hdelimiter
  | _ =>
    cases hcategory
    all_goals simp [TokenKind.delimiter?] at hdelimiter

/-- A text block is one lexeme exactly if its delimiter does not occur in its
interior, escaped or not. -/
theorem first_textBlock_iff (interior rest : Text) :
    first (tripleQuote ++ (interior ++ tripleQuote) ++ rest) =
        some (⟨.token .textBlock, tripleQuote ++ (interior ++ tripleQuote)⟩, rest) ↔
      ¬tripleQuote <:+: interior ++ tripleQuote.dropLast := by
  constructor
  · intro hfirst
    obtain ⟨-, hleads⟩ := first_eq_some_iff.mp hfirst
    obtain ⟨inner, htext, hclosed, -⟩ := hleads.of_literal rfl rfl
    obtain ⟨interior', rfl, hholds⟩ := (throughFirst_eq_self_iff (by decide)).mp (hclosed rfl)
    rwa [List.append_cancel_right (List.append_cancel_left htext)]
  · intro hholds
    have hclosed : throughFirst tripleQuote (interior ++ tripleQuote) =
        some (interior ++ tripleQuote, []) :=
      (throughFirst_eq_self_iff (by decide)).mpr ⟨interior, rfl, hholds⟩
    exact first_of_leads (.textBlock hclosed)

/-- A string or a character literal is one lexeme, unless it is the empty string
and a text block begins with it. -/
theorem first_quoted (literal : Literal) (rest : Text) (hkind : literal.kind ≠ .textBlock)
    (hblock : ¬tripleQuote <+: literal.text ++ rest) :
    first (literal.text ++ rest) = some (⟨.token literal.kind, literal.text⟩, rest) := by
  obtain ⟨kind, delimiter, interior, hdelimiter, hends, hline⟩ := literal
  obtain ⟨quote, rfl, hescape, hfeed⟩ := exists_quote_of_delimiter? hdelimiter hkind
  have hmem : '\n' ∉ interior ++ [quote] := by
    simp [hline hkind, hfeed.symm]
  have hclosed := (throughQuote_eq_self_iff hescape hfeed).mpr ⟨hends, hmem⟩
  have hnone : delimited tripleQuote tripleQuote (quote :: (interior ++ [quote]) ++ rest) = none :=
    if_neg hblock
  cases kind with
  | string =>
    cases hdelimiter
    exact first_of_leads (.string hclosed hnone)
  | character =>
    cases hdelimiter
    exact first_of_leads (.character hclosed)
  | textBlock => exact absurd rfl hkind
  | _ => simp [TokenKind.delimiter?] at hdelimiter

end Lexeme

namespace Token

/-- Strings and character literals end with their first unescaped delimiter. A text
block ends with its first delimiter, so it does the same unless that one is
escaped. Conversely a literal is one token wherever it is reached, unless it is a
text block that holds its delimiter. -/
theorem literal_endsAtUnescaped (text : Text) :
    (∀ token ∈ ofText text, ∀ delimiter, token.kind.delimiter? = some delimiter →
      ∃ interior, token.text = delimiter ++ (interior ++ delimiter) ∧
        (Text.EndsAtUnescaped delimiter (interior ++ delimiter) ↔
          (token.kind = .textBlock → Text.leavesEscape interior = false)) ∧
        (token.kind = .textBlock → ¬delimiter <:+: interior ++ delimiter.dropLast)) ∧
      ∀ (literal : Literal) (rest : Text),
        (literal.kind ≠ .textBlock → ¬Lexeme.tripleQuote <+: literal.text ++ rest) →
        (Lexeme.first (literal.text ++ rest) =
            some (⟨.token literal.kind, literal.text⟩, rest) ↔
          (literal.kind = .textBlock →
            ¬literal.delimiter <:+: literal.interior ++ literal.delimiter.dropLast)) := by
  constructor
  · intro token hmem delimiter hdelimiter
    obtain ⟨behind, hleads⟩ := exists_leads_of_mem hmem
    obtain ⟨inner, htext, hblock, hquoted⟩ := hleads.of_literal rfl hdelimiter
    by_cases hkind : token.kind = .textBlock
    · obtain rfl := Lexeme.eq_tripleQuote_of_delimiter? hdelimiter hkind
      obtain ⟨interior, rfl, hfirst⟩ :=
        (Lexeme.throughFirst_eq_self_iff (by decide)).mp (hblock hkind)
      refine ⟨interior, htext, ?_, fun _ => hfirst⟩
      rw [Text.endsAtUnescaped_append_iff (by decide) (by decide) hfirst]
      exact ⟨fun hescape _ => hescape, fun hescape => hescape hkind⟩
    · obtain ⟨quote, rfl, hescape, hfeed⟩ :=
        Lexeme.exists_quote_of_delimiter? hdelimiter hkind
      obtain ⟨hends, -⟩ :=
        (Lexeme.throughQuote_eq_self_iff hescape hfeed).mp (hquoted hkind quote rfl)
      obtain ⟨interior, rfl⟩ := hends.exists_interior
      exact ⟨interior, htext, iff_of_true hends (fun h => absurd h hkind), fun h => absurd h hkind⟩
  · intro literal rest hblock
    by_cases hkind : literal.kind = .textBlock
    · rw [Literal.text, hkind, Lexeme.eq_tripleQuote_of_delimiter? literal.delimiter_eq hkind,
        Lexeme.first_textBlock_iff]
      exact ⟨fun h _ => h, fun h => h rfl⟩
    · exact iff_of_true (Lexeme.first_quoted literal rest hkind (hblock hkind))
        (fun h => absurd h hkind)

theorem literal_endsAtUnescaped_of_escapes :
    ∃ text : Text,
      text = ['"', '\\', '"', '"', '"', '"', '"', '\\', '"', '"', '"', 'b', '"', '"', '"'] ∧
      (ofText text).map (·.kind) = [.string, .textBlock, .identifier, .string, .other] ∧
      Text.EndsAtUnescaped ['"'] ['\\', '"', '"'] ∧
      ¬Text.EndsAtUnescaped Lexeme.tripleQuote ['\\', '"', '"', '"'] ∧
      ∃ literal : Literal, literal.text = text.drop 4 ∧
        Lexeme.first literal.text ≠ some (⟨.token .textBlock, literal.text⟩, []) := by
  have hstring : ⟨.string, ['"', '\\', '"', '"'], ⟨0, 1, 1⟩, ⟨4, 1, 5⟩⟩ ∈ ofText
      ['"', '\\', '"', '"', '"', '"', '"', '\\', '"', '"', '"', 'b', '"', '"', '"'] := by
    decide +kernel
  have hblock : ⟨.textBlock, ['"', '"', '"', '\\', '"', '"', '"'], ⟨4, 1, 5⟩, ⟨11, 1, 12⟩⟩ ∈ ofText
      ['"', '\\', '"', '"', '"', '"', '"', '\\', '"', '"', '"', 'b', '"', '"', '"'] := by
    decide +kernel
  obtain ⟨htokens, hliterals⟩ := literal_endsAtUnescaped
    ['"', '\\', '"', '"', '"', '"', '"', '\\', '"', '"', '"', 'b', '"', '"', '"']
  refine ⟨_, rfl, by decide +kernel, ?_, ?_, ?_⟩
  · obtain ⟨interior, htext, hends, -⟩ := htokens _ hstring ['"'] rfl
    have hcut : ['"'] ++ (['\\', '"'] ++ ['"']) = ['"'] ++ (interior ++ ['"']) := htext
    obtain rfl := List.append_cancel_right (List.append_cancel_left hcut)
    exact hends.mpr (by simp)
  · obtain ⟨interior, htext, hends, -⟩ := htokens _ hblock Lexeme.tripleQuote rfl
    have hcut : Lexeme.tripleQuote ++ (['\\'] ++ Lexeme.tripleQuote) =
        Lexeme.tripleQuote ++ (interior ++ Lexeme.tripleQuote) := htext
    obtain rfl := List.append_cancel_right (List.append_cancel_left hcut)
    exact fun h => absurd (hends.mp h rfl) (by decide)
  · let literal : Literal := {
      kind := .textBlock
      delimiter := Lexeme.tripleQuote
      interior := ['\\', '"', '"', '"', 'b']
      delimiter_eq := rfl
      ends := .escape (.plain (by decide) (by decide) (.plain (by decide) (by decide)
        (.plain (by decide) (by decide) .here)))
      not_mem_interior := by simp }
    refine ⟨literal, rfl, ?_⟩
    have hcut := hliterals literal [] (by simp [literal])
    rw [List.append_nil] at hcut
    exact fun hfirst => hcut.mp hfirst rfl (by decide)

end Token

end Transcompiler
