/-
# Lexing a text with other words in it

Whether a lexeme leads a rest can depend on characters that stand far behind it:
a slash in front of a star begins a comment only if some later characters close
one. So replacing a stretch of a text could change how any part of it is lexed.

`Reworded old new` says that `new` is `old` with some stretches replaced, in a way
that rules this out: a replacement begins and ends outside of every delimiter,
holds no closing delimiter, and begins with a part of an identifier only where the
replaced stretch does. All lexemes but white space and quotes that nothing closes
then lead the new rest as they led the old one, and the tokens of the new text are
those of the old text with the tokens of the replacements in their places.
-/

import Transcompiler.Proofs.PlainText

namespace Transcompiler

namespace Lexeme

/-! ## Delimiters in joined texts -/

/-- A pattern in a joined text that is not in the left part, and cannot reach over
its end, is in the right part. -/
theorem infix_right_of_infix_append {pattern left right : Text}
    (hlast : ∀ d ∈ left.getLast?, d ∉ pattern) (hleft : ¬pattern <:+: left)
    (h : pattern <:+: left ++ right) : pattern <:+: right := by
  induction left with
  | nil => exact h
  | cons c cs ih =>
    rw [List.cons_append, List.infix_cons_iff] at h
    rcases h with hbegins | hholds
    · exfalso
      have hsame : (c :: cs) <+: (c :: cs) ++ right := List.prefix_append _ _
      by_cases hlength : pattern.length ≤ (c :: cs).length
      · exact hleft (List.prefix_of_prefix_length_le hbegins hsame hlength).isInfix
      · have hwhole := List.prefix_of_prefix_length_le hsame hbegins (by omega)
        have hmem := List.getLast_mem (List.cons_ne_nil c cs)
        exact hlast _ (List.getLast?_eq_some_getLast (List.cons_ne_nil c cs)) (hwhole.subset hmem)
    · cases cs with
      | nil => exact hholds
      | cons d ds =>
        refine ih ?_ ?_ hholds
        · rwa [List.getLast?_cons_cons] at hlast
        · exact fun hrest => hleft (List.infix_cons hrest)

/-- Nothing is delimited if the closing delimiter is missing behind the opening
one. -/
theorem delimited_eq_none_iff {opening closing text : Text} (hclosing : closing ≠ []) :
    delimited opening closing text = none ↔
      ∀ inner, text = opening ++ inner → ¬closing <:+: inner := by
  rw [delimited]
  by_cases hbegins : opening <+: text
  · obtain ⟨inner, rfl⟩ := hbegins
    rw [if_pos (List.prefix_append _ _), List.drop_left, Option.map_eq_none_iff,
      throughFirst_eq_none_iff hclosing]
    simp
  · rw [if_neg hbegins]
    refine iff_of_true rfl ?_
    rintro inner rfl
    exact absurd (List.prefix_append _ _) hbegins

/-! ## Rewording -/

/-- Whether a character is in no delimiter of a comment or a text block. -/
def isInert (c : Char) : Bool :=
  c ≠ '/' && c ≠ '*' && c ≠ '"'

/-- A stretch of a text may be replaced without a change to what is lexed around
it. -/
structure Replaces (stretch replacement : Text) : Prop where
  /-- The stretch is on a line. -/
  stretch_head : ∃ d ds, stretch = d :: ds ∧ d ≠ '\n'
  /-- The replacement begins outside of a delimiter. -/
  head : ∃ c cs, replacement = c :: cs ∧ isInert c = true
  /-- It goes on with an identifier only where the stretch does. -/
  isIdentifierPart_head : ∀ c ∈ replacement.head?, isIdentifierPart c = true →
    ∀ d ∈ stretch.head?, isIdentifierPart d = true
  /-- It ends outside of a delimiter. -/
  last : ∀ c ∈ replacement.getLast?, isInert c = true
  /-- It closes no comment. -/
  commentEnd : ¬commentEnd <:+: replacement
  /-- It closes no text block. -/
  tripleQuote : ¬tripleQuote <:+: replacement

/-- A text is another text with some stretches replaced. -/
inductive Reworded : Text → Text → Prop where
  | nil : Reworded [] []
  | keep (c : Char) {old new : Text} (h : Reworded old new) : Reworded (c :: old) (c :: new)
  | replace {stretch replacement old new : Text} (hreplaces : Replaces stretch replacement)
      (h : Reworded old new) : Reworded (stretch ++ old) (replacement ++ new)

namespace Reworded

variable {old new : Text}

theorem append_left (kept : Text) (h : Reworded old new) :
    Reworded (kept ++ old) (kept ++ new) := by
  induction kept with
  | nil => exact h
  | cons c cs ih => exact .keep c ih

/-- Where no identifier goes on in the old text, none goes on in the new one. -/
theorem isIdentifierPart_head (h : Reworded old new)
    (hold : ∀ d ∈ old.head?, isIdentifierPart d = false) :
    ∀ d ∈ new.head?, isIdentifierPart d = false := by
  cases h with
  | nil => exact hold
  | keep c h => exact hold
  | @replace stretch replacement old new hreplaces h =>
    obtain ⟨d, ds, rfl, -⟩ := hreplaces.stretch_head
    obtain ⟨c, cs, rfl, -⟩ := hreplaces.head
    have hd : isIdentifierPart d = false := hold d rfl
    intro e he
    cases he
    rw [Bool.eq_false_iff]
    intro hc
    rw [hreplaces.isIdentifierPart_head c rfl hc d rfl] at hd
    exact Bool.false_ne_true hd.symm

/-- Where the old text is at the end of a line, the new one is. -/
theorem lineEnd_head (h : Reworded old new) (hold : ∀ d ∈ old.head?, d = '\n') :
    ∀ d ∈ new.head?, d = '\n' := by
  cases h with
  | nil => exact hold
  | keep c h => exact hold
  | replace hreplaces h =>
    obtain ⟨d, ds, rfl, hd⟩ := hreplaces.stretch_head
    exact absurd (hold d rfl) hd

/-- A character of a delimiter at the front of the new text is at the front of the
old one. -/
theorem of_cons {c : Char} (h : Reworded old (c :: new)) (hc : isInert c = false) :
    ∃ rest, old = c :: rest ∧ Reworded rest new := by
  generalize hnew : c :: new = whole at h
  cases h with
  | nil => simp at hnew
  | @keep d rest new' h =>
    cases hnew
    exact ⟨rest, rfl, h⟩
  | @replace stretch replacement rest new' hreplaces h =>
    obtain ⟨d, ds, rfl, hd⟩ := hreplaces.head
    cases hnew
    rw [hd] at hc
    exact Bool.noConfusion hc

/-- Delimiters at the front of the new text are at the front of the old one. -/
theorem prefix_old {pattern : Text} (h : Reworded old new)
    (hpattern : ∀ c ∈ pattern, isInert c = false) (hbegins : pattern <+: new) :
    pattern <+: old := by
  induction pattern generalizing old new with
  | nil => exact List.nil_prefix
  | cons c pattern ih =>
    obtain ⟨rest, rfl⟩ := hbegins
    rw [List.cons_append] at h
    rw [List.forall_mem_cons] at hpattern
    obtain ⟨rest', rfl, hrest⟩ := h.of_cons hpattern.1
    rw [List.cons_prefix_cons]
    exact ⟨rfl, ih hrest hpattern.2 (List.prefix_append _ _)⟩

/-- A closing delimiter in the new text is one in the old text. -/
theorem infix_old {pattern : Text} (h : Reworded old new)
    (hpattern : ∀ c ∈ pattern, isInert c = false)
    (hreplacement : ∀ stretch replacement, Replaces stretch replacement → ¬pattern <:+: replacement)
    (hholds : pattern <:+: new) : pattern <:+: old := by
  induction h with
  | nil => exact hholds
  | @keep c old new h ih =>
    rw [List.infix_cons_iff] at hholds
    rcases hholds with hbegins | hholds
    · exact ((Reworded.keep c h).prefix_old hpattern hbegins).isInfix
    · exact List.infix_cons (ih hholds)
  | @replace stretch replacement old new hreplaces h ih =>
    have hlast : ∀ d ∈ replacement.getLast?, d ∉ pattern := by
      intro d hd hmem
      have hinert := hreplaces.last d hd
      rw [hpattern d hmem] at hinert
      exact Bool.false_ne_true hinert
    have hnew := infix_right_of_infix_append hlast (hreplacement _ _ hreplaces) hholds
    exact (ih hnew).trans (List.suffix_append _ _).isInfix

theorem commentEnd_infix_old (h : Reworded old new) (hholds : commentEnd <:+: new) :
    commentEnd <:+: old :=
  h.infix_old (by simp [commentEnd, isInert]) (fun _ _ hreplaces => hreplaces.commentEnd) hholds

theorem tripleQuote_infix_old (h : Reworded old new) (hholds : tripleQuote <:+: new) :
    tripleQuote <:+: old :=
  h.infix_old (by simp [tripleQuote, isInert]) (fun _ _ hreplaces => hreplaces.tripleQuote) hholds

end Reworded

/-! ## Lexemes in front of a reworded rest -/

/-- Whether a token is a quote that nothing closes. -/
def isLoneQuote (kind : TokenKind) (text : Text) : Bool :=
  kind = .other && (text = ['"'] || text = ['\''])

/-- A string literal that goes on with a quote at once is empty. -/
theorem eq_singleton_of_throughQuote {quote : Char} {cs : Text} (hquote : quote ≠ '\\')
    (h : throughQuote quote (quote :: cs) = some (quote :: cs, [])) : cs = [] := by
  rw [throughQuote_cons_of_ne _ hquote, if_pos rfl] at h
  simp only [Option.some.injEq, Prod.mk.injEq] at h
  exact h.2

/-- A quote behind characters of one line, none of them a quote or a backslash,
closes a literal. -/
theorem throughQuote_of_not_mem {quote : Char} {cs : Text} (hquote : quote ∉ cs)
    (hbackslash : '\\' ∉ cs) (hfeed : '\n' ∉ cs) (hne : quote ≠ '\\') :
    throughQuote quote (cs ++ [quote]) = some (cs ++ [quote], []) := by
  induction cs with
  | nil => rw [List.nil_append, throughQuote_cons_of_ne _ hne, if_pos rfl]
  | cons c cs ih =>
    rw [List.mem_cons, not_or] at hquote hbackslash hfeed
    rw [List.cons_append, throughQuote_cons_of_ne _ (Ne.symm hbackslash.1),
      if_neg (Ne.symm hquote.1), if_neg (Ne.symm hfeed.1),
      ih hquote.2 hbackslash.2 hfeed.2]
    rfl

/-- Rewording the rest leaves a lexeme as it is, unless it is white space, which
may go on in the new rest, or a quote, which the new rest may close. -/
theorem Leads.reworded {lexeme : Lexeme} {old new : Text} (h : Leads lexeme old)
    (hreworded : Reworded old new) (hblank : lexeme.category ≠ .gap .blank)
    (hquote : ∀ kind, lexeme.category = .token kind → isLoneQuote kind lexeme.text = false) :
    Leads lexeme new := by
  cases h with
  | identifier hstart hpart hrest =>
    exact .identifier hstart hpart (hreworded.isIdentifierPart_head hrest)
  | blank => exact absurd rfl hblank
  | solitary hsolitary => exact .solitary hsolitary
  | lineComment hline hrest => exact .lineComment hline (hreworded.lineEnd_head hrest)
  | blockComment hclosed => exact .blockComment hclosed
  | textBlock hclosed => exact .textBlock hclosed
  | character hclosed => exact .character hclosed
  | @string cs _ hclosed hblock =>
    refine .string hclosed ((delimited_eq_none_iff (by decide)).mpr ?_)
    rw [delimited_eq_none_iff (by decide)] at hblock
    intro inner hinner hholds
    -- Only the empty string can begin a text block, and only with a quote behind it.
    cases cs with
    | nil => simp [throughQuote] at hclosed
    | cons c cs =>
      simp only [tripleQuote, List.cons_append, List.nil_append, List.cons.injEq, true_and]
        at hinner
      obtain ⟨rfl, hinner⟩ := hinner
      obtain rfl := eq_singleton_of_throughQuote (by decide) hclosed
      rw [List.nil_append] at hinner
      subst hinner
      obtain ⟨rest, rfl, hrest⟩ := hreworded.of_cons rfl
      exact hblock rest rfl (hrest.tripleQuote_infix_old hholds)
  | slash hline hblock =>
    refine .slash ?_ ((delimited_eq_none_iff (by decide)).mpr ?_)
    · intro hnew
      obtain ⟨rest, rfl⟩ := List.head?_eq_some_iff.mp hnew
      obtain ⟨rest', rfl, -⟩ := hreworded.of_cons rfl
      exact hline rfl
    · rw [delimited_eq_none_iff (by decide)] at hblock
      intro inner hinner hholds
      simp only [List.cons_append, List.nil_append, List.cons.injEq, true_and] at hinner
      subst hinner
      obtain ⟨rest, rfl, hrest⟩ := hreworded.of_cons rfl
      exact hblock rest rfl (hrest.commentEnd_infix_old hholds)
  | doubleQuote => simp [isLoneQuote] at hquote
  | singleQuote => simp [isLoneQuote] at hquote

/-- A token that nothing follows is the token it is in front of a rest. -/
theorem Leads.alone {lexeme : Lexeme} {rest : Text} (h : Leads lexeme rest) : Leads lexeme [] := by
  cases h with
  | identifier hstart hpart _ => exact .identifier hstart hpart (by simp)
  | blank hstart hpart _ => exact .blank hstart hpart (by simp)
  | solitary hsolitary => exact .solitary hsolitary
  | lineComment hline _ => exact .lineComment hline (by simp)
  | blockComment hclosed => exact .blockComment hclosed
  | textBlock hclosed => exact .textBlock hclosed
  | character hclosed => exact .character hclosed
  | @string cs _ hclosed hblock =>
    refine .string hclosed ((delimited_eq_none_iff (by decide)).mpr ?_)
    rw [delimited_eq_none_iff (by decide)] at hblock
    intro inner hinner hholds
    rw [List.append_nil] at hinner
    apply hblock (inner ++ rest)
    · rw [hinner, List.append_assoc]
    · exact hholds.trans (List.prefix_append _ _).isInfix
  | slash => exact .slash (by simp) rfl
  | doubleQuote => exact .doubleQuote rfl rfl
  | singleQuote => exact .singleQuote rfl

/-- A plain lexeme leads its rest also with more behind it, unless it is white
space or the last identifier goes on. -/
theorem Leads.append_of_plain {lexeme : Lexeme} {rest more : Text} (h : Leads lexeme rest)
    (hplain : Text.Plain lexeme.text) (hblank : lexeme.category ≠ .gap .blank)
    (hmore : ∀ c ∈ (lexeme.text ++ rest).getLast?, isIdentifierPart c = true →
      ∀ d ∈ more.head?, isIdentifierPart d = false) : Leads lexeme (rest ++ more) := by
  have hnot (c : Char) (cs : Text) (htext : lexeme.text = c :: cs) (hc : Text.isPlain c = false) :
      False := by
    rw [htext] at hplain
    exact hplain.not_mem hc List.mem_cons_self
  cases h with
  | @identifier c cs _ hstart hpart hrest =>
    refine .identifier hstart hpart ?_
    cases rest with
    | cons d ds => exact hrest
    | nil =>
      have hall : ∀ d ∈ c :: cs, isIdentifierPart d = true :=
        List.forall_mem_cons.mpr ⟨isIdentifierPart_of_isIdentifierStart hstart, hpart⟩
      rw [List.append_nil] at hmore
      exact hmore _ (List.getLast?_eq_some_getLast (List.cons_ne_nil c cs))
        (hall _ (List.getLast_mem _))
  | blank => exact absurd rfl hblank
  | solitary hsolitary => exact .solitary hsolitary
  | lineComment => exact (hnot '/' _ rfl rfl).elim
  | blockComment => exact (hnot '/' _ rfl rfl).elim
  | slash => exact (hnot '/' _ rfl rfl).elim
  | textBlock => exact (hnot '"' _ rfl rfl).elim
  | string => exact (hnot '"' _ rfl rfl).elim
  | doubleQuote => exact (hnot '"' _ rfl rfl).elim
  | character => exact (hnot '\'' _ rfl rfl).elim
  | singleQuote => exact (hnot '\'' _ rfl rfl).elim

theorem Leads.blank_text {lexeme : Lexeme} {rest : Text} (h : Leads lexeme rest)
    (hblank : lexeme.category = .gap .blank) : ∀ c ∈ lexeme.text, Text.isBlank c = true := by
  cases h with
  | blank hstart hpart _ => exact List.forall_mem_cons.mpr ⟨hstart, hpart⟩
  | _ => simp at hblank

end Lexeme

namespace Token

open Lexeme (Leads Chained Replaces Reworded isIdentifierPart isLoneQuote joined)

/-! ## Tokens without their places -/

/-- Class and characters of the tokens of a text. -/
def contents (text : Text) : List (TokenKind × Text) :=
  (ofText text).map content

theorem contents_eq_filterMap (text : Text) :
    contents text = (Lexeme.all text).filterMap Lexeme.content? :=
  map_content_placed .start (Lexeme.all text)

theorem contents_nil : contents [] = [] := by
  rw [contents_eq_filterMap, Lexeme.all_nil, List.filterMap_nil]

theorem contents_of_leads {lexeme : Lexeme} {rest : Text} (h : Leads lexeme rest) :
    contents (lexeme.text ++ rest) = lexeme.content?.toList ++ contents rest := by
  rw [contents_eq_filterMap, contents_eq_filterMap, Lexeme.all_of_leads h]
  cases hcontent : lexeme.content? with
  | none => rw [List.filterMap_cons_none hcontent, Option.toList_none, List.nil_append]
  | some content =>
    rw [List.filterMap_cons_some hcontent, Option.toList_some, List.singleton_append]

/-- The text of a token has this one token. -/
theorem contents_text {kind : TokenKind} {text rest : Text}
    (h : Leads ⟨.token kind, text⟩ rest) : contents text = [(kind, text)] := by
  have halone := contents_of_leads h.alone
  rw [contents_nil, List.append_nil, List.append_nil] at halone
  exact halone

/-- White space in front of a text has no tokens, also where it goes on in the
text. -/
theorem contents_blank_append {blank : Text} (text : Text)
    (hblank : ∀ c ∈ blank, Text.isBlank c = true) : contents (blank ++ text) = contents text := by
  rw [contents, ofText, placed_all_of_blank _ _ hblank, map_content_placed, contents_eq_filterMap]

/-- A plain text has the same tokens in front of every text that does not go on
with its last identifier. -/
theorem contents_append_of_plain {left right : Text} (hplain : Text.Plain left)
    (hright : ∀ c ∈ left.getLast?, isIdentifierPart c = true →
      ∀ d ∈ right.head?, isIdentifierPart d = false) :
    contents (left ++ right) = contents left ++ contents right := by
  -- By induction on the lexemes of the left text: each of them still leads its rest.
  have hchain (lexemes : List Lexeme) (hchained : Chained lexemes)
      (hplain : Text.Plain (joined lexemes))
      (hright : ∀ c ∈ (joined lexemes).getLast?, isIdentifierPart c = true →
        ∀ d ∈ right.head?, isIdentifierPart d = false) :
      contents (joined lexemes ++ right) = contents (joined lexemes) ++ contents right := by
    induction lexemes with
    | nil => rw [Lexeme.joined_nil, contents_nil, List.nil_append, List.nil_append]
    | cons lexeme lexemes ih =>
      obtain ⟨hleads, hchained⟩ := hchained
      rw [Lexeme.joined_cons] at hplain hright ⊢
      obtain ⟨hlexeme, hrest⟩ := Text.plain_append_iff.mp hplain
      have hbehind := ih hchained hrest (fun c hc => hright c (by
        rw [Option.mem_def] at hc ⊢
        rw [List.getLast?_append, hc, Option.some_or]))
      rw [List.append_assoc]
      by_cases hblank : lexeme.category = .gap .blank
      · have htext := hleads.blank_text hblank
        rw [contents_blank_append _ htext, contents_blank_append _ htext, hbehind]
      · have hmore := hleads.append_of_plain hlexeme hblank hright
        rw [contents_of_leads hmore, contents_of_leads hleads, hbehind, List.append_assoc]
  have hall := hchain (Lexeme.all left) (Lexeme.chained_all left)
  rw [Lexeme.joined_all] at hall
  exact hall hplain hright

/-! ## Other texts for the tokens -/

/-- The text that lexemes make up if some text is read for each token. -/
def readFrom (image : Token → Text) : Position → List Lexeme → Text
  | _, [] => []
  | position, lexeme :: lexemes =>
    let behind := position.after lexeme.text
    match lexeme.category with
    | .token kind => image ⟨kind, lexeme.text, position, behind⟩ ++ readFrom image behind lexemes
    | .gap _ => lexeme.text ++ readFrom image behind lexemes

/-- A text that can be read for a token without a change to the other tokens. -/
structure Substitutes (token : Token) (image : Text) : Prop extends
    Replaces token.text image where
  /-- What follows the token does not change how its text is lexed. -/
  contents_append : ∀ rest,
    (token.kind = .identifier → ∀ d ∈ rest.head?, isIdentifierPart d = false) →
      contents (image ++ rest) = contents image ++ contents rest

theorem reworded_readFrom {image : Token → Text} {position : Position} {lexemes : List Lexeme}
    (himage : ∀ token ∈ placed position lexemes,
      image token = token.text ∨ Substitutes token (image token)) :
    Reworded (joined lexemes) (readFrom image position lexemes) := by
  induction lexemes generalizing position with
  | nil => exact .nil
  | cons lexeme lexemes ih =>
    obtain ⟨category, text⟩ := lexeme
    cases category with
    | gap gap => exact (ih himage).append_left text
    | token kind =>
      rw [placed_cons_token, List.forall_mem_cons] at himage
      rcases himage.1 with hkept | hsubstitutes
      · rw [readFrom]
        simp only [hkept]
        exact (ih himage.2).append_left text
      · exact .replace hsubstitutes.toReplaces (ih himage.2)

/-- Reading other texts for some tokens changes these tokens and no others. -/
theorem contents_readFrom {image : Token → Text} {position : Position} {lexemes : List Lexeme}
    (hchained : Chained lexemes)
    (hquote : ∀ token ∈ placed position lexemes, isLoneQuote token.kind token.text = false)
    (himage : ∀ token ∈ placed position lexemes,
      image token = token.text ∨ Substitutes token (image token)) :
    contents (readFrom image position lexemes) =
      (placed position lexemes).flatMap fun token => contents (image token) := by
  induction lexemes generalizing position with
  | nil => exact contents_nil
  | cons lexeme lexemes ih =>
    obtain ⟨hleads, hchained⟩ := hchained
    obtain ⟨category, text⟩ := lexeme
    cases category with
    | gap gap =>
      rw [placed_cons_gap] at hquote himage ⊢
      rw [← ih hchained hquote himage]
      by_cases hblank : gap = .blank
      · subst hblank
        exact contents_blank_append _ (hleads.blank_text rfl)
      · have hnew := hleads.reworded (reworded_readFrom himage) (by simpa using hblank) (by simp)
        exact contents_of_leads hnew
    | token kind =>
      rw [placed_cons_token, List.forall_mem_cons] at hquote himage
      have hreworded := reworded_readFrom himage.2
      rw [placed_cons_token, List.flatMap_cons, ← ih hchained hquote.2 himage.2, readFrom]
      rcases himage.1 with hkept | hsubstitutes
      · have hnew := hleads.reworded hreworded (by simp) (by
          intro kind' hkind
          cases hkind
          exact hquote.1)
        simp only [hkept]
        rw [contents_text hleads]
        exact contents_of_leads hnew
      · refine hsubstitutes.contents_append _ ?_
        intro hkind
        have hend := (hleads.of_identifier (congrArg Lexeme.Category.token hkind)).2
        exact hreworded.isIdentifierPart_head hend

end Token

end Transcompiler
