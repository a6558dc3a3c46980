/-
# Where tokens stand

A token carries its characters and the two places around them, and nothing in
its type ties these to the text it was cut from. This module supplies the tie:
a token of a text is the span between its two offsets, tokens stand one behind
the other in the order of the list, and the tokens behind a token are those of
the text behind it. The last fact lets a statement about a token list be proved
by lexing what is left of the text.
-/

import Transcompiler.Proofs.Lexing
import Transcompiler.Proofs.Slice
import Transcompiler.Token

namespace Transcompiler

namespace Lexeme

/-- Class and characters of a significant lexeme. -/
def content? (lexeme : Lexeme) : Option (TokenKind × Text) :=
  match lexeme.category with
  | .token kind => some (kind, lexeme.text)
  | .gap _ => none

end Lexeme

namespace Token

/-- Class and characters of a token, without its place. -/
def content (token : Token) : TokenKind × Text :=
  (token.kind, token.text)

/-- The lexeme that a token stands for. -/
def lexeme (token : Token) : Lexeme :=
  ⟨.token token.kind, token.text⟩

/-! ## Placing lexemes -/

@[simp]
theorem placed_cons_token (position : Position) (kind : TokenKind) (text : Text)
    (lexemes : List Lexeme) :
    placed position (⟨.token kind, text⟩ :: lexemes) =
      ⟨kind, text, position, position.after text⟩ :: placed (position.after text) lexemes := rfl

@[simp]
theorem placed_cons_gap (position : Position) (gap : Gap) (text : Text) (lexemes : List Lexeme) :
    placed position (⟨.gap gap, text⟩ :: lexemes) = placed (position.after text) lexemes := rfl

theorem map_content_placed (position : Position) (lexemes : List Lexeme) :
    (placed position lexemes).map content = lexemes.filterMap Lexeme.content? := by
  induction lexemes generalizing position with
  | nil => rfl
  | cons lexeme lexemes ih =>
    obtain ⟨category, text⟩ := lexeme
    cases category with
    | token kind =>
      rw [placed_cons_token, List.map_cons, ih]
      rfl
    | gap gap =>
      rw [placed_cons_gap, ih]
      rfl

/-- A token among placed lexemes splits the lexemes where it splits the tokens. -/
theorem exists_lexemes_of_placed {position : Position} {lexemes : List Lexeme}
    {front rest : List Token} {token : Token}
    (h : placed position lexemes = front ++ token :: rest) :
    ∃ before behind, lexemes = before ++ token.lexeme :: behind ∧
      token.start = position.after (Lexeme.joined before) ∧
      token.stop = token.start.after token.text ∧
      front = placed position before ∧ rest = placed token.stop behind := by
  induction lexemes generalizing position front with
  | nil => simp [placed] at h
  | cons lexeme lexemes ih =>
    obtain ⟨category, text⟩ := lexeme
    cases category with
    | gap gap =>
      obtain ⟨before, behind, rfl, hstart, hstop, hfront, hrest⟩ := ih h
      refine ⟨⟨.gap gap, text⟩ :: before, behind, rfl, ?_, hstop, hfront, hrest⟩
      rw [hstart, Lexeme.joined_cons, Position.after_append]
    | token kind =>
      cases front with
      | nil =>
        simp only [placed_cons_token, List.nil_append, List.cons.injEq] at h
        obtain ⟨rfl, rfl⟩ := h
        exact ⟨[], lexemes, rfl, rfl, rfl, rfl, rfl⟩
      | cons head front =>
        simp only [placed_cons_token, List.cons_append, List.cons.injEq] at h
        obtain ⟨rfl, h⟩ := h
        obtain ⟨before, behind, rfl, hstart, hstop, hfront, hrest⟩ := ih h
        refine ⟨⟨.token kind, text⟩ :: before, behind, rfl, ?_, hstop, ?_, hrest⟩
        · rw [hstart, Lexeme.joined_cons, Position.after_append]
        · rw [placed_cons_token, hfront]

/-! ## Tokens of a text -/

/-- A token of a text splits the text: its characters stand behind those in front
of its start, and the tokens behind it are those of the rest. -/
theorem exists_texts_of_ofText {text : Text} {front rest : List Token} {token : Token}
    (h : ofText text = front ++ token :: rest) :
    ∃ before behind, text = before ++ (token.text ++ behind) ∧
      token.start = Position.start.after before ∧ token.stop = token.start.after token.text ∧
      rest = placed token.stop (Lexeme.all behind) ∧ Lexeme.Leads token.lexeme behind := by
  obtain ⟨before, behind, hall, hstart, hstop, -, hrest⟩ := exists_lexemes_of_placed h
  obtain ⟨hjoined, hchained⟩ := Lexeme.all_eq_iff.mp hall
  have hbehind : Lexeme.Chained (token.lexeme :: behind) := hchained.right
  refine ⟨Lexeme.joined before, Lexeme.joined behind, ?_, hstart, hstop, ?_, hbehind.1⟩
  · rw [← hjoined, Lexeme.joined_append, Lexeme.joined_cons]
    rfl
  · rw [Lexeme.all_joined hbehind.2, hrest]

theorem exists_leads_of_mem {text : Text} {token : Token} (h : token ∈ ofText text) :
    ∃ behind, Lexeme.Leads token.lexeme behind := by
  obtain ⟨front, rest, hsplit⟩ := List.append_of_mem h
  obtain ⟨before, behind, -, -, -, -, hleads⟩ := exists_texts_of_ofText hsplit
  exact ⟨behind, hleads⟩

/-- A brace, a parenthesis or a semicolon is one character. -/
theorem text_eq_of_kind {text : Text} {token : Token} (h : token ∈ ofText text) {d : Char}
    (hkind : token.kind = Lexeme.solitaryKind d) (hd : Lexeme.solitaryKind d ≠ .other) :
    token.text = [d] := by
  obtain ⟨behind, hleads⟩ := exists_leads_of_mem h
  exact hleads.solitary_text (congrArg Lexeme.Category.token hkind) hd

/-- What one token of a text says about the text. -/
structure InText (text : Text) (token : Token) : Prop where
  /-- A token has a character. -/
  text_ne_nil : token.text ≠ []
  /-- Its offsets are as far apart as it is long. -/
  stop_eq : token.stop.offset = token.start.offset + token.text.length
  /-- It ends within the text. -/
  stop_le : token.stop.offset ≤ text.length
  /-- It is the text between its offsets. -/
  slice_eq : Text.slice text token.start.offset token.stop.offset = token.text

theorem inText_of_mem {text : Text} {token : Token} (h : token ∈ ofText text) :
    InText text token := by
  obtain ⟨front, rest, hsplit⟩ := List.append_of_mem h
  obtain ⟨before, behind, rfl, hstart, hstop, -, hleads⟩ := exists_texts_of_ofText hsplit
  have hbegin : token.start.offset = before.length := by
    rw [hstart, Position.offset_after, Position.start, Nat.zero_add]
  have hend : token.stop.offset = token.start.offset + token.text.length := by
    rw [hstop, Position.offset_after]
  refine ⟨hleads.text_ne_nil, hend, ?_, ?_⟩
  · simp only [List.length_append]
    omega
  · exact Text.slice_of_append rfl hbegin hend

theorem InText.start_lt_stop {text : Text} {token : Token} (h : InText text token) :
    token.start.offset < token.stop.offset := by
  have hpos := List.length_pos_iff.mpr h.text_ne_nil
  have hstop := h.stop_eq
  omega

theorem offset_le_of_mem_placed {position : Position} {lexemes : List Lexeme} {token : Token}
    (h : token ∈ placed position lexemes) : position.offset ≤ token.start.offset := by
  obtain ⟨front, rest, hsplit⟩ := List.append_of_mem h
  obtain ⟨before, behind, -, hstart, -⟩ := exists_lexemes_of_placed hsplit
  rw [hstart, Position.offset_after]
  omega

theorem pairwise_placed (position : Position) (lexemes : List Lexeme) :
    (placed position lexemes).Pairwise fun a b => a.stop.offset ≤ b.start.offset := by
  induction lexemes generalizing position with
  | nil => exact List.Pairwise.nil
  | cons lexeme lexemes ih =>
    obtain ⟨category, text⟩ := lexeme
    cases category with
    | token kind =>
      rw [placed_cons_token, List.pairwise_cons]
      exact ⟨fun token hmem => offset_le_of_mem_placed hmem, ih _⟩
    | gap gap => exact ih _

/-- Tokens stand one behind the other. -/
theorem pairwise_ofText (text : Text) :
    (ofText text).Pairwise fun a b => a.stop.offset ≤ b.start.offset :=
  pairwise_placed .start (Lexeme.all text)

/-- No two tokens of a text begin at the same place. -/
theorem pairwise_start_lt (text : Text) :
    (ofText text).Pairwise fun a b => a.start.offset < b.start.offset := by
  refine (pairwise_ofText text).imp_of_mem ?_
  intro a b ha _ hle
  exact Nat.lt_of_lt_of_le (inText_of_mem ha).start_lt_stop hle

theorem nodup_ofText (text : Text) : (ofText text).Nodup := by
  refine (pairwise_start_lt text).imp ?_
  rintro a b hlt rfl
  exact Nat.lt_irrefl _ hlt

/-- A token is neither in front of itself nor behind. -/
theorem not_mem_of_split {text : Text} {front rest : List Token} {token : Token}
    (h : ofText text = front ++ token :: rest) : token ∉ front ∧ token ∉ rest := by
  have hnodup := nodup_ofText text
  rw [h, List.nodup_append, List.nodup_cons] at hnodup
  obtain ⟨-, ⟨hrest, -⟩, hfront⟩ := hnodup
  exact ⟨fun hmem => hfront token hmem token List.mem_cons_self rfl, hrest⟩

/-- A token stands in front of those behind it in the list. -/
theorem stop_le_of_mem_rest {text : Text} {front rest : List Token} {a b : Token}
    (h : ofText text = front ++ a :: rest) (hb : b ∈ rest) :
    a.stop.offset ≤ b.start.offset := by
  have hpairwise := pairwise_ofText text
  rw [h, List.pairwise_append, List.pairwise_cons] at hpairwise
  exact hpairwise.2.1.1 b hb

theorem start_lt_of_mem_rest {text : Text} {front rest : List Token} {a b : Token}
    (h : ofText text = front ++ a :: rest) (hb : b ∈ rest) :
    a.start.offset < b.start.offset := by
  have ha : a ∈ ofText text := by simp [h]
  exact Nat.lt_of_lt_of_le (inText_of_mem ha).start_lt_stop (stop_le_of_mem_rest h hb)

/-- Of two tokens of a text, one stands in front of the other. -/
theorem stop_le_or_stop_le {text : Text} {a b : Token} (ha : a ∈ ofText text)
    (hb : b ∈ ofText text) (hne : a ≠ b) :
    a.stop.offset ≤ b.start.offset ∨ b.stop.offset ≤ a.start.offset := by
  obtain ⟨front, rest, hsplit⟩ := List.append_of_mem ha
  rw [hsplit, List.mem_append, List.mem_cons] at hb
  rcases hb with hb | rfl | hb
  · obtain ⟨before, between, rfl⟩ := List.append_of_mem hb
    rw [List.append_assoc, List.cons_append] at hsplit
    exact .inr (stop_le_of_mem_rest hsplit (by simp))
  · exact absurd rfl hne
  · exact .inl (stop_le_of_mem_rest hsplit hb)

/-- A token is found by the offset at which it begins. -/
theorem eq_of_start_eq {text : Text} {a b : Token} (ha : a ∈ ofText text) (hb : b ∈ ofText text)
    (h : a.start.offset = b.start.offset) : a = b := by
  by_cases heq : a = b
  · exact heq
  · have hfirst := (inText_of_mem ha).start_lt_stop
    have hsecond := (inText_of_mem hb).start_lt_stop
    rcases stop_le_or_stop_le ha hb heq with hle | hle <;> omega

/-! ## Tokens of what is left of a text -/

theorem placed_all_of_leads (position : Position) {kind : TokenKind} {text rest : Text}
    (h : Lexeme.Leads ⟨.token kind, text⟩ rest) :
    placed position (Lexeme.all (text ++ rest)) =
      ⟨kind, text, position, position.after text⟩ ::
        placed (position.after text) (Lexeme.all rest) := by
  have hall : Lexeme.all (text ++ rest) = ⟨.token kind, text⟩ :: Lexeme.all rest :=
    Lexeme.all_of_leads h
  rw [hall, placed_cons_token]

theorem placed_all_of_longest (position : Position) {blank rest : Text}
    (hblank : ∀ c ∈ blank, Text.isBlank c = true)
    (hrest : ∀ c ∈ rest.head?, Text.isBlank c = false) :
    placed position (Lexeme.all (blank ++ rest)) =
      placed (position.after blank) (Lexeme.all rest) := by
  cases blank with
  | nil => rfl
  | cons c cs =>
    have hleads : Lexeme.Leads ⟨.gap .blank, c :: cs⟩ rest := by
      refine .blank (hblank c List.mem_cons_self) ?_ hrest
      intro d hd
      exact hblank d (List.mem_cons_of_mem c hd)
    have hall : Lexeme.all (c :: cs ++ rest) = ⟨.gap .blank, c :: cs⟩ :: Lexeme.all rest :=
      Lexeme.all_of_leads hleads
    rw [hall, placed_cons_gap]

/-- White space in front of a text moves its tokens and changes nothing else. The
text may go on with white space of its own. -/
theorem placed_all_of_blank (position : Position) {blank : Text} (text : Text)
    (hblank : ∀ c ∈ blank, Text.isBlank c = true) :
    placed position (Lexeme.all (blank ++ text)) =
      placed (position.after blank) (Lexeme.all text) := by
  obtain ⟨more, rest, rfl, hmore, hrest⟩ := exists_longest Text.isBlank text
  have hall : ∀ c ∈ blank ++ more, Text.isBlank c = true := by
    intro c hc
    exact (List.mem_append.mp hc).elim (hblank c) (hmore c)
  rw [← List.append_assoc, placed_all_of_longest position hall hrest,
    placed_all_of_longest _ hmore hrest, Position.after_append]

end Token

end Transcompiler
