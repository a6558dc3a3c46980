/-
# The tokens and gaps of a text

Every text is cut up whole: its tokens stand one behind the other, and what is in
front of them, between them and behind them is white space and comments. This
module says so without lexemes. `Text.Separates` describes a gap by its characters
alone, and `Position.Locates` counts the line and the column of a place from the
text, where the lexer carries both along from one character to the next.

Nothing is said here about which class a token has.
-/

import Transcompiler.Proofs.Span

namespace Transcompiler

namespace Text

/-! ## Gaps -/

/-- A gap in front of a text: white space, line comments that go up to the end of
their line, and block comments that end with their first closing delimiter. -/
inductive Separates : Text → Text → Prop where
  /-- Nothing has to stand between two tokens. -/
  | nil {behind : Text} : Separates [] behind
  /-- A run of white space. -/
  | blank {run gap behind : Text} (hne : run ≠ []) (hrun : ∀ c ∈ run, isBlank c = true)
      (h : Separates gap behind) : Separates (run ++ gap) behind
  /-- Two slashes, and all that follows them on the line. -/
  | lineComment {comment gap behind : Text} (hline : '\n' ∉ comment)
      (hend : ∀ c ∈ (gap ++ behind).head?, c = '\n') (h : Separates gap behind) :
      Separates ('/' :: '/' :: comment ++ gap) behind
  /-- All between a slash with a star and the first star with a slash. -/
  | blockComment {comment gap behind : Text} (hfirst : ¬['*', '/'] <:+: comment ++ ['*'])
      (h : Separates gap behind) :
      Separates ('/' :: '*' :: comment ++ ['*', '/'] ++ gap) behind

/-! ## The line of an offset -/

/-- The line on which an offset lies begins at `start`: right behind the last line
feed in front of the offset, or at the front of the text. -/
structure LineBeginsAt (text : Text) (offset start : Nat) : Prop where
  start_le : start ≤ offset
  /-- No line ends in between. -/
  not_mem_slice : '\n' ∉ slice text start offset
  /-- A line ends right in front. -/
  front : start = 0 ∨ text[start - 1]? = some '\n'

/-- The last line of a text, behind the lines that have ended. -/
theorem exists_lastLine (text : Text) :
    ∃ front line, text = front ++ line ∧ '\n' ∉ line ∧
      (front = [] ∨ ∃ more, front = more ++ ['\n']) := by
  obtain ⟨line, front, hsplit, hline, hfront⟩ := exists_longest (· ≠ '\n') text.reverse
  refine ⟨front.reverse, line.reverse, ?_, ?_, ?_⟩
  · rw [← List.reverse_append, hsplit, List.reverse_reverse]
  · intro hmem
    simpa using hline '\n' (List.mem_reverse.mp hmem)
  · cases front with
    | nil => exact .inl rfl
    | cons c cs =>
      have hc : c = '\n' := by simpa using hfront c rfl
      exact .inr ⟨cs.reverse, by rw [hc, List.reverse_cons]⟩

end Text

namespace Position

/-! ## Lines and columns -/

/-- A place in a text with its line and its column, both counted from one: a line
is counted for each line feed in front, and the column from the beginning of the
line. -/
structure Locates (position : Position) (text : Text) : Prop where
  offset_le : position.offset ≤ text.length
  line_eq : position.line = 1 + (text.take position.offset).count '\n'
  column_eq : ∃ start, text.LineBeginsAt position.offset start ∧
    position.column = position.offset - start + 1

theorem after_cons (position : Position) (c : Char) (text : Text) :
    position.after (c :: text) = (position.next c).after text := rfl

theorem line_after (position : Position) (text : Text) :
    (position.after text).line = position.line + text.count '\n' := by
  induction text generalizing position with
  | nil => rfl
  | cons c cs ih =>
    rw [after_cons, ih, next]
    split
    · next hc =>
      rw [hc, List.count_cons_self, Nat.add_right_comm, Nat.add_assoc]
    · next hc => rw [List.count_cons_of_ne hc]

/-- On a line, each character is one column. -/
theorem column_after_of_not_mem (position : Position) {text : Text} (h : '\n' ∉ text) :
    (position.after text).column = position.column + text.length := by
  induction text generalizing position with
  | nil => rfl
  | cons c cs ih =>
    rw [List.mem_cons, not_or] at h
    rw [after_cons, ih _ h.2, next, if_neg (Ne.symm h.1), List.length_cons, Nat.add_right_comm,
      Nat.add_assoc]

/-- Behind a line feed a line begins. -/
theorem column_after_newline (position : Position) (text : Text) :
    (position.after (text ++ ['\n'])).column = 1 := by
  rw [after_append]
  rfl

/-- The place that is reached over the front of a text has the line and the column
that are counted in the text. -/
theorem locates_after (before behind : Text) : (start.after before).Locates (before ++ behind) := by
  have hoffset : (start.after before).offset = before.length := by
    rw [offset_after, start, Nat.zero_add]
  obtain ⟨front, line, rfl, hline, hfront⟩ := Text.exists_lastLine before
  refine ⟨?_, ?_, front.length, ⟨?_, ?_, ?_⟩, ?_⟩
  · rw [hoffset]
    exact (List.prefix_append _ _).length_le
  · rw [line_after, hoffset, List.take_left]
    rfl
  · rw [hoffset]
    exact (List.prefix_append _ _).length_le
  · have hslice : Text.slice (front ++ line ++ behind) front.length
        (start.after (front ++ line)).offset = line :=
      Text.slice_of_append (List.append_assoc _ _ _) rfl (by rw [hoffset, List.length_append])
    rwa [hslice]
  · rcases hfront with rfl | ⟨more, rfl⟩
    · exact .inl rfl
    · right
      simp
  · have hcolumn : (start.after front).column = 1 := by
      rcases hfront with rfl | ⟨more, rfl⟩
      · rfl
      · exact column_after_newline start more
    rw [hoffset, after_append, column_after_of_not_mem _ hline, hcolumn, List.length_append]
    omega

end Position

namespace Token

/-! ## Tokens and gaps -/

/-- The offset behind the last of some tokens, or the given one if there are
none. -/
def lastStop (offset : Nat) : List Token → Nat
  | [] => offset
  | token :: tokens => lastStop token.stop.offset tokens

/-- The offset in front of the first of some tokens, or the given one if there are
none. -/
def firstStart (offset : Nat) : List Token → Nat
  | [] => offset
  | token :: _ => token.start.offset

/-- A lexeme that is no token goes on with the gap behind it. -/
theorem separates_append_of_leads {kind : Gap} {front gap behind : Text}
    (h : Lexeme.Leads ⟨.gap kind, front⟩ (gap ++ behind)) (hgap : Text.Separates gap behind) :
    Text.Separates (front ++ gap) behind := by
  cases h with
  | blank hstart hpart _ =>
    exact .blank (List.cons_ne_nil _ _) (List.forall_mem_cons.mpr ⟨hstart, hpart⟩) hgap
  | lineComment hline hrest => exact .lineComment (fun hmem => hline _ hmem rfl) hrest hgap
  | blockComment hclosed =>
    obtain ⟨comment, rfl, hfirst⟩ := (Lexeme.throughFirst_eq_self_iff (by decide)).mp hclosed
    exact .blockComment hfirst hgap

/-- Wherever the tokens among chained lexemes are divided, a gap stands between the
two parts. -/
theorem exists_gap_of_placed {position : Position} {lexemes : List Lexeme} {front rest : List Token}
    (hchained : Lexeme.Chained lexemes) (h : placed position lexemes = front ++ rest) :
    ∃ before gap behind, Lexeme.joined lexemes = before ++ (gap ++ behind) ∧
      Text.Separates gap behind ∧
      lastStop position.offset front = position.offset + before.length ∧
      firstStart (position.offset + (Lexeme.joined lexemes).length) rest =
        position.offset + before.length + gap.length := by
  induction lexemes generalizing position front with
  | nil =>
    obtain ⟨rfl, rfl⟩ := List.nil_eq_append_iff.mp h
    exact ⟨[], [], [], rfl, .nil, rfl, rfl⟩
  | cons lexeme lexemes ih =>
    obtain ⟨category, text⟩ := lexeme
    obtain ⟨hleads, hchained⟩ := hchained
    have hoffset := position.offset_after text
    have hlength : (position.after text).offset + (Lexeme.joined lexemes).length =
        position.offset + (Lexeme.joined (⟨category, text⟩ :: lexemes)).length := by
      rw [hoffset, Lexeme.joined_cons, List.length_append, Nat.add_assoc]
    cases category with
    | gap kind =>
      rw [placed_cons_gap] at h
      obtain ⟨before, gap, behind, hjoined, hgap, hlast, hfirst⟩ := ih hchained h
      rw [hlength, hoffset] at hfirst
      cases front with
      | nil =>
        -- In front of the first token, the gap begins at the front of the lexeme.
        have hbefore : before = [] := by
          rw [lastStop] at hlast
          exact List.eq_nil_of_length_eq_zero (by omega)
        subst hbefore
        rw [List.nil_append] at hjoined
        refine ⟨[], text ++ gap, behind, ?_, ?_, rfl, ?_⟩
        · rw [Lexeme.joined_cons, hjoined, List.nil_append, List.append_assoc]
        · exact separates_append_of_leads (hjoined ▸ hleads) hgap
        · rw [hfirst, List.length_append]
          simp only [List.length_nil]
          omega
      | cons token front =>
        refine ⟨text ++ before, gap, behind, ?_, hgap, ?_, ?_⟩
        · rw [Lexeme.joined_cons, hjoined, List.append_assoc]
        · rw [lastStop] at hlast ⊢
          rw [hlast, hoffset, List.length_append]
          omega
        · rw [hfirst, List.length_append]
          omega
    | token kind =>
      rw [placed_cons_token] at h
      cases front with
      | nil =>
        rw [List.nil_append] at h
        subst h
        exact ⟨[], [], Lexeme.joined (⟨.token kind, text⟩ :: lexemes), rfl, .nil, rfl, rfl⟩
      | cons token front =>
        rw [List.cons_append, List.cons.injEq] at h
        obtain ⟨rfl, h⟩ := h
        obtain ⟨before, gap, behind, hjoined, hgap, hlast, hfirst⟩ := ih hchained h
        rw [hlength, hoffset] at hfirst
        refine ⟨text ++ before, gap, behind, ?_, hgap, ?_, ?_⟩
        · rw [Lexeme.joined_cons, hjoined, List.append_assoc]
        · rw [lastStop, hlast, hoffset, List.length_append]
          omega
        · rw [hfirst, List.length_append]
          omega

/-- Between the tokens of a text, and around them, stand gaps. -/
theorem separates_slice {text : Text} {front rest : List Token} (h : ofText text = front ++ rest) :
    Text.Separates (Text.slice text (lastStop 0 front) (firstStart text.length rest))
      (text.drop (firstStart text.length rest)) := by
  obtain ⟨before, gap, behind, hjoined, hgap, hlast, hfirst⟩ :=
    exists_gap_of_placed (Lexeme.chained_all text) h
  rw [Lexeme.joined_all] at hjoined hfirst
  simp only [Position.start, Nat.zero_add] at hlast hfirst
  have hslice : Text.slice text before.length (before.length + gap.length) = gap :=
    Text.slice_of_append hjoined rfl rfl
  have hdrop : text.drop (before.length + gap.length) = behind := by
    rw [hjoined, ← List.append_assoc, ← List.length_append, List.drop_left]
  rw [hlast, hfirst, hslice, hdrop]
  exact hgap

/-- A token of a text stands between the places at its two offsets. -/
theorem locates_of_mem {text : Text} {token : Token} (h : token ∈ ofText text) :
    token.start.Locates text ∧ token.stop.Locates text := by
  obtain ⟨front, rest, hsplit⟩ := List.append_of_mem h
  obtain ⟨before, behind, rfl, hstart, hstop, -, -⟩ := exists_texts_of_ofText hsplit
  constructor
  · rw [hstart]
    exact Position.locates_after before (token.text ++ behind)
  · rw [hstop, hstart, ← Position.after_append, ← List.append_assoc]
    exact Position.locates_after (before ++ token.text) behind

/-- The tokens of a text partition it. No character is left over at any place, a
token is the text between its two offsets and these offsets have their true lines
and columns, tokens follow one another, and all that stands before, between and
behind them is white space and comments. -/
theorem ofText_partition (text : Text) :
    (∀ rest, rest <:+ text → rest ≠ [] → ∃ lexeme more, Lexeme.first rest = some (lexeme, more)) ∧
      (∀ token ∈ ofText text, InText text token ∧
        token.start.Locates text ∧ token.stop.Locates text) ∧
      ((ofText text).Pairwise fun a b =>
        a.start.offset < b.start.offset ∧ a.stop.offset ≤ b.start.offset) ∧
      ∀ front rest, ofText text = front ++ rest →
        Text.Separates (Text.slice text (lastStop 0 front) (firstStart text.length rest))
          (text.drop (firstStart text.length rest)) := by
  refine ⟨?_, ?_, ?_, fun front rest h => separates_slice h⟩
  · intro rest _ hne
    obtain ⟨c, cs, rfl⟩ := List.exists_cons_of_ne_nil hne
    obtain ⟨⟨lexeme, more⟩, hfirst⟩ :=
      Option.ne_none_iff_exists'.mp (Lexeme.first_cons_ne_none c cs)
    exact ⟨lexeme, more, hfirst⟩
  · intro token hmem
    exact ⟨inText_of_mem hmem, locates_of_mem hmem⟩
  · exact (pairwise_start_lt text).and (pairwise_ofText text)

theorem ofText_partition_of_open_quote :
    ∃ text, text = ['a', ' ', '/', '*', '\n', '*', '/', ' ', '"', 'b', '\n', '/', '/', 'c'] ∧
      Position.Locates ⟨9, 2, 5⟩ text ∧
      Text.Separates [' ', '/', '*', '\n', '*', '/', ' '] ['"', 'b', '\n', '/', '/', 'c'] ∧
      Text.Separates ['\n', '/', '/', 'c'] [] := by
  refine ⟨_, rfl, ?_⟩
  have htokens : ofText ['a', ' ', '/', '*', '\n', '*', '/', ' ', '"', 'b', '\n', '/', '/', 'c'] =
      [⟨.identifier, ['a'], ⟨0, 1, 1⟩, ⟨1, 1, 2⟩⟩, ⟨.other, ['"'], ⟨8, 2, 4⟩, ⟨9, 2, 5⟩⟩,
        ⟨.identifier, ['b'], ⟨9, 2, 5⟩, ⟨10, 2, 6⟩⟩] := by decide +kernel
  obtain ⟨-, hplaces, -, hgaps⟩ := ofText_partition
    ['a', ' ', '/', '*', '\n', '*', '/', ' ', '"', 'b', '\n', '/', '/', 'c']
  rw [htokens] at hplaces hgaps
  exact ⟨(hplaces ⟨.identifier, ['b'], ⟨9, 2, 5⟩, ⟨10, 2, 6⟩⟩ (by simp)).2.1, hgaps [_] [_, _] rfl,
    hgaps [_, _, _] [] rfl⟩

end Token

end Transcompiler
