/-
# The tokens of the Java text

The edits of a unit are made on its characters, but they amount to a substitution
of tokens: lexing the Java text gives the tokens of the unit, with the tokens of
the fixed Java text for the landmarks and the new name for every use of `main`.
So no edit runs together with what stands next to it, and none opens or closes a
comment or a literal elsewhere in the unit.

The Java text is first read off the lexemes of the unit, with a text for each
edited token. These texts are then checked, one by one, to be substitutes in the
sense of `Token.Substitutes`. The one thing asked of the unit is that it holds no
quote that nothing closes: the text for the last brace has quotes of its own and
could close it.
-/

import Transcompiler.Proofs.Relexing
import Transcompiler.Proofs.Substitution

namespace Transcompiler

namespace Token

/-! ## Edits of tokens -/

/-- What a token reads as once some tokens of a text are edited. -/
def imageUnder (text : Text) (edited : Token → Bool) (edit : Token → Edit) (token : Token) : Text :=
  if edited token then
    (edit token).replacement ++ Text.slice text (edit token).stop token.stop.offset
  else token.text

/-- Splicing edits that each lie within a token reads other texts for the edited
tokens. -/
theorem spliceFrom_placed {text : Text} {edited : Token → Bool} {edit : Token → Edit}
    {position : Position} {lexemes : List Lexeme}
    (hrest : text.drop position.offset = Lexeme.joined lexemes)
    (hedit : ∀ token ∈ placed position lexemes,
      (edit token).start = token.start.offset ∧ (edit token).stop ≤ token.stop.offset) :
    Edit.spliceFrom text position.offset (((placed position lexemes).filter edited).map edit) =
      readFrom (imageUnder text edited edit) position lexemes := by
  induction lexemes generalizing position with
  | nil => exact hrest
  | cons lexeme lexemes ih =>
    obtain ⟨category, front⟩ := lexeme
    rw [Lexeme.joined_cons] at hrest
    have hoffset := position.offset_after front
    have hbehind : text.drop (position.after front).offset = Lexeme.joined lexemes := by
      rw [hoffset, ← List.drop_drop, hrest, List.drop_left]
    have hfront : Text.slice text position.offset (position.after front).offset = front := by
      rw [Text.slice_eq_take_drop, hoffset, hrest, Nat.add_sub_cancel_left, List.take_left]
    -- Copying goes on up to the end of this lexeme, whatever is edited behind it.
    have hcopy (offset : Nat) (hle : offset ≤ (position.after front).offset)
        (hedit : ∀ token ∈ placed (position.after front) lexemes,
          (edit token).start = token.start.offset ∧ (edit token).stop ≤ token.stop.offset) :
        Edit.spliceFrom text offset
            (((placed (position.after front) lexemes).filter edited).map edit) =
          Text.slice text offset (position.after front).offset ++
            readFrom (imageUnder text edited edit) (position.after front) lexemes := by
      rw [← ih hbehind hedit]
      apply Edit.spliceFrom_eq_slice_append text hle
      intro later hlater
      obtain ⟨token, htoken, rfl⟩ := List.mem_map.mp (List.mem_of_mem_head? hlater)
      have hmem := (List.mem_filter.mp htoken).1
      rw [(hedit token hmem).1]
      exact offset_le_of_mem_placed hmem
    cases category with
    | gap gap =>
      rw [placed_cons_gap] at hedit ⊢
      rw [hcopy position.offset (by omega) hedit, hfront]
      rfl
    | token kind =>
      rw [placed_cons_token, List.forall_mem_cons] at hedit
      obtain ⟨⟨hstart, hstop⟩, hedit⟩ := hedit
      rw [placed_cons_token]
      by_cases hedited : edited ⟨kind, front, position, position.after front⟩ = true
      · rw [List.filter_cons_of_pos hedited, List.map_cons, Edit.spliceFrom, hcopy _ hstop hedit,
          hstart, Text.slice_self, List.nil_append, readFrom]
        simp only [imageUnder, hedited, if_true, List.append_assoc]
      · rw [List.filter_cons_of_neg hedited, hcopy position.offset (by omega) hedit, hfront,
          readFrom]
        simp only [imageUnder, hedited]
        rfl

end Token

namespace Scaffold

open Token (contents)

/-- The text for the last brace is lexed alike in front of every text. -/
theorem contents_epilogue_append (rest : Text) :
    contents (epilogue ++ rest) = contents epilogue ++ contents rest := by
  obtain ⟨front, back, hepilogue, hfront, -, hback, hlast⟩ := exists_epilogue_eq
  have hliteral (more : Text) :
      Lexeme.Leads ⟨.token .string, '"' :: (uncaughtFormat ++ ['"'])⟩ more := by
    obtain ⟨hfeed, -, hquote, hbackslash⟩ := not_mem_uncaughtFormat
    refine .string (Lexeme.throughQuote_of_not_mem hquote hbackslash hfeed (by decide)) ?_
    rw [Lexeme.delimited_eq_none_iff (by decide)]
    intro inner hinner
    obtain ⟨cs, hcs⟩ := List.head?_eq_some_iff.mp head?_uncaughtFormat
    simp [hcs, Lexeme.tripleQuote] at hinner
  have hparts (more : Text) : contents (epilogue ++ more) =
      contents front ++ (.string, '"' :: (uncaughtFormat ++ ['"'])) ::
        (contents back ++ contents more) := by
    have hjoined : epilogue ++ more =
        front ++ ('"' :: (uncaughtFormat ++ ['"']) ++ (back ++ more)) := by
      rw [hepilogue]
      simp only [List.cons_append, List.append_assoc, List.nil_append]
    have hquote := Token.contents_of_leads (hliteral (back ++ more))
    rw [hjoined, Token.contents_append_of_plain hfront, hquote,
      Token.contents_append_of_plain hback]
    · rfl
    · intro c hc hpart
      rw [hlast] at hc
      cases hc
      exact absurd hpart (by decide)
    · intro c _ _ d hd
      cases hd
      rfl
  have halone := hparts []
  rw [List.append_nil, Token.contents_nil, List.append_nil] at halone
  rw [hparts, halone, List.append_assoc, List.cons_append]

theorem contents_renamedMain : contents renamedMain = [(.identifier, renamedMain)] := by
  have hmain : renamedMain = _ := String.toList_ofList
  have hleads : Lexeme.Leads ⟨.token .identifier, renamedMain⟩ [] := by
    rw [hmain]
    exact .identifier rfl (List.all_eq_true.mp rfl) (by simp)
  exact Token.contents_text hleads

end Scaffold

namespace Outline.Layout

open Token (contents Substitutes)
open Lexeme (isIdentifierPart isInert)

variable {text : Text} (layout : Layout text)

/-! ## The text for a token -/

/-- What a token of a unit reads as in the Java text. -/
def image : Token → Text :=
  Token.imageUnder text (· ∈ layout.edited) (editOf layout.name.text)

/-- In the order of the text, the edits are those of the edited tokens. -/
theorem frontToBack_edits :
    Edit.frontToBack layout.outline.edits =
      ((Token.ofText text).filter (· ∈ layout.edited)).map (editOf layout.name.text) := by
  symm
  apply Edit.eq_frontToBack layout.spaced_edits
  · have hsame : ((Token.ofText text).filter (· ∈ layout.edited)).Perm layout.edited := by
      rw [List.perm_ext_iff_of_nodup ((Token.nodup_ofText text).filter _) layout.nodup_edited]
      intro token
      rw [List.mem_filter, decide_eq_true_eq]
      exact and_iff_right_of_imp layout.mem_of_mem_edited
    rw [layout.edits_eq]
    exact hsame.map _
  · rw [List.pairwise_map]
    refine ((Token.pairwise_ofText text).sublist List.filter_sublist).imp_of_mem ?_
    intro a b ha _ hle
    have hlt := (Token.inText_of_mem (List.mem_filter.mp ha).1).start_lt_stop
    rw [Edit.Follows, editOf_start, editOf_start, editOf_stop]
    split_ifs <;> omega

/-- The Java text reads the edited tokens in their images and all else as it is. -/
theorem applyAll_edits_eq_readFrom :
    Edit.applyAll text layout.outline.edits =
      Token.readFrom layout.image .start (Lexeme.all text) := by
  have hdrop : text.drop Position.start.offset = Lexeme.joined (Lexeme.all text) :=
    (Lexeme.joined_all text).symm
  have hedit : ∀ token ∈ Token.placed .start (Lexeme.all text),
      (editOf layout.name.text token).start = token.start.offset ∧
        (editOf layout.name.text token).stop ≤ token.stop.offset := by
    intro token hmem
    have hlt := (Token.inText_of_mem hmem).start_lt_stop
    rw [editOf_start, editOf_stop]
    split_ifs <;> omega
  rw [Edit.applyAll_eq_simultaneous layout.spaced_edits, Edit.simultaneous,
    layout.frontToBack_edits]
  exact Token.spliceFrom_placed hdrop hedit

theorem image_of_not_mem {token : Token} (h : token ∉ layout.edited) :
    layout.image token = token.text := by
  simp [image, Token.imageUnder, h]

theorem image_prog : layout.image layout.prog = Scaffold.imports ++ Scaffold.classHeader := by
  have hmem : layout.prog ∈ layout.edited := layout.mem_edited_iff.mpr (.inl rfl)
  simp [image, Token.imageUnder, hmem, editOf_prog _ layout.prog_isWord, Text.slice_self]

theorem image_begin : layout.image layout.begin = Scaffold.prologue layout.name.text := by
  have hmem : layout.begin ∈ layout.edited := layout.mem_edited_iff.mpr (.inr (.inl rfl))
  simp [image, Token.imageUnder, hmem, editOf_begin _ layout.begin_isWord, Text.slice_self]

theorem image_closeBrace : layout.image layout.closeBrace = Scaffold.epilogue := by
  have hmem : layout.closeBrace ∈ layout.edited :=
    layout.mem_edited_iff.mpr (.inr (.inr (.inl rfl)))
  simp [image, Token.imageUnder, hmem, editOf_closeBrace _ layout.closeBrace_kind, Text.slice_self]

theorem image_bareBrace {token : Token}
    (h : token ∈ (Token.ofText text).filter (isBareBrace text)) :
    layout.image token = [' ', '{'] := by
  have hmem : token ∈ layout.edited := layout.mem_edited_iff.mpr (.inr (.inr (.inr (.inl h))))
  have htoken := layout.mem_of_mem_edited hmem
  have hkind := kind_of_mem_bareBraces h
  have hbrace : token.text = ['{'] := Token.text_eq_of_kind htoken hkind (by decide)
  simp [image, Token.imageUnder, hmem, editOf_openBrace _ hkind,
    (Token.inText_of_mem htoken).slice_eq, hbrace]

theorem image_main {token : Token} (h : token ∈ renamedMains (Token.ofText text)) :
    layout.image token = Scaffold.renamedMain := by
  have hmem : token ∈ layout.edited := layout.mem_edited_iff.mpr (.inr (.inr (.inr (.inr h))))
  simp [image, Token.imageUnder, hmem, editOf_main _ (isWord_of_mem_renamedMains h),
    Text.slice_self]

/-! ## The texts are substitutes -/

section Substitutes

variable {layout} {token : Token} {image : Text} {c d : Char}

/-- A text for an edited token does not change how its neighbours are lexed if its
first and its last character are right and it holds no closing delimiter. -/
theorem replaces_of_mem_edited (h : token ∈ layout.edited) (hhead : image.head? = some c)
    (hlast : image.getLast? = some d) (hc : isInert c = true) (hd : isInert d = true)
    (hword : isIdentifierPart c = true → token.kind = .identifier)
    (hcomment : ¬Lexeme.commentEnd <:+: image) (hblock : ¬Lexeme.tripleQuote <:+: image) :
    Lexeme.Replaces token.text image where
  stretch_head := by
    have hmem := layout.mem_of_mem_edited h
    obtain ⟨e, es, htext⟩ := List.exists_cons_of_ne_nil (Token.inText_of_mem hmem).text_ne_nil
    have hplain : Text.isPlain e = true :=
      layout.plain_of_mem_edited h e (by rw [htext]; exact List.mem_cons_self)
    refine ⟨e, es, htext, ?_⟩
    rintro rfl
    exact absurd hplain (by decide)
  head := by
    obtain ⟨cs, himage⟩ := List.head?_eq_some_iff.mp hhead
    exact ⟨c, cs, himage, hc⟩
  isIdentifierPart_head := by
    intro e he hpart f hf
    rw [hhead] at he
    cases he
    obtain ⟨behind, hleads⟩ := Token.exists_leads_of_mem (layout.mem_of_mem_edited h)
    obtain ⟨⟨g, gs, htext, hstart, -⟩, -⟩ :=
      hleads.of_identifier (congrArg Lexeme.Category.token (hword hpart))
    rw [show token.text = g :: gs from htext] at hf
    cases hf
    exact Lexeme.isIdentifierPart_of_isIdentifierStart hstart
  last := by
    intro e he
    rw [hlast] at he
    cases he
    exact hd
  commentEnd := hcomment
  tripleQuote := hblock

theorem substitutes_of_plain (h : token ∈ layout.edited) (hplain : Text.Plain image)
    (hhead : image.head? = some c) (hlast : image.getLast? = some d) (hc : isInert c = true)
    (hd : isInert d = true)
    (hword : isIdentifierPart c = true ∨ isIdentifierPart d = true → token.kind = .identifier) :
    Substitutes token image where
  toReplaces := by
    have hslash : Text.isPlain '/' = false := rfl
    have hquote : Text.isPlain '"' = false := rfl
    refine replaces_of_mem_edited h hhead hlast hc hd (fun hpart => hword (.inl hpart)) ?_ ?_
    · exact fun hholds => hplain.not_mem hslash (hholds.subset (by decide))
    · exact fun hholds => hplain.not_mem hquote (hholds.subset (by decide))
  contents_append := by
    intro rest hrest
    apply Token.contents_append_of_plain hplain
    intro e he hpart
    rw [hlast] at he
    cases he
    exact hrest (hword (.inr hpart))

theorem substitutes_epilogue (h : token ∈ layout.edited) : Substitutes token Scaffold.epilogue where
  toReplaces := replaces_of_mem_edited h Scaffold.head?_epilogue Scaffold.getLast?_epilogue rfl rfl
    (fun hpart => absurd hpart (by decide)) Scaffold.commentEnd_not_infix_epilogue
    Scaffold.tripleQuote_not_infix_epilogue
  contents_append := fun rest _ => Scaffold.contents_epilogue_append rest

end Substitutes

/-- Every token of a unit is read as it is, or as a substitute. -/
theorem image_eq_or_substitutes (token : Token) :
    layout.image token = token.text ∨ Substitutes token (layout.image token) := by
  by_cases hmem : token ∈ layout.edited
  · right
    rcases layout.mem_edited_iff.mp hmem with rfl | rfl | rfl | hbare | hmain
    · rw [layout.image_prog]
      exact substitutes_of_plain hmem (Scaffold.plain_imports.append Scaffold.plain_classHeader)
        Scaffold.head?_classText Scaffold.getLast?_classText rfl rfl
        (fun _ => (Token.isWord_iff.mp layout.prog_isWord).1)
    · rw [layout.image_begin]
      have hname := Token.plain_of_identifier layout.name_mem layout.name_kind
      exact substitutes_of_plain hmem (Scaffold.plain_prologue hname)
        (Scaffold.head?_prologue _) (Scaffold.getLast?_prologue _) rfl rfl
        (fun _ => (Token.isWord_iff.mp layout.begin_isWord).1)
    · rw [layout.image_closeBrace]
      exact substitutes_epilogue hmem
    · rw [layout.image_bareBrace hbare]
      have hhead : [' ', '{'].head? = some ' ' := rfl
      have hlast : [' ', '{'].getLast? = some '{' := rfl
      exact substitutes_of_plain hmem (by decide) hhead hlast rfl rfl
        (fun hpart => absurd hpart (by decide))
    · rw [layout.image_main hmain]
      exact substitutes_of_plain hmem Scaffold.plain_renamedMain Scaffold.head?_renamedMain
        Scaffold.getLast?_renamedMain rfl rfl
        (fun _ => (Token.isWord_iff.mp (isWord_of_mem_renamedMains hmain)).1)
  · exact .inl (layout.image_of_not_mem hmem)

/-- Lexing the Java text gives the tokens of all images. -/
theorem contents_applyAll_edits
    (hquote : ∀ token ∈ Token.ofText text, Lexeme.isLoneQuote token.kind token.text = false) :
    contents (Edit.applyAll text layout.outline.edits) =
      (Token.ofText text).flatMap fun token => contents (layout.image token) := by
  rw [layout.applyAll_edits_eq_readFrom]
  exact Token.contents_readFrom (Lexeme.chained_all text) hquote
    (fun token _ => layout.image_eq_or_substitutes token)

/-! ## Which tokens have another text -/

theorem eq_prog_of_isWord {token : Token} (h : token ∈ Token.ofText text)
    (hword : token.isWord "prog" = true) : token = layout.prog :=
  eq_of_countP_eq_one layout.prog_once h layout.prog_mem hword layout.prog_isWord

theorem eq_begin_of_isWord {token : Token} (h : token ∈ Token.ofText text)
    (hword : token.isWord "begin" = true) : token = layout.begin :=
  eq_of_countP_eq_one layout.begin_once h layout.begin_mem hword layout.begin_isWord

section Split

variable {token : Token} {front behind : List Token}

/-- The last closing brace has no closing brace behind it, and is the only one. -/
theorem eq_closeBrace_iff (hsplit : Token.ofText text = front ++ token :: behind) :
    token = layout.closeBrace ↔
      token.kind = .closeBrace ∧ ∀ other ∈ behind, other.kind ≠ .closeBrace := by
  have hlast := layout.isLastCloseBrace
  constructor
  · rintro rfl
    refine ⟨hlast.1, ?_⟩
    intro other hmem hkind
    have hle := hlast.2 other (by simp [hsplit, hmem]) hkind
    have hlt := Token.start_lt_of_mem_rest hsplit hmem
    omega
  · rintro ⟨hkind, hbehind⟩
    have hmem := layout.closeBrace_mem
    have hle := hlast.2 token (by simp [hsplit]) hkind
    rw [hsplit, List.mem_append, List.mem_cons] at hmem
    rcases hmem with hmem | heq | hmem
    · -- A last brace in front of the token would have the token behind it.
      obtain ⟨before, between, rfl⟩ := List.append_of_mem hmem
      rw [List.append_assoc, List.cons_append] at hsplit
      have hlater : token ∈ between ++ token :: behind := by simp
      have hlt := Token.start_lt_of_mem_rest hsplit hlater
      omega
    · exact heq.symm
    · exact absurd layout.closeBrace_kind (hbehind _ hmem)

end Split

end Outline.Layout

namespace Outline

/-- A token is renamed if the unit declares `main`, and it is `main` with an
opening parenthesis behind it. -/
theorem mem_renamedMains_iff {text : Text} {token : Token} {front behind : List Token}
    (hsplit : Token.ofText text = front ++ token :: behind) :
    token ∈ renamedMains (Token.ofText text) ↔
      declaresMain (Token.ofText text) = true ∧ token.isWord "main" = true ∧
        ∃ next ∈ behind.head?, next.kind = .openParen := by
  have huses : token ∈ mainUses (Token.ofText text) ↔
      token.isWord "main" = true ∧ ∃ next ∈ behind.head?, next.kind = .openParen := by
    rw [mem_mainUses_iff]
    constructor
    · rintro ⟨next, ⟨before, rest, hholds⟩, hword, hkind⟩
      have hsame : front ++ token :: behind = before ++ token :: (next :: rest) := by
        rw [← hsplit, ← hholds]
        simp
      obtain ⟨hfront, hbehind⟩ := Token.not_mem_of_split hsplit
      obtain ⟨-, -, rfl⟩ := (List.append_cons_inj_of_notMem hfront hbehind).mp hsame
      exact ⟨hword, next, rfl, hkind⟩
    · rintro ⟨hword, next, hnext, hkind⟩
      obtain ⟨rest, rfl⟩ := List.head?_eq_some_iff.mp hnext
      refine ⟨next, ⟨front, rest, ?_⟩, hword, hkind⟩
      rw [hsplit]
      simp
  rw [renamedMains]
  split
  · next hdeclares => simp [hdeclares, huses]
  · next hdeclares => simp [hdeclares]

/-- The tokens that stand in the Java text for a token of a unit, given the tokens
behind it. -/
def javaContent (programName : Text) (renames : Bool) (token : Token) (behind : List Token) :
    List (TokenKind × Text) :=
  if token.isWord "prog" then Token.contents (Scaffold.imports ++ Scaffold.classHeader)
  else if token.isWord "begin" then Token.contents (Scaffold.prologue programName)
  else if token.kind = .closeBrace ∧ ∀ other ∈ behind, other.kind ≠ .closeBrace then
    Token.contents Scaffold.epilogue
  else if renames = true ∧ token.isWord "main" = true ∧
      ∃ next ∈ behind.head?, next.kind = .openParen then [(.identifier, "_$main".toList)]
  else [token.content]

/-- The tokens that stand in the Java text for the tokens of a unit. -/
def javaContents (programName : Text) (renames : Bool) : List Token → List (TokenKind × Text)
  | [] => []
  | token :: behind =>
    javaContent programName renames token behind ++ javaContents programName renames behind

/-- The text for a token of a unit has the tokens that are to stand for it. -/
theorem Layout.contents_image {text : Text} (layout : Layout text) {token : Token}
    {front behind : List Token} (hsplit : Token.ofText text = front ++ token :: behind) :
    Token.contents (layout.image token) =
      javaContent layout.name.text (declaresMain (Token.ofText text)) token behind := by
  have hmem : token ∈ Token.ofText text := by simp [hsplit]
  unfold javaContent
  split_ifs with hprog hbegin hclose hmain
  · rw [layout.eq_prog_of_isWord hmem hprog, layout.image_prog]
  · rw [layout.eq_begin_of_isWord hmem hbegin, layout.image_begin]
  · rw [(layout.eq_closeBrace_iff hsplit).mpr hclose, layout.image_closeBrace]
  · rw [layout.image_main ((mem_renamedMains_iff hsplit).mpr hmain)]
    exact Scaffold.contents_renamedMain
  · by_cases hbare : token ∈ (Token.ofText text).filter (isBareBrace text)
    · have hkind := kind_of_mem_bareBraces hbare
      have hbrace : token.text = ['{'] := Token.text_eq_of_kind hmem hkind (by decide)
      obtain ⟨rest, hleads⟩ := Token.exists_leads_of_mem hmem
      have hspace : ∀ c ∈ [' '], Text.isBlank c = true := List.all_eq_true.mp rfl
      have htext : [' ', '{'] = [' '] ++ token.text := by rw [hbrace]; rfl
      rw [layout.image_bareBrace hbare, htext, Token.contents_blank_append _ hspace]
      exact Token.contents_text hleads
    · have hkept : token ∉ layout.edited := by
        rw [layout.mem_edited_iff]
        rintro (rfl | rfl | rfl | hedited | hedited)
        · exact hprog layout.prog_isWord
        · exact hbegin layout.begin_isWord
        · exact hclose ((layout.eq_closeBrace_iff hsplit).mp rfl)
        · exact hbare hedited
        · exact hmain ((mem_renamedMains_iff hsplit).mp hedited)
      obtain ⟨rest, hleads⟩ := Token.exists_leads_of_mem hmem
      rw [layout.image_of_not_mem hkept]
      exact Token.contents_text hleads

theorem Layout.flatMap_contents_image {text : Text} (layout : Layout text)
    {front behind : List Token} (hsplit : Token.ofText text = front ++ behind) :
    (behind.flatMap fun token => Token.contents (layout.image token)) =
      javaContents layout.name.text (declaresMain (Token.ofText text)) behind := by
  induction behind generalizing front with
  | nil => rfl
  | cons token behind ih =>
    have hrest : Token.ofText text = (front ++ [token]) ++ behind := by
      rw [hsplit, List.append_assoc, List.singleton_append]
    rw [List.flatMap_cons, javaContents, layout.contents_image hsplit, ih hrest]

/-- The tokens that stand in the Java text for a token of a unit with a known
outline. -/
def standIn (outline : Outline) (token : Token) : List (TokenKind × Text) :=
  if token.start.offset = outline.prog then
    Token.contents (Scaffold.imports ++ Scaffold.classHeader)
  else if token.start.offset = outline.begin then
    Token.contents (Scaffold.prologue outline.programName)
  else if token.start.offset = outline.closeBrace then Token.contents Scaffold.epilogue
  else if token.start.offset ∈ outline.entryPoints then [(.identifier, "_$main".toList)]
  else [token.content]

/-- The places of an outline find the tokens that have another text. -/
theorem Layout.contents_image_eq_standIn {text : Text} (layout : Layout text) {token : Token}
    (hmem : token ∈ Token.ofText text) :
    Token.contents (layout.image token) = layout.outline.standIn token := by
  obtain ⟨front, behind, hsplit⟩ := List.append_of_mem hmem
  have hprog : token.isWord "prog" = true ↔ token.start.offset = layout.outline.prog := by
    constructor
    · intro hword
      rw [layout.eq_prog_of_isWord hmem hword]
      rfl
    · intro hstart
      rw [Token.eq_of_start_eq hmem layout.prog_mem hstart]
      exact layout.prog_isWord
  have hbegin : token.isWord "begin" = true ↔ token.start.offset = layout.outline.begin := by
    constructor
    · intro hword
      rw [layout.eq_begin_of_isWord hmem hword]
      rfl
    · intro hstart
      rw [Token.eq_of_start_eq hmem layout.begin_mem hstart]
      exact layout.begin_isWord
  have hclose : (token.kind = .closeBrace ∧ ∀ other ∈ behind, other.kind ≠ .closeBrace) ↔
      token.start.offset = layout.outline.closeBrace := by
    rw [← layout.eq_closeBrace_iff hsplit]
    exact ⟨fun heq => congrArg (·.start.offset) heq,
      Token.eq_of_start_eq hmem layout.closeBrace_mem⟩
  have hmain : (declaresMain (Token.ofText text) = true ∧ token.isWord "main" = true ∧
      ∃ next ∈ behind.head?, next.kind = .openParen) ↔
      token.start.offset ∈ layout.outline.entryPoints := by
    rw [← mem_renamedMains_iff hsplit]
    constructor
    · exact fun hrenamed => List.mem_map_of_mem hrenamed
    · intro hstart
      obtain ⟨main, hrenamed, heq⟩ := List.mem_map.mp hstart
      rwa [← Token.eq_of_start_eq ((renamedMains_sublist _).subset hrenamed) hmem heq]
  rw [layout.contents_image hsplit, javaContent, standIn]
  exact if_congr hprog rfl (if_congr hbegin rfl (if_congr hclose rfl (if_congr hmain rfl rfl)))

theorem Layout.standIn_begin {text : Text} (layout : Layout text) :
    layout.outline.standIn layout.begin =
      Token.contents (Scaffold.prologue layout.outline.programName) := by
  rw [← layout.contents_image_eq_standIn layout.begin_mem, layout.image_begin]
  rfl

theorem Layout.standIn_closeBrace {text : Text} (layout : Layout text) :
    layout.outline.standIn layout.closeBrace = Token.contents Scaffold.epilogue := by
  rw [← layout.contents_image_eq_standIn layout.closeBrace_mem, layout.image_closeBrace]

/-- Lexing the Java text gives what stands for the tokens of the unit. -/
theorem Layout.contents_ofOutline {text : Text} (layout : Layout text)
    (hquote : ∀ token ∈ Token.ofText text, token.kind = .other →
      token.text ≠ ['"'] ∧ token.text ≠ ['\'']) :
    Token.contents (JavaUnit.ofOutline text layout.outline).source =
      (Token.ofText text).flatMap layout.outline.standIn := by
  have hclosed : ∀ token ∈ Token.ofText text,
      Lexeme.isLoneQuote token.kind token.text = false := by
    intro token hmem
    have htoken := hquote token hmem
    rw [Lexeme.isLoneQuote]
    simpa using htoken
  exact (layout.contents_applyAll_edits hclosed).trans
    (List.flatMap_congr fun token hmem => layout.contents_image_eq_standIn hmem)

end Outline

/-- Lexing the Java text of a unit gives the tokens of the unit, with other tokens
for `prog`, `begin` and the last closing brace, and with a new name for the uses
of a `main` that the unit declares. -/
theorem JavaUnit.contents_source {text : Text} {outline : Outline}
    (h : Outline.ofText text = .ok outline)
    (hquote : ∀ token ∈ Token.ofText text, token.kind = .other →
      token.text ≠ ['"'] ∧ token.text ≠ ['\'']) :
    ∃ unit, ofText text = .ok unit ∧
      (Token.ofText unit.source).map Token.content =
        Outline.javaContents outline.programName (Outline.declaresMain (Token.ofText text))
          (Token.ofText text) ∧
      (Outline.declaresMain (Token.ofText text) = true ↔
        ∃ a b c, [a, b, c] <:+: Token.ofText text ∧ a.isWord "static" = true ∧
          b.isWord "void" = true ∧ c.isWord "main" = true) := by
  obtain ⟨layout, rfl⟩ := Outline.exists_layout_of_ofText h
  refine ⟨_, ofText_eq_ok_iff.mpr ⟨_, h, rfl⟩, ?_, Outline.declaresMain_iff⟩
  have hclosed : ∀ token ∈ Token.ofText text,
      Lexeme.isLoneQuote token.kind token.text = false := by
    intro token hmem
    have htoken := hquote token hmem
    rw [Lexeme.isLoneQuote]
    simpa using htoken
  have hall : Token.ofText text = [] ++ Token.ofText text := rfl
  exact (layout.contents_applyAll_edits hclosed).trans (layout.flatMap_contents_image hall)

theorem JavaUnit.contents_source_of_comment :
    ∃ text unit,
      text = "prog A\x7bstatic void main()\x7b\x7d/* \" */begin\x7bmain();x=1/2;\x7d\x7d".toList ∧
      ofText text = .ok unit ∧
      (Token.ofText unit.source).map Token.content =
        Outline.javaContents ['A'] true (Token.ofText text) := by
  have haccepted : Outline.ofText
      "prog A\x7bstatic void main()\x7b\x7d/* \" */begin\x7bmain();x=1/2;\x7d\x7d".toList =
      .ok ⟨0, 6, 34, 54, ['A'], none, [6, 25, 39], [19, 40]⟩ := by decide +kernel
  have hdeclares : Outline.declaresMain (Token.ofText
      "prog A\x7bstatic void main()\x7b\x7d/* \" */begin\x7bmain();x=1/2;\x7d\x7d".toList) =
      true := by decide +kernel
  obtain ⟨unit, hunit, hcontents, -⟩ := contents_source haccepted (by decide +kernel)
  rw [hdeclares] at hcontents
  exact ⟨_, unit, rfl, hunit, hcontents⟩

end Transcompiler
