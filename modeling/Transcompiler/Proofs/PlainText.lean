/-
# Plain Java text

The Java text that a unit is given is one line, and apart from the message for an
uncaught exception it holds no comment and no literal: all its characters are
plain. The members are checked piece by piece, as they are listed, and the text
that depends on the unit is plain because a program name is an identifier.
-/

import Transcompiler.Java.Scaffold
import Transcompiler.Proofs.Span

namespace Transcompiler

namespace Text

/-- Whether a character ends no line and begins no comment and no literal. -/
def isPlain (c : Char) : Bool :=
  c ≠ '\n' && c ≠ '/' && c ≠ '"' && c ≠ '\''

/-- A text of plain characters. -/
def Plain (text : Text) : Prop :=
  ∀ c ∈ text, isPlain c = true

instance (text : Text) : Decidable (Plain text) :=
  List.decidableBAll _ text

theorem plain_append_iff {left right : Text} :
    Plain (left ++ right) ↔ Plain left ∧ Plain right := by
  simp only [Plain, List.mem_append, or_imp, forall_and]

theorem Plain.append {left right : Text} (hleft : Plain left) (hright : Plain right) :
    Plain (left ++ right) :=
  plain_append_iff.mpr ⟨hleft, hright⟩

/-- The characters of a string are those it is made of. Written like this, the
characters of a literal are at hand without decoding it. -/
theorem plain_toList_ofList (cs : List Char) (h : cs.all isPlain = true) :
    Plain (String.ofList cs).toList := by
  rw [String.toList_ofList]
  exact List.all_eq_true.mp h

theorem toList_ofList_append (left right : List Char) :
    (String.ofList left).toList ++ right = (String.ofList (left ++ right)).toList := by
  rw [String.toList_ofList, String.toList_ofList]

theorem append_toList_ofList (left right : List Char) :
    left ++ (String.ofList right).toList = (String.ofList (left ++ right)).toList := by
  rw [String.toList_ofList, String.toList_ofList]

theorem map_toList_cons (cs : List Char) {strings : List String} {pieces : List Text}
    (h : strings.map String.toList = pieces) :
    (String.ofList cs :: strings).map String.toList = cs :: pieces := by
  rw [List.map_cons, String.toList_ofList, h]

theorem Plain.not_mem {text : Text} (h : Plain text) {c : Char} (hc : isPlain c = false) :
    c ∉ text := by
  intro hmem
  rw [h c hmem] at hc
  exact Bool.false_ne_true hc.symm

theorem isPlain_of_isIdentifierPart {c : Char} (hc : Lexeme.isIdentifierPart c = true) :
    isPlain c = true := by
  have hne (d : Char) (hd : Lexeme.isIdentifierPart d = false) : c ≠ d := by
    rintro rfl
    rw [hd] at hc
    exact Bool.false_ne_true hc
  simp [isPlain, hne '\n' rfl, hne '/' rfl, hne '"' rfl, hne '\'' rfl]

end Text

theorem Token.isIdentifierPart_of_identifier {text : Text} {token : Token}
    (h : token ∈ Token.ofText text) (hkind : token.kind = .identifier) :
    ∀ c ∈ token.text, Lexeme.isIdentifierPart c = true := by
  obtain ⟨behind, hleads⟩ := Token.exists_leads_of_mem h
  obtain ⟨⟨c, cs, htext, hstart, hpart⟩, -⟩ :=
    hleads.of_identifier (congrArg Lexeme.Category.token hkind)
  rw [show token.text = c :: cs from htext, List.forall_mem_cons]
  exact ⟨Lexeme.isIdentifierPart_of_isIdentifierStart hstart, hpart⟩

theorem Token.plain_of_identifier {text : Text} {token : Token} (h : token ∈ Token.ofText text)
    (hkind : token.kind = .identifier) : Text.Plain token.text := by
  intro c hc
  exact Text.isPlain_of_isIdentifierPart (Token.isIdentifierPart_of_identifier h hkind c hc)

namespace Scaffold

open Text (Plain plain_toList_ofList)

/-! ## Plain texts -/

theorem plain_classHeader : Plain classHeader :=
  plain_toList_ofList _ rfl

theorem plain_imports : Plain imports :=
  plain_toList_ofList _ rfl

theorem plain_renamedMain : Plain renamedMain :=
  plain_toList_ofList _ rfl

theorem plain_supportMembers : ∀ member ∈ supportMembers, Plain member.toList := by
  simp only [supportMembers, stateMembers, inputMembers, outputMembers, environmentMembers,
    List.forall_mem_append]
  refine ⟨⟨⟨?_, ?_⟩, ?_⟩, ?_⟩
  all_goals
    repeat refine List.forall_mem_cons.mpr ⟨plain_toList_ofList _ rfl, ?_⟩
    exact List.forall_mem_nil _

theorem plain_support : Plain support := by
  refine Plain.append ?_ (by decide)
  intro c hc
  obtain ⟨member, hmember, hmem⟩ := List.mem_flatMap.mp hc
  exact plain_supportMembers member hmember c hmem

/-- The text for `begin` is plain if the name of the program is. -/
theorem plain_prologue {programName : Text} (h : Plain programName) :
    Plain (prologue programName) :=
  ((plain_support.append (plain_toList_ofList _ rfl)).append h).append (plain_toList_ofList _ rfl)

/-! ## The text for the last brace -/

/-- The text for the last brace is plain on both sides of its one literal. -/
theorem exists_epilogue_eq :
    ∃ front back, epilogue = front ++ ('"' :: uncaughtFormat ++ '"' :: back) ∧
      Plain front ∧ front.head? = some '}' ∧ Plain back ∧ back.getLast? = some '}' := by
  have hopening : "\x7dcatch(Exception _$ex)\x7b System.out.printf(".toList ++ ['"'] =
      "\x7dcatch(Exception _$ex)\x7b System.out.printf(\"".toList := Text.toList_ofList_append _ _
  have harguments : ['"'] ++ ", _$ex.getClass().getName(), _$ex.getMessage()); ".toList =
      "\", _$ex.getClass().getName(), _$ex.getMessage()); ".toList := Text.append_toList_ofList _ _
  refine ⟨"\x7dcatch(Exception _$ex)\x7b System.out.printf(".toList,
    ", _$ex.getClass().getName(), _$ex.getMessage()); ".toList ++
      "\x7dfinally\x7b deinit(); System.exit(0);\x7d  \x7d \x7d".toList, ?_,
    plain_toList_ofList _ rfl, ?_,
    (plain_toList_ofList _ rfl).append (plain_toList_ofList _ rfl), ?_⟩
  · unfold epilogue
    rw [← hopening, ← harguments]
    simp only [List.append_assoc, List.cons_append, List.nil_append]
  · exact congrArg List.head? String.toList_ofList
  · rw [List.getLast?_append, Option.or_eq_some_iff]
    exact .inl (congrArg List.getLast? String.toList_ofList)

/-- The characters that could end the literal, its line or a comment are not in
it. -/
theorem not_mem_uncaughtFormat :
    '\n' ∉ uncaughtFormat ∧ '/' ∉ uncaughtFormat ∧ '"' ∉ uncaughtFormat ∧
      '\\' ∉ uncaughtFormat := by
  have hformat : uncaughtFormat = _ := String.toList_ofList
  rw [hformat]
  decide

/-- The text for the last brace ends no line. -/
theorem not_mem_epilogue : '\n' ∉ epilogue := by
  obtain ⟨front, back, hepilogue, hfront, -, hback, -⟩ := exists_epilogue_eq
  have hfeed : Text.isPlain '\n' = false := rfl
  rw [hepilogue]
  simp [hfront.not_mem hfeed, hback.not_mem hfeed, not_mem_uncaughtFormat]

/-- The text for the last brace closes no comment. -/
theorem commentEnd_not_infix_epilogue : ¬Lexeme.commentEnd <:+: epilogue := by
  obtain ⟨front, back, hepilogue, hfront, -, hback, -⟩ := exists_epilogue_eq
  have hslash : Text.isPlain '/' = false := rfl
  intro hholds
  have hmem : '/' ∈ epilogue := hholds.subset (by decide)
  rw [hepilogue] at hmem
  simp [hfront.not_mem hslash, hback.not_mem hslash, not_mem_uncaughtFormat] at hmem

/-- The text for the last brace has two quotes, so it closes no text block. -/
theorem tripleQuote_not_infix_epilogue : ¬Lexeme.tripleQuote <:+: epilogue := by
  obtain ⟨front, back, hepilogue, hfront, -, hback, -⟩ := exists_epilogue_eq
  have hquote : Text.isPlain '"' = false := rfl
  intro hholds
  have hcount := hholds.sublist.count_le '"'
  have hformat := List.count_eq_zero_of_not_mem not_mem_uncaughtFormat.2.2.1
  have hfront' := List.count_eq_zero_of_not_mem (hfront.not_mem hquote)
  have hback' := List.count_eq_zero_of_not_mem (hback.not_mem hquote)
  rw [hepilogue, List.cons_append, List.count_append, List.count_cons_self, List.count_append,
    List.count_cons_self, hfront', hformat, hback'] at hcount
  exact absurd hcount (by decide)

/-! ## First and last characters -/

theorem head?_classText : (imports ++ classHeader).head? = some 'i' := by
  have himports : imports = _ := String.toList_ofList
  rw [himports]
  rfl

theorem getLast?_classText : (imports ++ classHeader).getLast? = some 's' := by
  have hheader : classHeader = _ := String.toList_ofList
  rw [hheader, List.getLast?_append]
  rfl

theorem head?_renamedMain : renamedMain.head? = some '_' := by
  have hmain : renamedMain = _ := String.toList_ofList
  rw [hmain]
  rfl

theorem getLast?_renamedMain : renamedMain.getLast? = some 'n' := by
  have hmain : renamedMain = _ := String.toList_ofList
  rw [hmain]
  rfl

theorem head?_uncaughtFormat : uncaughtFormat.head? = some 'U' := by
  have hformat : uncaughtFormat = _ := String.toList_ofList
  rw [hformat]
  rfl

theorem head?_prologue (programName : Text) : (prologue programName).head? = some 'p' := by
  have hmember : "private final static char[] EMPTY_CHAR = new char[0]; ".toList = _ :=
    String.toList_ofList
  simp only [prologue, support, supportMembers, stateMembers, List.cons_append,
    List.flatMap_cons, List.append_assoc]
  rw [hmember]
  rfl

theorem getLast?_prologue (programName : Text) : (prologue programName).getLast? = some ' ' := by
  rw [prologue, List.getLast?_append, Option.or_eq_some_iff]
  exact .inl (congrArg List.getLast? String.toList_ofList)

theorem head?_epilogue : epilogue.head? = some '}' := by
  obtain ⟨front, back, hepilogue, -, hhead, -, -⟩ := exists_epilogue_eq
  rw [hepilogue, List.head?_append, hhead, Option.some_or]

theorem getLast?_epilogue : epilogue.getLast? = some '}' := by
  obtain ⟨front, back, hepilogue, -, -, -, hlast⟩ := exists_epilogue_eq
  obtain ⟨inner, rfl⟩ := List.getLast?_eq_some_iff.mp hlast
  have hjoined : epilogue = (front ++ ('"' :: uncaughtFormat ++ '"' :: inner)) ++ ['}'] := by
    rw [hepilogue]
    simp only [List.cons_append, List.append_assoc]
  rw [hjoined, List.getLast?_concat]

end Scaffold

end Transcompiler
