/-
# The names of a unit

The Java compiler asks that a public class and its file have one name, and a
constructor is one only under the name of its class. The three names of a unit
come by different ways: the class has the text of the unit behind `prog`, the
constructor has the name that the outline gives, and the file has the last part
of the name under which the unit is compiled. This module shows that all three
are the name of the program.

The place of the class and of the constructor in the Java text is given by the
edits in front of them: an edit in its surroundings is `Edit.applyAll_eq_append_of_mem`.
-/

import Transcompiler.Javac.Placement
import Transcompiler.Proofs.Translation

namespace Transcompiler

/-! ## The file -/

namespace Path

/-- A text that names an entry of a directory: it is one step on a way, and leads
neither to the directory itself nor to its parent. -/
def IsEntryName (name : Text) : Prop :=
  name ∉ [[], ['.'], ['.', '.']] ∧ '/' ∉ name

theorem ofText_of_isEntryName {name : Text} (h : IsEntryName name) :
    ofText name = ⟨.relative, [name]⟩ := by
  obtain ⟨hname, hslash⟩ := h
  simp only [List.mem_cons, List.not_mem_nil, or_false, not_or] at hname
  have hroot : rootOf name = .relative := by
    obtain ⟨c, cs, rfl⟩ := List.exists_cons_of_ne_nil hname.1
    have hhead : c ≠ '/' := fun heq => hslash (heq ▸ List.mem_cons_self)
    simp [rootOf, hhead]
  have hsegments : [name].filter (fun segment => segment ≠ [] ∧ segment ≠ ['.']) = [name] :=
    List.filter_cons_of_pos (by simp [hname])
  rw [ofText, hroot, Text.splitAtEvery_of_not_mem hslash, hsegments]

end Path

/-- A unit name with one part that is not empty leads to an entry of the directory. -/
theorem Javac.unitPath_of_parts (directory : Path) {unitName part : Text}
    (hparts : (Text.splitAtEvery '.' unitName).filter (· ≠ []) = [part])
    (hentry : Path.IsEntryName (part ++ ".java".toList)) :
    unitPath directory unitName =
      .ok { directory with segments := directory.segments ++ [part ++ ".java".toList] } := by
  have hjoin : directory.join (Path.ofText (part ++ ".java".toList)) =
      { directory with segments := directory.segments ++ [part ++ ".java".toList] } := by
    rw [Path.ofText_of_isEntryName hentry]
    rfl
  rw [unitPath, hparts]
  exact congrArg Except.ok hjoin

namespace Outline

theorem not_mem_of_isIdentifier {name : Text} {c : Char} (h : isIdentifier name = true)
    (hc : Lexeme.isIdentifierPart c = false) : c ∉ name := by
  obtain ⟨d, cs, rfl, hstart, hpart⟩ := isIdentifier_iff.mp h
  intro hmem
  rcases List.mem_cons.mp hmem with rfl | hmem
  · rw [Lexeme.isIdentifierPart_of_isIdentifierStart hstart] at hc
    contradiction
  · rw [hpart c hmem] at hc
    contradiction

theorem isEntryName_of_isIdentifier {name : Text} (h : isIdentifier name = true) :
    Path.IsEntryName (name ++ ".java".toList) := by
  have hsuffix : ".java".toList = ['.', 'j', 'a', 'v', 'a'] := String.toList_ofList
  have hslash : '/' ∉ name := not_mem_of_isIdentifier h rfl
  rw [hsuffix]
  constructor
  · -- All three exceptions are shorter than the suffix.
    intro hmem
    have hlength : (name ++ ['.', 'j', 'a', 'v', 'a']).length ≤ 2 := by
      simp only [List.mem_cons, List.not_mem_nil, or_false] at hmem
      rcases hmem with heq | heq | heq <;> rw [heq] <;> decide
    rw [List.length_append] at hlength
    exact absurd hlength (by simp)
  · rw [List.mem_append, not_or]
    exact ⟨hslash, by decide⟩

end Outline

/-- The parts of the name under which a unit is compiled are the program name, and
an empty one in front of it if the unit has no package clause. -/
theorem JavaUnit.parts_logicalName (text : Text) {outline : Outline}
    (h : Outline.isIdentifier outline.programName = true) :
    (Text.splitAtEvery '.' (ofOutline text outline).logicalName).filter (· ≠ []) =
      [outline.programName] := by
  have hname : outline.programName ≠ [] := by
    intro hnil
    rw [hnil] at h
    contradiction
  have hparts := Text.splitAtEvery_of_not_mem (Outline.not_mem_of_isIdentifier h (c := '.') rfl)
  cases hpackage : outline.package with
  | some clause =>
    have hlogical : (ofOutline text outline).logicalName = outline.programName := by
      simp [logicalName, ofOutline, hpackage]
    rw [hlogical, hparts]
    simp [hname]
  | none =>
    have hlogical : (ofOutline text outline).logicalName = '.' :: outline.programName := by
      simp [logicalName, ofOutline, hpackage]
    rw [hlogical, Text.splitAtEvery, if_pos rfl, hparts]
    simp [hname]

/-! ## The class and its constructor -/

namespace Outline

/-- The Java text for what stands in front of an offset of a unit. -/
def javaBefore (outline : Outline) (text : Text) (offset : Nat) : Text :=
  Edit.applyAll (text.take offset) (outline.edits.filter (·.start < offset))

namespace Layout

variable {text : Text} (layout : Layout text)

theorem openBrace_mem : layout.openBrace ∈ Token.ofText text := by
  simp [layout.tokens_eq]

/-- The name of the program is left as it is. -/
theorem name_not_mem_edited : layout.name ∉ layout.edited := by
  have hprog := Token.start_lt_of_mem_rest layout.tokens_eq (b := layout.name) (by simp)
  have hbegin := Token.start_lt_of_mem_rest layout.tokens_from_name (b := layout.begin) (by simp)
  intro hmem
  rcases layout.mem_edited_iff.mp hmem with heq | heq | heq | hbare | hmain
  · rw [heq] at hprog
    exact Nat.lt_irrefl _ hprog
  · rw [← heq] at hbegin
    exact Nat.lt_irrefl _ hbegin
  · have hkind := layout.name_kind
    rw [heq, layout.closeBrace_kind] at hkind
    contradiction
  · have hkind := kind_of_mem_bareBraces hbare
    rw [layout.name_kind] at hkind
    contradiction
  · -- A `main` is renamed only in front of a parenthesis, and a brace follows here.
    obtain ⟨-, -, next, hnext, hkind⟩ := (mem_renamedMains_iff layout.tokens_from_name).mp hmain
    cases hnext
    rw [layout.openBrace_kind] at hkind
    contradiction

/-- Behind `prog` nothing is edited in front of the opening brace. -/
theorem eq_openBrace_or_lt {token : Token} (hmem : token ∈ layout.edited)
    (hlt : layout.prog.start.offset < token.start.offset) :
    token = layout.openBrace ∨ layout.openBrace.start.offset < token.start.offset := by
  have htoken := layout.mem_of_mem_edited hmem
  rw [layout.tokens_eq, List.mem_append, List.mem_cons, List.mem_cons, List.mem_cons] at htoken
  rcases htoken with hfront | rfl | rfl | rfl | hrest
  · obtain ⟨before, between, hsplit⟩ := List.append_of_mem hfront
    have htokens := layout.tokens_eq
    rw [hsplit, List.append_assoc, List.cons_append] at htokens
    have hgt := Token.start_lt_of_mem_rest htokens (b := layout.prog) (by simp)
    omega
  · exact absurd hlt (Nat.lt_irrefl _)
  · exact absurd hmem layout.name_not_mem_edited
  · exact .inl rfl
  · exact .inr (Token.start_lt_of_mem_rest layout.tokens_from_openBrace hrest)

end Layout

end Outline

/-- In front of a character at which nothing but a space is put in, the edited text
has white space at most. -/
theorem Edit.exists_spliceFrom_eq {text rest : Text} {edits : List Edit} {offset : Nat} {c : Char}
    (hordered : edits.Pairwise Follows) (htext : text.drop offset = c :: rest)
    (hedits : ∀ edit ∈ edits, edit = ⟨offset, offset, [' ']⟩ ∨ offset < edit.start) :
    ∃ left behind, spliceFrom text offset edits = left ++ c :: behind ∧
      ∀ d ∈ left, Text.isBlank d = true := by
  have hcopy (later : List Edit) (hlater : ∀ edit ∈ later, offset < edit.start) :
      spliceFrom text offset later = c :: spliceFrom text (offset + 1) later := by
    have hnext : ∀ edit ∈ later.head?, offset + 1 ≤ edit.start :=
      fun edit hmem => hlater edit (List.mem_of_mem_head? hmem)
    rw [spliceFrom_eq_slice_append text (Nat.le_add_right offset 1) hnext,
      Text.slice_eq_take_drop, htext, Nat.add_sub_cancel_left]
    rfl
  cases edits with
  | nil => exact ⟨[], _, hcopy [] (List.forall_mem_nil _), List.forall_mem_nil _⟩
  | cons edit edits =>
    have hfollows := (List.pairwise_cons.mp hordered).1
    rcases hedits edit List.mem_cons_self with rfl | hlt
    · have hrest := hcopy edits (fun later hmem => (hfollows later hmem).1)
      refine ⟨[' '], spliceFrom text (offset + 1) edits, ?_, List.all_eq_true.mp rfl⟩
      rw [spliceFrom, Text.slice_self, hrest]
      rfl
    · refine ⟨[], _, hcopy (edit :: edits) ?_, List.forall_mem_nil _⟩
      rw [List.forall_mem_cons]
      exact ⟨hlt, fun later hmem => Nat.lt_trans hlt (hfollows later hmem).1⟩

namespace Outline.Layout

variable {text : Text} (layout : Layout text)

/-- An edit behind `prog` stands behind the opening brace, or puts a space in front
of it. -/
theorem eq_space_or_lt {edit : Edit} (hmem : edit ∈ layout.outline.edits)
    (hlt : layout.prog.start.offset < edit.start) :
    edit = ⟨layout.openBrace.start.offset, layout.openBrace.start.offset, [' ']⟩ ∨
      layout.openBrace.start.offset < edit.start := by
  rw [layout.edits_eq] at hmem
  obtain ⟨token, htoken, rfl⟩ := List.mem_map.mp hmem
  rw [editOf_start] at hlt ⊢
  rcases layout.eq_openBrace_or_lt htoken hlt with rfl | hlt
  · exact .inl (editOf_openBrace _ layout.openBrace_kind)
  · exact .inr hlt

/-- The text for an edited token, in its place in the Java text. -/
theorem applyAll_edits_eq_append {token : Token} (hmem : token ∈ layout.edited) :
    Edit.applyAll text layout.outline.edits =
      layout.outline.javaBefore text token.start.offset ++
        ((editOf layout.name.text token).replacement ++
          Edit.spliceFrom text (editOf layout.name.text token).stop
            (Edit.behind layout.outline.edits token.start.offset)) := by
  have hedit : editOf layout.name.text token ∈ layout.outline.edits := by
    rw [layout.edits_eq]
    exact List.mem_map_of_mem hmem
  have hsource := Edit.applyAll_eq_append_of_mem layout.spaced_edits hedit
  rwa [editOf_start] at hsource

/-- Behind `prog` the edited text goes on with the name in white space and a brace. -/
theorem exists_spliceFrom_prog :
    ∃ left right behind,
      Edit.spliceFrom text layout.prog.stop.offset
          (Edit.behind layout.outline.edits layout.prog.start.offset) =
        (left ++ (layout.name.text ++ right)) ++ '{' :: behind ∧
      (∀ c ∈ left, Text.isBlank c = true) ∧ ∀ c ∈ right, Text.isBlank c = true := by
  have hordered := layout.spaced_edits.pairwise_behind layout.prog.start.offset
  have hedits : ∀ edit ∈ Edit.behind layout.outline.edits layout.prog.start.offset,
      edit = ⟨layout.openBrace.start.offset, layout.openBrace.start.offset, [' ']⟩ ∨
        layout.openBrace.start.offset < edit.start := by
    intro edit hmem
    obtain ⟨hmem, hlt⟩ := Edit.mem_behind_iff.mp hmem
    exact layout.eq_space_or_lt hmem hlt
  have hopen : layout.prog.stop.offset ≤ layout.openBrace.start.offset :=
    Token.stop_le_of_mem_rest layout.tokens_eq (by simp)
  have hnext : ∀ edit ∈ (Edit.behind layout.outline.edits layout.prog.start.offset).head?,
      layout.openBrace.start.offset ≤ edit.start := by
    intro edit hmem
    rcases hedits edit (List.mem_of_mem_head? hmem) with rfl | hlt
    · exact Nat.le_refl _
    · exact Nat.le_of_lt hlt
  have hbrace : text.drop layout.openBrace.start.offset =
      '{' :: text.drop layout.openBrace.stop.offset := by
    have htoken := Token.inText_of_mem layout.openBrace_mem
    have htext : layout.openBrace.text = ['{'] :=
      Token.text_eq_of_kind layout.openBrace_mem layout.openBrace_kind (by decide)
    rw [← Text.slice_append_drop text (Nat.le_of_lt htoken.start_lt_stop), htoken.slice_eq, htext]
    rfl
  obtain ⟨space, behind, hbehind, hspace⟩ := Edit.exists_spliceFrom_eq hordered hbrace hedits
  refine ⟨_, Text.slice text layout.name.stop.offset layout.openBrace.start.offset ++ space, behind,
    ?_, layout.blank_before_name, ?_⟩
  · rw [Edit.spliceFrom_eq_slice_append text hopen hnext, hbehind, layout.slice_prog_openBrace]
    simp only [List.append_assoc]
  · rw [List.forall_mem_append]
    exact ⟨layout.blank_behind_name, hspace⟩

/-- Behind the class header, up to the next brace, stands the name. -/
theorem exists_className :
    ∃ behind, Edit.applyAll text layout.outline.edits =
        layout.outline.javaBefore text layout.outline.prog ++
          (Scaffold.imports ++ Scaffold.classHeader ++ behind) ∧
      '{' ∈ behind ∧ Text.strip (behind.takeWhile (· ≠ '{')) = layout.name.text := by
  have hsource := layout.applyAll_edits_eq_append (layout.mem_edited_iff.mpr (.inl rfl))
  rw [editOf_prog _ layout.prog_isWord] at hsource
  obtain ⟨left, right, behind, hbehind, hleft, hright⟩ := layout.exists_spliceFrom_prog
  have hidentifier := isIdentifier_text layout.name_mem layout.name_kind
  have hblank {c : Char} (hc : Text.isBlank c = true) : c ≠ '{' := by
    rintro rfl
    exact absurd hc (by decide)
  have hfront : ∀ c ∈ left ++ (layout.name.text ++ right), decide (c ≠ '{') = true := by
    intro c hc
    rw [List.mem_append, List.mem_append] at hc
    rw [decide_eq_true_eq]
    rcases hc with hc | hc | hc
    · exact hblank (hleft c hc)
    · rintro rfl
      exact not_mem_of_isIdentifier hidentifier rfl hc
    · exact hblank (hright c hc)
  refine ⟨_, hsource, ?_, ?_⟩
  · rw [hbehind]
    exact List.mem_append_right _ List.mem_cons_self
  · rw [hbehind, List.takeWhile_append_of_pos hfront, List.takeWhile_cons_of_neg (by decide),
      List.append_nil]
    exact Text.strip_append hleft (isBlank_eq_false_of_isIdentifier hidentifier) hright

/-- The private constructor has the name of the program. -/
theorem exists_constructor :
    ∃ behind, Edit.applyAll text layout.outline.edits =
      layout.outline.javaBefore text layout.outline.begin ++
        (Scaffold.support ++ " private ".toList ++ layout.name.text ++ '(' :: behind) := by
  have hsource := layout.applyAll_edits_eq_append (layout.mem_edited_iff.mpr (.inr (.inl rfl)))
  rw [editOf_begin _ layout.begin_isWord] at hsource
  obtain ⟨opening, hopening⟩ : ∃ opening,
      Scaffold.prologue layout.name.text =
        Scaffold.support ++ " private ".toList ++ layout.name.text ++ '(' :: opening :=
    ⟨_, congrArg (Scaffold.support ++ " private ".toList ++ layout.name.text ++ ·)
      String.toList_ofList⟩
  rw [hopening, List.append_assoc, List.cons_append] at hsource
  exact ⟨_, hsource⟩

end Outline.Layout

/-- A unit with an outline is compiled to a file of the directory that is named for
its program. In its Java text, that name stands between the class header put in for
`prog` and the next brace, and it is the name of the private constructor put in
for `begin`. -/
theorem JavaUnit.names_agree {text : Text} {outline : Outline}
    (h : Outline.ofText text = .ok outline) :
    ∃ unit, ofText text = .ok unit ∧
      Path.IsEntryName (unit.programName ++ ".java".toList) ∧
      (∀ directory : Path, Javac.unitPath directory unit.logicalName =
        .ok { directory with
          segments := directory.segments ++ [unit.programName ++ ".java".toList] }) ∧
      (∃ behind, unit.source = outline.javaBefore text outline.prog ++
          (Scaffold.imports ++ Scaffold.classHeader ++ behind) ∧
        '{' ∈ behind ∧ Text.strip (behind.takeWhile (· ≠ '{')) = unit.programName) ∧
      ∃ behind, unit.source = outline.javaBefore text outline.begin ++
        (Scaffold.support ++ " private ".toList ++ unit.programName ++ '(' :: behind) := by
  obtain ⟨layout, rfl⟩ := Outline.exists_layout_of_ofText h
  have hname : Outline.isIdentifier layout.outline.programName = true :=
    Outline.isIdentifier_text layout.name_mem layout.name_kind
  have hentry := Outline.isEntryName_of_isIdentifier hname
  refine ⟨_, ofText_eq_ok_iff.mpr ⟨_, h, rfl⟩, hentry, ?_, layout.exists_className,
    layout.exists_constructor⟩
  intro directory
  exact Javac.unitPath_of_parts directory (parts_logicalName text hname) hentry

theorem JavaUnit.names_agree_of_program_main :
    ∃ text unit,
      text = "package a.b;prog main\x7bstatic void main()\x7b\x7dbegin\x7bmain();\x7d\x7d".toList ∧
      ofText text = .ok unit ∧
      Javac.unitPath ⟨.slash, ["w".toList]⟩ unit.logicalName =
        .ok ⟨.slash, ["w".toList, "main".toList ++ ".java".toList]⟩ ∧
      ∃ before behind,
        unit.source = before ++ (Scaffold.imports ++ Scaffold.classHeader ++ behind) ∧
        Text.strip (behind.takeWhile (· ≠ '{')) = "main".toList := by
  have haccepted : Outline.ofText
      "package a.b;prog main\x7bstatic void main()\x7b\x7dbegin\x7bmain();\x7d\x7d".toList =
      .ok ⟨12, 21, 42, 56, "main".toList, some ⟨0, 11, "a.b".toList⟩, [21, 40, 47], [34, 48]⟩ := by
    decide +kernel
  obtain ⟨unit, hunit, -, hpath, ⟨behind, hsource, -, hclass⟩, -⟩ := names_agree haccepted
  have hname : unit.programName = "main".toList := by
    obtain ⟨outline, houtline, rfl⟩ := ofText_eq_ok_iff.mp hunit
    rw [haccepted] at houtline
    cases houtline
    rfl
  rw [hname] at hpath hclass
  exact ⟨_, unit, rfl, hunit, hpath ⟨.slash, ["w".toList]⟩, _, behind, hsource, hclass⟩

end Transcompiler
