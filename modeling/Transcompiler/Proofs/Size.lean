/-
# The smallest units

A source file is refused without being read if it is too small to hold a unit. The bound,
`SourceFile.minimumSize`, leaves room for a blank on both sides of `begin`, but none has
to stand there: the braces part the words. What every unit needs is read off its layout:
`prog`, a blank, a name of one letter, and `{begin}`, in all thirteen characters. So a
unit of thirteen or fourteen bytes is refused, and no other.
-/

import Transcompiler.Proofs.Encoding
import Transcompiler.Proofs.Layout
import Transcompiler.Proofs.Substitution
import Transcompiler.Proofs.WholeNames

namespace Transcompiler

/-! ## Bytes and characters -/

namespace Utf8

/-- Every character takes a byte. -/
theorem length_le_length_encode (text : Text) : text.length ≤ (encode text).length := by
  induction text with
  | nil => exact Nat.zero_le _
  | cons c text ih =>
    have hsize : 1 ≤ (String.utf8EncodeChar c).length := by
      rw [String.length_utf8EncodeChar]
      exact Char.utf8Size_pos c
    rw [encode, List.flatMap_cons, List.length_append, List.length_cons, Nat.add_comm]
    exact Nat.add_le_add hsize ih

end Utf8

namespace SourceFile

theorem length_normalizeNewlines_le (text : Text) :
    (normalizeNewlines text).length ≤ text.length := by
  fun_induction normalizeNewlines text with
  | case1 => exact Nat.le_refl 0
  | case2 cs ih => exact Nat.le_succ_of_le (Nat.succ_le_succ ih)
  | case3 cs _ ih => exact Nat.succ_le_succ ih
  | case4 c cs _ _ ih => exact Nat.succ_le_succ ih

/-- A file that is read has at least as many bytes as its text has characters. -/
theorem exists_file_of_read {files : FileSystem} {name : String} {text : Text}
    (h : read files name = .ok text) :
    ∃ bytes, files.entry (Path.ofString name) = .file bytes ∧ text.length ≤ bytes.length := by
  rw [read] at h
  cases hentry : files.entry (Path.ofString name) with
  | file bytes =>
    cases hdecode : Utf8.decode bytes with
    | error fault => simp [hentry, hdecode] at h
    | ok decoded =>
      simp only [hentry, hdecode, Except.ok.injEq] at h
      have hlines := length_normalizeNewlines_le decoded
      have hbytes := Utf8.length_le_length_encode decoded
      rw [h] at hlines
      rw [← Utf8.decode_eq_ok_iff.mp hdecode] at hbytes
      exact ⟨bytes, rfl, Nat.le_trans hlines hbytes⟩
  | _ => simp [hentry] at h

theorem verify_of_file {files : FileSystem} {name : String} {bytes : List UInt8}
    (h : files.entry (Path.ofString name) = .file bytes) :
    verify files name =
      if bytes.length < minimumSize then .error (.tooSmall name) else .ok () := by
  simp only [verify, h]

end SourceFile

namespace Outline.Layout

/-! ## What every unit needs -/

variable {text : Text} (layout : Layout text)

/-- An identifier ends only where it cannot go on, so something parts the name from `prog`. -/
theorem stop_prog_lt_start_name : layout.prog.stop.offset < layout.name.start.offset := by
  have hle : layout.prog.stop.offset ≤ layout.name.start.offset :=
    Token.stop_le_of_mem_rest layout.tokens_eq (by simp)
  have hprog : text.IsIdentifierAt layout.prog.start.offset layout.prog.stop.offset :=
    Token.isIdentifierAt_of_mem layout.prog_mem (Token.isWord_iff.mp layout.prog_isWord).1
  have hname := Token.inText_of_mem layout.name_mem
  obtain ⟨c, cs, htext, hstart, -⟩ :=
    isIdentifier_iff.mp (isIdentifier_text layout.name_mem layout.name_kind)
  have hdrop := Text.slice_append_drop text (Nat.le_of_lt hname.start_lt_stop)
  rw [hname.slice_eq, htext] at hdrop
  refine Nat.lt_of_le_of_ne hle fun hmeet => ?_
  have hpart := hprog.behind c
  rw [hmeet, ← hdrop] at hpart
  rw [Lexeme.isIdentifierPart_of_isIdentifierStart hstart] at hpart
  exact Bool.noConfusion (hpart rfl)

include layout in
/-- The landmarks of a unit stand one behind the other, each with its own characters. -/
theorem thirteen_le_length : 13 ≤ text.length := by
  have hprog := (Token.inText_of_mem layout.prog_mem).stop_eq_of_isWord layout.prog_isWord
  have hgap := layout.stop_prog_lt_start_name
  have hname := (Token.inText_of_mem layout.name_mem).start_lt_stop
  have hopen : layout.name.stop.offset ≤ layout.openBrace.start.offset :=
    Token.stop_le_of_mem_rest layout.tokens_from_name (by simp)
  have hbrace : layout.openBrace.start.offset < layout.begin.start.offset :=
    Token.start_lt_of_mem_rest layout.tokens_from_openBrace (by simp)
  have hbegin := (Token.inText_of_mem layout.begin_mem).stop_eq_of_isWord layout.begin_isWord
  have hbody : layout.begin.stop.offset ≤ layout.closeBrace.start.offset :=
    Token.stop_le_of_mem_rest layout.tokens_from_begin (by simp)
  have hclose := (Token.inText_of_mem layout.closeBrace_mem).start_lt_stop
  have hend := (Token.inText_of_mem layout.closeBrace_mem).stop_le
  have hwords : "prog".length = 4 ∧ "begin".length = 5 := ⟨rfl, rfl⟩
  omega

end Outline.Layout

namespace JavaUnit

theorem thirteen_le_length_of_ofText {text : Text} {unit : JavaUnit}
    (h : ofText text = .ok unit) : 13 ≤ text.length := by
  rw [ofText] at h
  cases houtline : Outline.ofText text with
  | error defect => simp [houtline, Except.map] at h
  | ok outline =>
    obtain ⟨layout, -⟩ := Outline.exists_layout_of_ofText houtline
    exact layout.thirteen_le_length

/-- A text that is a unit has thirteen bytes or more. A readable file with such a text is
found too small exactly if it has thirteen or fourteen, and passes the check otherwise. A
file that may not be read has no text, and is refused whatever its size. -/
theorem verify_of_ofText (text : Text) (unit : JavaUnit) (h : ofText text = .ok unit) :
    13 ≤ (Utf8.encode text).length ∧
      (∀ files name, SourceFile.read files name = .ok text →
        ∃ bytes, files.entry (Path.ofString name) = .file bytes ∧ 13 ≤ bytes.length ∧
          (SourceFile.verify files name = .error (.tooSmall name) ↔
            bytes.length = 13 ∨ bytes.length = 14) ∧
          (SourceFile.verify files name = .ok () ↔ SourceFile.minimumSize ≤ bytes.length)) ∧
      ∀ files name, files.entry (Path.ofString name) = .locked →
        SourceFile.read files name ≠ .ok text ∧
          SourceFile.verify files name = .error (.unreadable name) := by
  have hlength := thirteen_le_length_of_ofText h
  refine ⟨Nat.le_trans hlength (Utf8.length_le_length_encode text), ?_, ?_⟩
  · intro files name hread
    obtain ⟨bytes, hfile, hbytes⟩ := SourceFile.exists_file_of_read hread
    refine ⟨bytes, hfile, Nat.le_trans hlength hbytes, ?_⟩
    rw [SourceFile.verify_of_file hfile, SourceFile.minimumSize]
    split_ifs with hsmall
    · exact ⟨iff_of_true rfl (by omega), iff_of_false (by simp) (by omega)⟩
    · exact ⟨iff_of_false (by simp) (by omega), iff_of_true rfl (by omega)⟩
  · intro files name hlocked
    simp [SourceFile.read, SourceFile.verify, hlocked]

/-- The file system in which every file holds a text. -/
def filesHolding (text : Text) : FileSystem where
  entry _ := .file (Utf8.encode text)

theorem read_filesHolding (text : Text) (name : String) :
    SourceFile.read (filesHolding text) name = .ok (SourceFile.normalizeNewlines text) :=
  SourceFile.read_of_encode rfl

theorem exists_ofText_eq_ok {text : Text} (h : (Outline.ofText text).toBool = true) :
    ∃ unit, ofText text = .ok unit := by
  rw [ofText]
  cases houtline : Outline.ofText text with
  | error defect =>
    rw [houtline] at h
    contradiction
  | ok outline => exact ⟨_, rfl⟩

/-- The return in a line ending counts for the file, but is not part of the text. -/
theorem verify_of_ofText_of_return :
    SourceFile.read (filesHolding "prog A\x7bbegin\r\n\x7d".toList) "a.zep" =
        .ok "prog A\x7bbegin\n\x7d".toList ∧
      (∃ unit, ofText "prog A\x7bbegin\n\x7d".toList = .ok unit) ∧
      SourceFile.verify (filesHolding "prog A\x7bbegin\r\n\x7d".toList) "a.zep" = .ok () := by
  have hread : SourceFile.read (filesHolding "prog A\x7bbegin\r\n\x7d".toList) "a.zep" =
      .ok "prog A\x7bbegin\n\x7d".toList :=
    (read_filesHolding _ _).trans (by decide)
  obtain ⟨unit, hunit⟩ : ∃ unit, ofText "prog A\x7bbegin\n\x7d".toList = .ok unit :=
    exists_ofText_eq_ok (by decide +kernel)
  obtain ⟨bytes, hfile, -, -, hverify⟩ := (verify_of_ofText _ unit hunit).2.1 _ _ hread
  refine ⟨hread, ⟨unit, hunit⟩, hverify.mpr ?_⟩
  rw [← Entry.file.inj hfile]
  decide

/-- The smallest file with a unit is found too small. -/
theorem verify_eq_tooSmall_of_ofText :
    (∃ unit, ofText "prog A\x7bbegin\x7d".toList = .ok unit) ∧
      (Utf8.encode "prog A\x7bbegin\x7d".toList).length = 13 ∧ 13 < SourceFile.minimumSize ∧
      SourceFile.read (filesHolding "prog A\x7bbegin\x7d".toList) "a.zep" =
        .ok "prog A\x7bbegin\x7d".toList ∧
      SourceFile.verify (filesHolding "prog A\x7bbegin\x7d".toList) "a.zep" =
        .error (.tooSmall "a.zep") := by
  refine ⟨exists_ofText_eq_ok (by decide +kernel), by decide, by decide, ?_, ?_⟩
  · exact (read_filesHolding _ _).trans (by decide)
  · rw [SourceFile.verify_of_file rfl]
    rfl

end JavaUnit

end Transcompiler
