/-
# Reading source files

A file with the bytes of a text is read as the text after two passes of replacement:
first every carriage return with a line feed behind it becomes a line feed, then
every carriage return that is left. `normalizeNewlines_eq_replaceAll` shows that the
one pass of the reader does the same, so no carriage return is ever read, and it does
not matter which line ending a file was written with.

A file with any other bytes is refused.
-/

import Transcompiler.Proofs.Encoding

namespace Transcompiler

namespace Text

/-! ## Replacement -/

/-- A text with every occurrence of `old` in it replaced by `new`. Occurrences are
found from left to right and do not overlap; `old` is not empty. -/
def replaceAll (text old new : Text) : Text :=
  match text with
  | [] => []
  | c :: cs =>
    if old <+: c :: cs then new ++ replaceAll (cs.drop (old.length - 1)) old new
    else c :: replaceAll cs old new
termination_by text.length
decreasing_by
  · simp only [List.length_drop, List.length_cons]
    omega
  · simp

variable {old new : Text} {c : Char}

theorem replaceAll_append (hold : old ≠ []) (new rest : Text) :
    replaceAll (old ++ rest) old new = new ++ replaceAll rest old new := by
  obtain ⟨c, cs, rfl⟩ := List.exists_cons_of_ne_nil hold
  have hoccurs : c :: cs <+: c :: (cs ++ rest) := List.prefix_append (c :: cs) rest
  rw [List.cons_append, replaceAll, if_pos hoccurs, List.length_cons, Nat.add_sub_cancel,
    List.drop_left]

theorem replaceAll_cons {cs : Text} (h : ¬old <+: c :: cs) :
    replaceAll (c :: cs) old new = c :: replaceAll cs old new := by
  rw [replaceAll, if_neg h]

theorem replaceAll_cons_self (cs : Text) :
    replaceAll (c :: cs) [c] new = new ++ replaceAll cs [c] new :=
  replaceAll_append (List.cons_ne_nil c []) new cs

theorem replaceAll_cons_of_head_ne {first : Char} (h : first ≠ c) (cs : Text) :
    replaceAll (c :: cs) (first :: old) new = c :: replaceAll cs (first :: old) new :=
  replaceAll_cons fun hoccurs => h (List.cons_prefix_cons.mp hoccurs).1

/-- A character is gone once it is replaced by others. -/
theorem not_mem_replaceAll (hnew : c ∉ new) (text : Text) : c ∉ replaceAll text [c] new := by
  induction text with
  | nil => simp [replaceAll]
  | cons d text ih =>
    by_cases hd : c = d
    · subst hd
      rw [replaceAll_cons_self, List.mem_append]
      exact not_or_intro hnew ih
    · rw [replaceAll_cons_of_head_ne hd, List.mem_cons]
      exact not_or_intro hd ih

/-- The line endings that files are written with. -/
def lineEndings : List Text :=
  [['\n'], ['\r', '\n'], ['\r']]

end Text

namespace SourceFile

/-! ## Line endings -/

theorem normalizeNewlines_cons {c : Char} (h : c ≠ '\r') (cs : Text) :
    normalizeNewlines (c :: cs) = c :: normalizeNewlines cs := by
  rw [normalizeNewlines]
  · intro _ hc
    exact absurd hc h
  · exact h

theorem normalizeNewlines_return {cs : Text} (h : '\n' ∉ cs) :
    normalizeNewlines ('\r' :: cs) = '\n' :: normalizeNewlines cs := by
  rw [normalizeNewlines]
  rintro rest rfl
  exact h List.mem_cons_self

/-- One pass gives the line endings as two passes do. -/
theorem normalizeNewlines_eq_replaceAll (text : Text) :
    normalizeNewlines text = (text.replaceAll ['\r', '\n'] ['\n']).replaceAll ['\r'] ['\n'] := by
  fun_induction normalizeNewlines text with
  | case1 => rw [Text.replaceAll, Text.replaceAll]
  | case2 cs ih =>
    have hpair : Text.replaceAll ('\r' :: '\n' :: cs) ['\r', '\n'] ['\n'] =
        '\n' :: Text.replaceAll cs ['\r', '\n'] ['\n'] :=
      Text.replaceAll_append (List.cons_ne_nil '\r' ['\n']) ['\n'] cs
    rw [hpair, Text.replaceAll_cons_of_head_ne (by decide), ih]
  | case3 cs hcs ih =>
    have halone : ¬['\r', '\n'] <+: '\r' :: cs := by
      rintro ⟨rest, hrest⟩
      exact hcs rest (List.cons.inj hrest).2.symm
    rw [Text.replaceAll_cons halone, Text.replaceAll_cons_self, ih]
    rfl
  | case4 c cs _ hc ih =>
    have hne : '\r' ≠ c := fun heq => hc heq.symm
    rw [Text.replaceAll_cons_of_head_ne hne, Text.replaceAll_cons_of_head_ne hne, ih]

theorem not_mem_normalizeNewlines (text : Text) : '\r' ∉ normalizeNewlines text := by
  rw [normalizeNewlines_eq_replaceAll]
  exact Text.not_mem_replaceAll (by decide) _

/-- A text is read the same with any line ending in place of its line feeds. -/
theorem normalizeNewlines_replaceAll {ending : Text} (hending : ending ∈ Text.lineEndings)
    {text : Text} (h : '\r' ∉ text) :
    normalizeNewlines (text.replaceAll ['\n'] ending) = text := by
  induction text with
  | nil => rw [Text.replaceAll, normalizeNewlines]
  | cons c cs ih =>
    rw [List.mem_cons, not_or] at h
    by_cases hc : '\n' = c
    · subst hc
      rw [Text.replaceAll_cons_self]
      have hline : normalizeNewlines (ending ++ Text.replaceAll cs ['\n'] ending) =
          '\n' :: normalizeNewlines (Text.replaceAll cs ['\n'] ending) := by
        simp only [Text.lineEndings, List.mem_cons, List.not_mem_nil, or_false] at hending
        rcases hending with rfl | rfl | rfl
        · exact normalizeNewlines_cons (by decide) _
        · rfl
        · -- A return would take along a line feed behind it, but all of them are replaced.
          exact normalizeNewlines_return (Text.not_mem_replaceAll (by decide) cs)
      rw [hline, ih h.2]
    · rw [Text.replaceAll_cons_of_head_ne hc, normalizeNewlines_cons (Ne.symm h.1), ih h.2]

/-! ## Files -/

variable {files : FileSystem} {name : String} {bytes : List UInt8}

/-- A text is read from a file exactly if the file holds it with some line endings. -/
theorem read_eq_ok_iff (h : files.entry (Path.ofString name) = .file bytes) {text : Text} :
    read files name = .ok text ↔
      ∃ written, bytes = Utf8.encode written ∧ normalizeNewlines written = text := by
  constructor
  · intro hread
    cases hdecode : Utf8.decode bytes with
    | error fault => simp [read, h, hdecode] at hread
    | ok written =>
      simp only [read, h, hdecode, Except.ok.injEq] at hread
      exact ⟨written, Utf8.decode_eq_ok_iff.mp hdecode, hread⟩
  · rintro ⟨written, rfl, rfl⟩
    exact read_of_encode h

theorem read_eq_error_of_ne_encode (h : files.entry (Path.ofString name) = .file bytes)
    (hbytes : ∀ text, bytes ≠ Utf8.encode text) :
    ∃ fault, read files name = .error (.unread name (.undecodable fault)) := by
  cases hdecode : Utf8.decode bytes with
  | error fault => exact ⟨fault, by simp only [read, h, hdecode]⟩
  | ok text => exact absurd (Utf8.decode_eq_ok_iff.mp hdecode) (hbytes text)

/-- A file with the bytes of a text is read as the text with its line endings replaced by
line feeds, so no carriage return is read and every line ending is read the same. A file with
bytes that no text has is refused. -/
theorem read_exact (files : FileSystem) (name : String) (bytes : List UInt8)
    (h : files.entry (Path.ofString name) = .file bytes) :
    (∀ text, bytes = Utf8.encode text →
      read files name =
        .ok ((text.replaceAll ['\r', '\n'] ['\n']).replaceAll ['\r'] ['\n'])) ∧
    (∀ text, read files name = .ok text → '\r' ∉ text) ∧
    (∀ ending ∈ Text.lineEndings, ∀ text : Text, '\r' ∉ text →
      bytes = Utf8.encode (text.replaceAll ['\n'] ending) → read files name = .ok text) ∧
    ((∀ text, bytes ≠ Utf8.encode text) →
      ∃ fault, read files name = .error (.unread name (.undecodable fault))) := by
  refine ⟨?_, ?_, ?_, read_eq_error_of_ne_encode h⟩
  · intro text hbytes
    exact (read_eq_ok_iff h).mpr ⟨text, hbytes, normalizeNewlines_eq_replaceAll text⟩
  · intro text hread
    obtain ⟨written, -, rfl⟩ := (read_eq_ok_iff h).mp hread
    exact not_mem_normalizeNewlines written
  · intro ending hending text hreturn hbytes
    exact (read_eq_ok_iff h).mpr ⟨_, hbytes, normalizeNewlines_replaceAll hending hreturn⟩

/-- The file system in which a source file holds bytes. -/
def filesWith (bytes : List UInt8) : FileSystem :=
  (FileTree.ofList [(Path.ofString "a.zep", .file bytes)]).toFileSystem

theorem entry_filesWith (bytes : List UInt8) :
    (filesWith bytes).entry (Path.ofString "a.zep") = .file bytes :=
  rfl

/-- Two returns in front of a line feed end two lines. Refused are an overlong form, a
surrogate, a code point beyond the last plane, a cut-off sequence and a stray byte. -/
theorem read_exact_of_two_returns :
    read (filesWith (Utf8.encode "€\r\r\n𝄞\r".toList)) "a.zep" = .ok "€\n\n𝄞\n".toList ∧
      ∀ bytes ∈ [[0xE0, 0x9F, 0xBF], [0xED, 0xA0, 0x80], [0xF4, 0x90, 0x80, 0x80], [0xE2, 0x82],
          [0x80]],
        (∀ text, bytes ≠ Utf8.encode text) ∧
          ∃ fault,
            read (filesWith bytes) "a.zep" = .error (.unread "a.zep" (.undecodable fault)) := by
  constructor
  · have hread := (read_exact _ _ _ (entry_filesWith _)).1 "€\r\r\n𝄞\r".toList rfl
    rw [← normalizeNewlines_eq_replaceAll] at hread
    exact hread
  · intro bytes hmem
    have hrefused : (Utf8.decode bytes).toBool = false := by
      revert bytes
      decide +kernel
    have hbytes : ∀ text, bytes ≠ Utf8.encode text := by
      intro text hencoded
      rw [Utf8.decode_eq_ok_iff.mpr hencoded] at hrefused
      contradiction
    exact ⟨hbytes, (read_exact _ _ _ (entry_filesWith bytes)).2.2.2 hbytes⟩

end SourceFile

end Transcompiler
