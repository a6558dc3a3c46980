/-
# Encoded texts

The bytes of a text are the bytes of its characters one after the other. This
module shows that decoding takes them apart again: `decodeFrom_encodeChar` is one
character in front of any bytes, and the text follows by induction.

Nothing else is decoded. By `cons_eq_encodeChar_append`, what is read as a character
is the bytes of that character, so decoded bytes are the bytes of the text they give.

A source file that holds an encoded text is therefore read as that text, up to its
line endings, and a text without carriage returns is read as it is.
-/

import Mathlib.Data.List.Basic
import Transcompiler.SourceFile

namespace Transcompiler

namespace Utf8

/-- The bytes of a text. -/
def encode (text : Text) : List UInt8 :=
  text.flatMap String.utf8EncodeChar

/-! ## Sequences of several bytes -/

theorem Lead.ofByte?_two : ∀ bits < 32, 2 ≤ bits →
    ofByte? (UInt8.ofNat (bits + 192)) = some ⟨1, 0x80, 0xBF, bits⟩ := by
  decide

theorem Lead.ofByte?_three : ∀ bits < 16, ofByte? (UInt8.ofNat (bits + 224)) =
    some ⟨2, if bits = 0 then 0xA0 else 0x80, if bits = 13 then 0x9F else 0xBF, bits⟩ := by
  decide

theorem Lead.ofByte?_four : ∀ bits < 5, ofByte? (UInt8.ofNat (bits + 240)) =
    some ⟨3, if bits = 0 then 0x90 else 0x80, if bits = 4 then 0x8F else 0xBF, bits⟩ := by
  decide

/-- A byte within the bounds adds its six bits. -/
theorem continuation_cons {more n : Nat} {low high : UInt8} (hn : n < 64)
    (hlow : low.toNat ≤ n + 128) (hhigh : n + 128 ≤ high.toNat) (bits count : Nat)
    (rest : List UInt8) :
    continuation (more + 1) low high bits count (UInt8.ofNat (n + 128) :: rest) =
      continuation more 0x80 0xBF (bits * 64 + n) (count + 1) rest := by
  have hbyte : (UInt8.ofNat (n + 128)).toNat = n + 128 := by
    rw [UInt8.toNat_ofNat', Nat.mod_eq_of_lt]
    omega
  have hwithin : low ≤ UInt8.ofNat (n + 128) ∧ UInt8.ofNat (n + 128) ≤ high := by
    rw [UInt8.le_iff_toNat_le, UInt8.le_iff_toNat_le, hbyte]
    exact ⟨hlow, hhigh⟩
  rw [continuation, if_pos hwithin, hbyte, Nat.add_sub_cancel]

theorem continuation_cons_later {more n : Nat} (hn : n < 64) (bits count : Nat)
    (rest : List UInt8) :
    continuation (more + 1) 0x80 0xBF bits count (UInt8.ofNat (n + 128) :: rest) =
      continuation more 0x80 0xBF (bits * 64 + n) (count + 1) rest := by
  have hlow : (0x80 : UInt8).toNat ≤ n + 128 := Nat.le_add_left 128 n
  have hhigh : n + 128 ≤ (0xBF : UInt8).toNat := Nat.add_le_add_right (Nat.le_of_lt_succ hn) 128
  exact continuation_cons hn hlow hhigh bits count rest

theorem decodeFrom_of_lead {byte : UInt8} {lead : Lead} {code : Nat} {rest behind : List UInt8}
    (hlead : Lead.ofByte? byte = some lead)
    (h : continuation lead.more lead.low lead.high lead.bits 1 rest = .ok (code, behind))
    (position : Nat) :
    decodeFrom position (byte :: rest) =
      (decodeFrom (position + 1 + lead.more) behind).map (Char.ofNat code :: ·) := by
  have hlong : ¬byte < 0x80 := by
    intro hshort
    have hnone : Lead.ofByte? byte = none := by
      rw [Lead.ofByte?, if_pos (UInt8.lt_trans hshort (by decide))]
    rw [hlead] at hnone
    contradiction
  rw [decodeFrom, if_neg hlong, hlead]
  dsimp only
  split
  · next hcontinuation =>
    rw [h] at hcontinuation
    contradiction
  · next hcontinuation =>
    rw [h] at hcontinuation
    cases hcontinuation
    cases decodeFrom (position + 1 + lead.more) behind <;> rfl

/-! ## One character -/

section Character

variable {n : Nat} (position : Nat) (rest : List UInt8)

theorem decodeFrom_one (h : n ≤ 0x7F) :
    decodeFrom position (UInt8.ofNat n :: rest) =
      (decodeFrom (position + 1) rest).map (Char.ofNat n :: ·) := by
  have hbyte : (UInt8.ofNat n).toNat = n := by
    rw [UInt8.toNat_ofNat', Nat.mod_eq_of_lt]
    omega
  have hshort : UInt8.ofNat n < 0x80 := by
    rw [UInt8.lt_iff_toNat_lt, hbyte]
    exact Nat.lt_succ_of_le h
  rw [decodeFrom, if_pos hshort, hbyte]
  cases decodeFrom (position + 1) rest <;> rfl

theorem decodeFrom_two (hlow : 0x80 ≤ n) (hhigh : n ≤ 0x7FF) :
    decodeFrom position
        (UInt8.ofNat (n / 64 % 32 + 192) :: UInt8.ofNat (n % 64 + 128) :: rest) =
      (decodeFrom (position + 2) rest).map (Char.ofNat n :: ·) := by
  have hread : continuation 1 0x80 0xBF (n / 64 % 32) 1 (UInt8.ofNat (n % 64 + 128) :: rest) =
      .ok (n, rest) := by
    have hcode : n / 64 % 32 * 64 + n % 64 = n := by omega
    rw [continuation_cons_later (by omega), hcode, continuation]
  exact decodeFrom_of_lead (Lead.ofByte?_two (n / 64 % 32) (by omega) (by omega)) hread position

/-- The bounds of the second byte leave out overlong forms and surrogates. -/
theorem decodeFrom_three (hlow : 0x800 ≤ n) (hhigh : n ≤ 0xFFFF)
    (hvalid : n < 0xD800 ∨ 0xDFFF < n) :
    decodeFrom position
        (UInt8.ofNat (n / 4096 % 16 + 224) :: UInt8.ofNat (n / 64 % 64 + 128) ::
          UInt8.ofNat (n % 64 + 128) :: rest) =
      (decodeFrom (position + 3) rest).map (Char.ofNat n :: ·) := by
  have hread : continuation 2 (if n / 4096 % 16 = 0 then 0xA0 else 0x80)
      (if n / 4096 % 16 = 13 then 0x9F else 0xBF) (n / 4096 % 16) 1
      (UInt8.ofNat (n / 64 % 64 + 128) :: UInt8.ofNat (n % 64 + 128) :: rest) = .ok (n, rest) := by
    have hcode : (n / 4096 % 16 * 64 + n / 64 % 64) * 64 + n % 64 = n := by omega
    rw [continuation_cons (by omega), continuation_cons_later (by omega), hcode, continuation]
    · split_ifs
      · show 0xA0 ≤ n / 64 % 64 + 128
        omega
      · exact Nat.le_add_left 128 _
    · split_ifs
      · show n / 64 % 64 + 128 ≤ 0x9F
        omega
      · show n / 64 % 64 + 128 ≤ 0xBF
        omega
  exact decodeFrom_of_lead (Lead.ofByte?_three (n / 4096 % 16) (by omega)) hread position

/-- The bounds of the second byte leave out overlong forms and what lies beyond the
last plane. -/
theorem decodeFrom_four (hlow : 0x10000 ≤ n) (hhigh : n < 0x110000) :
    decodeFrom position
        (UInt8.ofNat (n / 262144 % 8 + 240) :: UInt8.ofNat (n / 4096 % 64 + 128) ::
          UInt8.ofNat (n / 64 % 64 + 128) :: UInt8.ofNat (n % 64 + 128) :: rest) =
      (decodeFrom (position + 4) rest).map (Char.ofNat n :: ·) := by
  have hread : continuation 3 (if n / 262144 % 8 = 0 then 0x90 else 0x80)
      (if n / 262144 % 8 = 4 then 0x8F else 0xBF) (n / 262144 % 8) 1
      (UInt8.ofNat (n / 4096 % 64 + 128) :: UInt8.ofNat (n / 64 % 64 + 128) ::
        UInt8.ofNat (n % 64 + 128) :: rest) = .ok (n, rest) := by
    have hcode : ((n / 262144 % 8 * 64 + n / 4096 % 64) * 64 + n / 64 % 64) * 64 + n % 64 = n := by
      omega
    rw [continuation_cons (by omega), continuation_cons_later (by omega),
      continuation_cons_later (by omega), hcode, continuation]
    · split_ifs
      · show 0x90 ≤ n / 4096 % 64 + 128
        omega
      · exact Nat.le_add_left 128 _
    · split_ifs
      · show n / 4096 % 64 + 128 ≤ 0x8F
        omega
      · show n / 4096 % 64 + 128 ≤ 0xBF
        omega
  exact decodeFrom_of_lead (Lead.ofByte?_four (n / 262144 % 8) (by omega)) hread position

end Character

theorem decodeFrom_encodeChar (c : Char) (position : Nat) (rest : List UInt8) :
    decodeFrom position (String.utf8EncodeChar c ++ rest) =
      (decodeFrom (position + (String.utf8EncodeChar c).length) rest).map (c :: ·) := by
  have hvalid : c.val.toNat < 0xD800 ∨ 0xDFFF < c.val.toNat ∧ c.val.toNat < 0x110000 := c.valid
  have hc : Char.ofNat c.val.toNat = c := Char.ofNat_toNat c
  simp only [String.utf8EncodeChar]
  generalize c.val.toNat = n at hvalid hc
  rw [← hc]
  split_ifs with hone htwo hthree
  · exact decodeFrom_one position rest hone
  · exact decodeFrom_two position rest (by omega) htwo
  · exact decodeFrom_three position rest (by omega) hthree (by omega)
  · exact decodeFrom_four position rest (by omega) (by omega)

theorem decode_encode (text : Text) : decode (encode text) = .ok text := by
  have hfrom (position : Nat) : decodeFrom position (encode text) = .ok text := by
    induction text generalizing position with
    | nil =>
      rw [encode, List.flatMap_nil, decodeFrom]
    | cons c text ih =>
      rw [encode, List.flatMap_cons, decodeFrom_encodeChar]
      change (decodeFrom _ (encode text)).map _ = _
      rw [ih]
      rfl
  exact hfrom 0

/-! ## Bytes that are decoded -/

/-- The first byte of a longer sequence holds the leading bits of the code point. -/
theorem Lead.exists_bits_of_ofByte? {byte : UInt8} {lead : Lead} (h : ofByte? byte = some lead) :
    ∃ bits,
      (byte = UInt8.ofNat (bits + 192) ∧ 2 ≤ bits ∧ bits < 32 ∧ lead = ⟨1, 0x80, 0xBF, bits⟩) ∨
      (byte = UInt8.ofNat (bits + 224) ∧ bits < 16 ∧
        lead = ⟨2, if bits = 0 then 0xA0 else 0x80, if bits = 13 then 0x9F else 0xBF, bits⟩) ∨
      (byte = UInt8.ofNat (bits + 240) ∧ bits < 5 ∧
        lead = ⟨3, if bits = 0 then 0x90 else 0x80, if bits = 4 then 0x8F else 0xBF, bits⟩) := by
  have hnone : ∀ above < 11, ofByte? (UInt8.ofNat (above + 0xF5)) = none := by decide
  have hlt : byte.toNat < 256 := byte.toNat_lt
  rcases UInt8.lt_or_le byte 0xC2 with hC2 | hC2
  · rw [ofByte?, if_pos hC2] at h
    contradiction
  replace hC2 : 0xC2 ≤ byte.toNat := UInt8.le_iff_toNat_le.mp hC2
  have hbyte : byte = UInt8.ofNat byte.toNat := UInt8.ofNat_toNat.symm
  generalize byte.toNat = n at hlt hC2 hbyte
  subst hbyte
  rcases Nat.lt_or_ge n 0xE0 with hE0 | hE0
  · obtain ⟨bits, rfl⟩ : ∃ bits, n = bits + 192 := ⟨n - 192, by omega⟩
    rw [ofByte?_two bits (by omega) (by omega)] at h
    exact ⟨bits, .inl ⟨rfl, by omega, by omega, (Option.some.inj h).symm⟩⟩
  rcases Nat.lt_or_ge n 0xF0 with hF0 | hF0
  · obtain ⟨bits, rfl⟩ := Nat.exists_eq_add_of_le' hE0
    rw [ofByte?_three bits (by omega)] at h
    exact ⟨bits, .inr (.inl ⟨rfl, by omega, (Option.some.inj h).symm⟩)⟩
  rcases Nat.lt_or_ge n 0xF5 with hF5 | hF5
  · obtain ⟨bits, rfl⟩ := Nat.exists_eq_add_of_le' hF0
    rw [ofByte?_four bits (by omega)] at h
    exact ⟨bits, .inr (.inr ⟨rfl, by omega, (Option.some.inj h).symm⟩)⟩
  · obtain ⟨above, rfl⟩ := Nat.exists_eq_add_of_le' hF5
    rw [hnone above (by omega)] at h
    contradiction

/-- A byte that continues a sequence holds six bits. -/
theorem exists_cons_of_continuation {more : Nat} {low high : UInt8} {bits count code : Nat}
    {bytes behind : List UInt8} (hlow : 0x80 ≤ low) (hhigh : high ≤ 0xBF)
    (h : continuation (more + 1) low high bits count bytes = .ok (code, behind)) :
    ∃ n rest, bytes = UInt8.ofNat (n + 128) :: rest ∧ n < 64 ∧
      low.toNat ≤ n + 128 ∧ n + 128 ≤ high.toNat ∧
      continuation more 0x80 0xBF (bits * 64 + n) (count + 1) rest = .ok (code, behind) := by
  cases bytes with
  | nil =>
    rw [continuation] at h
    contradiction
  | cons byte rest =>
    rw [continuation] at h
    split_ifs at h with hwithin
    rw [UInt8.le_iff_toNat_le] at hlow hhigh
    rw [UInt8.le_iff_toNat_le, UInt8.le_iff_toNat_le] at hwithin
    have hfirst : (0x80 : UInt8).toNat = 128 := rfl
    have hlast : (0xBF : UInt8).toNat = 191 := rfl
    have hbyte : byte.toNat - 128 + 128 = byte.toNat := by omega
    refine ⟨byte.toNat - 128, rest, ?_, by omega, by omega, by omega, h⟩
    rw [hbyte, UInt8.ofNat_toNat]

theorem exists_cons_of_continuation_later {more bits count code : Nat}
    {bytes behind : List UInt8}
    (h : continuation (more + 1) 0x80 0xBF bits count bytes = .ok (code, behind)) :
    ∃ n rest, bytes = UInt8.ofNat (n + 128) :: rest ∧ n < 64 ∧
      continuation more 0x80 0xBF (bits * 64 + n) (count + 1) rest = .ok (code, behind) := by
  obtain ⟨n, rest, hbytes, hn, -, -, hrest⟩ :=
    exists_cons_of_continuation (UInt8.le_refl _) (UInt8.le_refl _) h
  exact ⟨n, rest, hbytes, hn, hrest⟩

theorem encodeChar_ofNat {n : Nat} (h : n.isValidChar) :
    String.utf8EncodeChar (Char.ofNat n) =
      if n ≤ 0x7F then [UInt8.ofNat n]
      else if n ≤ 0x7FF then [UInt8.ofNat (n / 64 % 32 + 192), UInt8.ofNat (n % 64 + 128)]
      else if n ≤ 0xFFFF then
        [UInt8.ofNat (n / 4096 % 16 + 224), UInt8.ofNat (n / 64 % 64 + 128),
          UInt8.ofNat (n % 64 + 128)]
      else
        [UInt8.ofNat (n / 262144 % 8 + 240), UInt8.ofNat (n / 4096 % 64 + 128),
          UInt8.ofNat (n / 64 % 64 + 128), UInt8.ofNat (n % 64 + 128)] := by
  have hn : (Char.ofNat n).val.toNat = n := by
    rw [Char.ofNat, dif_pos h]
    rfl
  simp only [String.utf8EncodeChar, hn]

theorem encodeChar_two {bits n : Nat} (hlow : 2 ≤ bits) (hhigh : bits < 32) (hn : n < 64) :
    String.utf8EncodeChar (Char.ofNat (bits * 64 + n)) =
      [UInt8.ofNat (bits + 192), UInt8.ofNat (n + 128)] := by
  have hvalid : (bits * 64 + n).isValidChar := .inl (by omega)
  have hfirst : (bits * 64 + n) / 64 % 32 = bits := by omega
  have hsecond : (bits * 64 + n) % 64 = n := by omega
  rw [encodeChar_ofNat hvalid, if_neg (by omega), if_pos (by omega), hfirst, hsecond]

theorem encodeChar_three {bits n m : Nat} (hbits : bits < 16) (hn : n < 64) (hm : m < 64)
    (hoverlong : bits = 0 → 0xA0 ≤ n + 128) (hsurrogate : bits = 13 → n + 128 ≤ 0x9F) :
    String.utf8EncodeChar (Char.ofNat ((bits * 64 + n) * 64 + m)) =
      [UInt8.ofNat (bits + 224), UInt8.ofNat (n + 128), UInt8.ofNat (m + 128)] := by
  have hvalid : ((bits * 64 + n) * 64 + m).isValidChar := by
    rw [Nat.isValidChar]
    omega
  have hfirst : ((bits * 64 + n) * 64 + m) / 4096 % 16 = bits := by omega
  have hsecond : ((bits * 64 + n) * 64 + m) / 64 % 64 = n := by omega
  have hthird : ((bits * 64 + n) * 64 + m) % 64 = m := by omega
  rw [encodeChar_ofNat hvalid, if_neg (by omega), if_neg (by omega), if_pos (by omega), hfirst,
    hsecond, hthird]

theorem encodeChar_four {bits n m k : Nat} (hbits : bits < 5) (hn : n < 64) (hm : m < 64)
    (hk : k < 64) (hoverlong : bits = 0 → 0x90 ≤ n + 128) (hbeyond : bits = 4 → n + 128 ≤ 0x8F) :
    String.utf8EncodeChar (Char.ofNat (((bits * 64 + n) * 64 + m) * 64 + k)) =
      [UInt8.ofNat (bits + 240), UInt8.ofNat (n + 128), UInt8.ofNat (m + 128),
        UInt8.ofNat (k + 128)] := by
  have hvalid : (((bits * 64 + n) * 64 + m) * 64 + k).isValidChar := by
    rw [Nat.isValidChar]
    omega
  have hfirst : (((bits * 64 + n) * 64 + m) * 64 + k) / 262144 % 8 = bits := by omega
  have hsecond : (((bits * 64 + n) * 64 + m) * 64 + k) / 4096 % 64 = n := by omega
  have hthird : (((bits * 64 + n) * 64 + m) * 64 + k) / 64 % 64 = m := by omega
  have hfourth : (((bits * 64 + n) * 64 + m) * 64 + k) % 64 = k := by omega
  rw [encodeChar_ofNat hvalid, if_neg (by omega), if_neg (by omega), if_neg (by omega), hfirst,
    hsecond, hthird, hfourth]

/-- What is read as a character is the bytes of the character. -/
theorem cons_eq_encodeChar_append {byte : UInt8} {lead : Lead} {code : Nat}
    {rest behind : List UInt8} (hlead : Lead.ofByte? byte = some lead)
    (h : continuation lead.more lead.low lead.high lead.bits 1 rest = .ok (code, behind)) :
    byte :: rest = String.utf8EncodeChar (Char.ofNat code) ++ behind := by
  obtain ⟨bits, ⟨rfl, hlow, hhigh, rfl⟩ | ⟨rfl, hbits, rfl⟩ | ⟨rfl, hbits, rfl⟩⟩ :=
    Lead.exists_bits_of_ofByte? hlead
  · obtain ⟨n, rest, rfl, hn, hcode⟩ := exists_cons_of_continuation_later h
    rw [continuation] at hcode
    cases hcode
    rw [encodeChar_two hlow hhigh hn]
    rfl
  · dsimp only at h
    obtain ⟨n, rest, rfl, hn, hleast, hmost, h⟩ :=
      exists_cons_of_continuation (by split_ifs <;> decide) (by split_ifs <;> decide) h
    obtain ⟨m, rest, rfl, hm, hcode⟩ := exists_cons_of_continuation_later h
    rw [continuation] at hcode
    cases hcode
    -- The bounds of the second byte are what makes the code point a character.
    have hoverlong : bits = 0 → 0xA0 ≤ n + 128 := by
      intro hbits
      rwa [if_pos hbits] at hleast
    have hsurrogate : bits = 13 → n + 128 ≤ 0x9F := by
      intro hbits
      rwa [if_pos hbits] at hmost
    rw [encodeChar_three hbits hn hm hoverlong hsurrogate]
    rfl
  · dsimp only at h
    obtain ⟨n, rest, rfl, hn, hleast, hmost, h⟩ :=
      exists_cons_of_continuation (by split_ifs <;> decide) (by split_ifs <;> decide) h
    obtain ⟨m, rest, rfl, hm, h⟩ := exists_cons_of_continuation_later h
    obtain ⟨k, rest, rfl, hk, hcode⟩ := exists_cons_of_continuation_later h
    rw [continuation] at hcode
    cases hcode
    have hoverlong : bits = 0 → 0x90 ≤ n + 128 := by
      intro hbits
      rwa [if_pos hbits] at hleast
    have hbeyond : bits = 4 → n + 128 ≤ 0x8F := by
      intro hbits
      rwa [if_pos hbits] at hmost
    rw [encodeChar_four hbits hn hm hk hoverlong hbeyond]
    rfl

theorem eq_encode_of_decodeFrom {position : Nat} {bytes : List UInt8} {text : Text}
    (h : decodeFrom position bytes = .ok text) : bytes = encode text := by
  fun_induction decodeFrom position bytes generalizing text with
  | case1 =>
    cases h
    rfl
  | case2 => cases h
  | case3 position byte rest hbyte read hread ih =>
    cases h
    have hcode : byte.toNat < 0x80 := UInt8.lt_iff_toNat_lt.mp hbyte
    rw [encode, List.flatMap_cons, encodeChar_ofNat (.inl (by omega)), if_pos (by omega),
      UInt8.ofNat_toNat, ih hread]
    rfl
  | case4 => cases h
  | case5 => cases h
  | case6 => cases h
  | case7 position byte rest hbyte lead hlead code behind hcontinued read hread ih =>
    cases h
    rw [encode, List.flatMap_cons, cons_eq_encodeChar_append hlead hcontinued, ih hread]
    rfl

/-- Bytes are decoded exactly if they are the bytes of a text. -/
theorem decode_eq_ok_iff {bytes : List UInt8} {text : Text} :
    decode bytes = .ok text ↔ bytes = encode text := by
  refine ⟨eq_encode_of_decodeFrom, ?_⟩
  rintro rfl
  exact decode_encode text

end Utf8

namespace SourceFile

theorem normalizeNewlines_of_not_mem {text : Text} (h : '\r' ∉ text) :
    normalizeNewlines text = text := by
  fun_induction normalizeNewlines text with
  | case1 => rfl
  | case2 => simp at h
  | case3 => simp at h
  | case4 c cs _ _ ih => rw [ih fun hmem => h (List.mem_cons_of_mem c hmem)]

/-- A file that holds an encoded text is read as the text, with its line endings as
line feeds. -/
theorem read_of_encode {files : FileSystem} {name : String} {text : Text}
    (h : files.entry (Path.ofString name) = .file (Utf8.encode text)) :
    read files name = .ok (normalizeNewlines text) := by
  simp only [read, h, Utf8.decode_encode]

theorem read_of_encode_of_not_mem {files : FileSystem} {name : String} {text : Text}
    (h : files.entry (Path.ofString name) = .file (Utf8.encode text)) (hreturn : '\r' ∉ text) :
    read files name = .ok text := by
  rw [read_of_encode h, normalizeNewlines_of_not_mem hreturn]

end SourceFile

end Transcompiler
