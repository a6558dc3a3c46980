/-
# UTF-8

A sequence of bytes is decoded only if it is the encoding of some text: overlong
forms, surrogates, code points beyond the last plane, stray continuation bytes
and cut-off sequences are all refused. The first fault is reported with the bytes
that were read as a sequence before it showed.

The file system measures names by the bytes of their encoding.
-/

import Transcompiler.Text.Basic

namespace Transcompiler.Utf8

/-- Why bytes are not an encoded text. -/
inductive Reason where
  /-- No sequence begins with the byte. -/
  | invalidStart
  /-- The byte behind the reported ones does not continue their sequence. -/
  | invalidContinuation
  /-- The bytes end inside of a sequence. -/
  | unexpectedEnd
deriving DecidableEq, Repr

/-- The text of a reason. -/
def Reason.message : Reason → String
  | .invalidStart => "invalid start byte"
  | .invalidContinuation => "invalid continuation byte"
  | .unexpectedEnd => "unexpected end of data"

/-- The first fault of bytes that are not an encoded text. -/
structure Fault where
  /-- How many bytes stand in front of the faulty sequence. -/
  position : Nat
  /-- The byte that the faulty sequence begins with. -/
  byte : UInt8
  /-- How many bytes of it were read. -/
  length : Nat
  /-- What is wrong with it. -/
  reason : Reason
deriving DecidableEq, Repr

/-- The text of a fault. -/
def Fault.message (fault : Fault) : String :=
  let bytes :=
    if fault.length = 1 then
      "byte 0x" ++ String.ofList (Nat.toDigits 16 fault.byte.toNat) ++ " in position " ++
        toString fault.position
    else
      "bytes in position " ++ toString fault.position ++ "-" ++
        toString (fault.position + fault.length - 1)
  "'utf-8' codec can't decode " ++ bytes ++ ": " ++ fault.reason.message

/-- What the first byte of a longer sequence says about it. -/
structure Lead where
  /-- How many bytes continue the sequence. -/
  more : Nat
  /-- The smallest second byte. -/
  low : UInt8
  /-- The largest second byte. -/
  high : UInt8
  /-- The bits of the code point that the first byte holds. -/
  bits : Nat
deriving DecidableEq, Repr

/-- The longer sequences by their first bytes. The bounds of the second byte keep
out overlong forms, surrogates and code points beyond the last plane. -/
def Lead.ofByte? (byte : UInt8) : Option Lead :=
  if byte < 0xC2 then none
  else if byte < 0xE0 then some ⟨1, 0x80, 0xBF, byte.toNat - 0xC0⟩
  else if byte = 0xE0 then some ⟨2, 0xA0, 0xBF, 0⟩
  else if byte = 0xED then some ⟨2, 0x80, 0x9F, 0xD⟩
  else if byte < 0xF0 then some ⟨2, 0x80, 0xBF, byte.toNat - 0xE0⟩
  else if byte = 0xF0 then some ⟨3, 0x90, 0xBF, 0⟩
  else if byte < 0xF4 then some ⟨3, 0x80, 0xBF, byte.toNat - 0xF0⟩
  else if byte = 0xF4 then some ⟨3, 0x80, 0x8F, 4⟩
  else none

/-- Reads the bytes that continue a sequence: how many are left, the bounds of the
next one, the bits so far and the bytes read so far. The result is the code point
and the bytes behind the sequence. -/
def continuation : Nat → UInt8 → UInt8 → Nat → Nat → List UInt8 →
    Except (Nat × Reason) (Nat × List UInt8)
  | 0, _, _, bits, _, rest => .ok (bits, rest)
  | _ + 1, _, _, _, count, [] => .error (count, .unexpectedEnd)
  | more + 1, low, high, bits, count, byte :: rest =>
    if low ≤ byte ∧ byte ≤ high then
      continuation more 0x80 0xBF (bits * 64 + (byte.toNat - 0x80)) (count + 1) rest
    else .error (count, .invalidContinuation)

theorem length_le_of_continuation {more : Nat} {low high : UInt8} {bits count code : Nat}
    {bytes rest : List UInt8}
    (h : continuation more low high bits count bytes = .ok (code, rest)) :
    rest.length ≤ bytes.length := by
  fun_induction continuation more low high bits count bytes with
  | case1 =>
    simp only [Except.ok.injEq, Prod.mk.injEq] at h
    exact Nat.le_of_eq (congrArg List.length h.2.symm)
  | case2 => cases h
  | case3 _ _ _ _ _ _ _ _ ih =>
    have := ih h
    simp only [List.length_cons]
    omega
  | case4 => cases h

/-- The text that bytes encode, where `position` bytes stand in front of them. -/
def decodeFrom (position : Nat) (bytes : List UInt8) : Except Fault Text :=
  match bytes with
  | [] => .ok []
  | byte :: rest =>
    if byte < 0x80 then
      match decodeFrom (position + 1) rest with
      | .error fault => .error fault
      | .ok text => .ok (Char.ofNat byte.toNat :: text)
    else
      match Lead.ofByte? byte with
      | none => .error ⟨position, byte, 1, .invalidStart⟩
      | some lead =>
        match _h : continuation lead.more lead.low lead.high lead.bits 1 rest with
        | .error (count, reason) => .error ⟨position, byte, count, reason⟩
        | .ok (code, behind) =>
          match decodeFrom (position + 1 + lead.more) behind with
          | .error fault => .error fault
          | .ok text => .ok (Char.ofNat code :: text)
termination_by bytes.length
decreasing_by
  · simp
  · have := length_le_of_continuation _h
    simp only [List.length_cons]
    omega

/-- The text that bytes encode. -/
def decode (bytes : List UInt8) : Except Fault Text :=
  decodeFrom 0 bytes

/-- How many bytes encode a text. -/
def size : Text → Nat
  | [] => 0
  | c :: cs => c.utf8Size + size cs

end Transcompiler.Utf8
