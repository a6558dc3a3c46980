/-
# Elapsed time

Clock readings are binary fractions of seconds. An elapsed time is given in whole
milliseconds, toward zero, and is taken from the exact value of the difference in
milliseconds, however large that is. A difference that is infinite, or not a
number, gives no time.
-/

import Transcompiler.Breakdown

namespace Transcompiler.Clock

/-- The integer part of a binary fraction, read off its sign, its eleven bits of
exponent and its fifty-two bits of fraction. The largest exponent marks what is
infinite, or not a number. -/
def truncate (x : Float) : Except Breakdown Int :=
  let bits := x.toBits.toNat
  let exponent := (bits >>> 52) % 0x800
  let fraction := bits % 0x10000000000000
  let significand := if exponent = 0 then fraction else fraction + 0x10000000000000
  let magnitude : Nat :=
    if 1075 ≤ exponent then significand <<< (exponent - 1075)
    else significand >>> (1075 - max exponent 1)
  if exponent = 0x7FF then .error (if fraction = 0 then .endlessTime else .undefinedTime)
  else if bits >>> 63 = 0 then .ok (magnitude : Int)
  else .ok (-(magnitude : Int))

/-- The whole milliseconds from one clock reading to a later one. -/
def milliseconds (start stop : Float) : Except Breakdown Int :=
  truncate ((stop - start) * 1000)

end Transcompiler.Clock
