import DocAccessors.Constant.Basic
import DocAccessors.Number.Basic

/-!
# Rounding to binary formats

A `BinaryFormat` has numbers `m * 2 ^ e` with a bounded `m` and a bounded exponent. `BinaryFormat.round?` takes a
rational number to the nearest of them, and of two equally near ones to the one with an even `m`; it has no result
when that number would be too large.
-/

namespace DocAccessors

/-- A format of binary floating-point numbers. -/
structure BinaryFormat where
  /-- The number of bits of `m`. -/
  digits : Nat
  /-- The least exponent. -/
  minExponent : Int
  /-- All numbers are below two to this power. -/
  bound : Nat

namespace BinaryFormat

def single : BinaryFormat := ⟨24, -149, 128⟩

def double : BinaryFormat := ⟨53, -1074, 1024⟩

/-- Two to a signed power. -/
def pow2 (e : Int) : Rat := if 0 ≤ e then (twoTo e.toNat : Rat) else 1 / (twoTo (-e).toNat : Rat)

/-- The exponent of the largest power of two that is at most a positive number. -/
def exponentOf (q : Rat) : Int :=
  let e : Int := Int.ofNat q.num.natAbs.log2 - Int.ofNat q.den.log2
  if q < pow2 e then e - 1 else if pow2 (e + 1) ≤ q then e + 1 else e

/-- The nearest natural number to a number that is not negative; of two, the even one. -/
def nearest (q : Rat) : Nat :=
  let n := q.num.natAbs / q.den
  let rest := q.num.natAbs % q.den
  if 2 * rest < q.den then n
  else if q.den < 2 * rest then n + 1
  else if n % 2 = 0 then n else n + 1

/-- The nearest number of the format, unless it is too large. -/
def round? (f : BinaryFormat) (q : Rat) : Option Rat :=
  if q = 0 then some 0
  else
    let a := if q < 0 then -q else q
    let e := max (exponentOf a - (f.digits - 1 : Nat)) f.minExponent
    let r := (nearest (a * pow2 (-e)) : Rat) * pow2 e
    if pow2 f.bound ≤ r then none else some (if q < 0 then -r else r)

end BinaryFormat

end DocAccessors
