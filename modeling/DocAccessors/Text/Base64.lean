import DocAccessors.Text.Basic

/-!
# Bytes in sixty-four characters

`Text.ofBase64?` reads bytes that are written in groups of four characters, each of which stands for six bits; the last
group is filled up with equals signs.
-/

namespace DocAccessors.Text

/-- The six bits that a character stands for. -/
def sixBits? (b : UInt8) : Option Nat :=
  if isUpperByte b then some (b.toNat - 65)
  else if isLowerByte b then some (b.toNat - 71)
  else if isDigitByte b then some (b.toNat + 4)
  else if b == 43 then some 62
  else if b == 47 then some 63
  else none

/-- The bytes of groups of four characters. -/
def ofGroups? : Text → Option Text
  | [] => some []
  | [a, b, 61, 61] => do
    let n := (← sixBits? a) * 64 + (← sixBits? b)
    return [UInt8.ofNat (n / 16)]
  | [a, b, c, 61] => do
    let n := ((← sixBits? a) * 64 + (← sixBits? b)) * 64 + (← sixBits? c)
    return [UInt8.ofNat (n / 1024), UInt8.ofNat (n / 4)]
  | a :: b :: c :: d :: r => do
    let n := (((← sixBits? a) * 64 + (← sixBits? b)) * 64 + (← sixBits? c)) * 64 + (← sixBits? d)
    return UInt8.ofNat (n / 65536) :: UInt8.ofNat (n / 256) :: UInt8.ofNat n :: (← ofGroups? r)
  | _ => none

/-- The bytes that a text stands for; line breaks in it do not count. -/
def ofBase64? (t : Text) : Option Text := ofGroups? (t.filter fun b => b != 10 && b != 13)

end DocAccessors.Text
