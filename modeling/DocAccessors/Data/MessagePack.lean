import DocAccessors.Data.Basic

/-!
# Writing MessagePack

Every number, length and count is written in the shortest form that holds it.
-/

namespace DocAccessors.MessagePack

/-- A number in a fixed number of bytes, the most significant first. -/
def bigEndian : Nat → Nat → Text
  | 0, _ => []
  | width + 1, n => bigEndian width (n / 256) ++ [UInt8.ofNat (n % 256)]

/-- A natural number. -/
def ofNat (n : Nat) : Text :=
  if n < 0x80 then [UInt8.ofNat n]
  else if n < 0x100 then 0xcc :: bigEndian 1 n
  else if n < 0x10000 then 0xcd :: bigEndian 2 n
  else if n < 0x100000000 then 0xce :: bigEndian 4 n
  else 0xcf :: bigEndian 8 n

def ofInt (n : Int) : Text :=
  match n with
  | .ofNat n => ofNat n
  | .negSucc m =>
    -- The number is `-(m + 1)`.
    if m < 0x20 then [UInt8.ofNat (0xff - m)]
    else if m < 0x80 then 0xd0 :: bigEndian 1 (0xff - m)
    else if m < 0x8000 then 0xd1 :: bigEndian 2 (0xffff - m)
    else if m < 0x80000000 then 0xd2 :: bigEndian 4 (0xffffffff - m)
    else 0xd3 :: bigEndian 8 (0xffffffffffffffff - m)

def ofText (t : Text) : Text :=
  let n := t.length
  (if n < 32 then [UInt8.ofNat (0xa0 + n)]
    else if n < 0x100 then 0xd9 :: bigEndian 1 n
    else if n < 0x10000 then 0xda :: bigEndian 2 n
    else 0xdb :: bigEndian 4 n) ++ t

/-- The count in front of a list or a record, given the codes for short and long ones. -/
def count (short long : UInt8) (n : Nat) : Text :=
  if n < 16 then [short + UInt8.ofNat n]
  else if n < 0x10000 then long :: bigEndian 2 n
  else (long + 1) :: bigEndian 4 n

mutual

def write : Datum → Text
  | .null => [0xc0]
  | .bool false => [0xc2]
  | .bool true => [0xc3]
  | .int n => ofInt n
  | .other t => ofText t
  | .text t => ofText t
  | .list xs => count 0x90 0xdc xs.length ++ writeList xs
  | .record fs => count 0x80 0xde fs.length ++ writeFields fs

def writeList : List Datum → Text
  | [] => []
  | x :: xs => write x ++ writeList xs

def writeFields : List (Text × Datum) → Text
  | [] => []
  | (k, v) :: fs => ofText k ++ write v ++ writeFields fs

end

end DocAccessors.MessagePack
