import DocAccessors.Constant.Literal
import DocAccessors.Constant.Rounding
import DocAccessors.Number.Basic
import DocAccessors.Number.Calendar

/-!
# Plain scalars of YAML

A scalar without quotes stands for nothing, a truth value, a number, a date or a text, depending on how it looks.

* `Kind` is what a scalar stands for, `resolve` finds it out;
* `isDate` recognises dates, with or without a time of day;
* `readsAsText` is the condition under which a text can be written without quotes.
-/

namespace DocAccessors.Yaml

open Calendar (daysIn afterFraction isZone)

/-- A number that need not be an integer. -/
inductive FloatValue where
  | finite (q : Rat)
  | infinite (isNegative : Bool)
  | notANumber
  deriving DecidableEq

/-- What a plain scalar stands for. -/
inductive Kind where
  | null
  | bool (b : Bool)
  | int (n : Int)
  | float (v : FloatValue)
  | date
  | text
  deriving DecidableEq

/-! ## Dates -/

def shortNumber? : Text → Option (Nat × Text)
  | a :: r =>
    if !Text.isDigitByte a then none
    else match r with
      | b :: r' =>
        if Text.isDigitByte b then some ((a.toNat - 48) * 10 + (b.toNat - 48), r') else some (a.toNat - 48, r)
      | [] => some (a.toNat - 48, [])
  | [] => none

/-- A number in a range at the start of a text. -/
def numberIn? (lo hi : Nat) (t : Text) : Option (Nat × Text) :=
  (shortNumber? t).filter fun (n, _) => lo ≤ n && n ≤ hi

/-- A byte at the start of a text. -/
def byte? (b : UInt8) : Text → Option Text
  | c :: r => if b == c then some r else none
  | [] => none

def afterDate? (t : Text) : Option Text := do
  let year ← Text.toNat? (t.take 4)
  let (month, r) ← numberIn? 1 12 (← byte? 45 (t.drop 4))
  let (_, r) ← numberIn? 1 (daysIn year month) (← byte? 45 r)
  return r

/-- What follows a time of day. -/
def afterTime? (t : Text) : Option Text := do
  let (_, r) ← numberIn? 0 23 t
  let (_, r) ← numberIn? 0 59 (← byte? 58 r)
  let (_, r) ← numberIn? 0 59 (← byte? 58 r)
  return afterFraction r

/-- Whether a text is a date, alone or with a time of day. -/
def isDate (t : Text) : Bool :=
  (t.takeWhile Text.isDigitByte).length == 4 &&
  match afterDate? t with
  | none => false
  | some [] => true
  | some (s :: r) =>
    match afterTime? r with
    | none => false
    | some rest => if s == 32 then rest.isEmpty else (s == 84 || s == 116) && isZone rest

/-! ## Numbers -/

def fitsInteger (n : Int) : Bool := -(twoTo 63 : Int) ≤ n && n < twoTo 64

/-- An integer with an optional sign; a number above the signed range must have none. -/
def integer? (t : Text) : Option Int :=
  let value : Option (Int × Bool) := match t with
    | 43 :: r => (Constant.ofIntLiteral? r).map fun n => (n, true)
    | 45 :: r => (Constant.ofIntLiteral? r).map fun n => (-n, true)
    | r => (Constant.ofIntLiteral? r).map fun n => (n, false)
  value.bind fun (n, signed) => if fitsInteger n && !(signed && twoTo 63 ≤ n) then some n else none

/-- An integer with a base mark in front of its sign. -/
def markedInteger? (t : Text) : Option Int :=
  let digits? (base : Nat) (r : Text) : Option Int :=
    let value := match r with
      | 43 :: r => (Text.toNatBase? base r).map Int.ofNat
      | 45 :: r => (Text.toNatBase? base r).map fun n => -Int.ofNat n
      | r => (Text.toNatBase? base r).map Int.ofNat
    value.filter fun n => -(twoTo 63 : Int) ≤ n && n < twoTo 63
  match t with
  | 48 :: 98 :: r => digits? 2 r
  | 48 :: 111 :: r => digits? 8 r
  | _ => none

/-- Whether marks between the digits of a number all stand between two digits. -/
def marksAreBetweenDigits : Text → Bool
  | a :: 95 :: b :: r => Text.isDigitByte a && Text.isDigitByte b && marksAreBetweenDigits (b :: r)
  | b :: r => b != 95 && marksAreBetweenDigits r
  | [] => true

/-- Whether a text is a decimal number, with a fraction or an exponent or without. -/
def looksDecimal (t : Text) : Bool :=
  let t := match t with
    | 43 :: r | 45 :: r => r
    | r => r
  let whole := t.takeWhile Text.isDigitByte
  let r := t.drop whole.length
  let (fraction, r) := match r with
    | 46 :: r => (r.takeWhile Text.isDigitByte, r.dropWhile Text.isDigitByte)
    | r => ([], r)
  let exponent := match r with
    | [] => true
    | e :: r =>
      let digits := match r with
        | 43 :: r | 45 :: r => r
        | r => r
      (e == 101 || e == 69) && !digits.isEmpty && digits.all Text.isDigitByte
  (!whole.isEmpty || !fraction.isEmpty) && exponent

/-- The value of a decimal number, unless it is too large. -/
def decimalValue? (t : Text) : Option Rat :=
  let (r, negative) := match t with
    | 43 :: r => (r, false)
    | 45 :: r => (r, true)
    | r => (r, false)
  match Constant.ofScientific? 10 10 101 r with
  | some q => (BinaryFormat.double.round? q).map fun q => if negative then -q else q
  | none =>
    -- The exponent is out of all bounds, so the number is too large or next to nothing.
    let isZero := (r.takeWhile fun b => Text.lowerByte b != 101).all fun b => b == 48 || b == 46
    if isZero || r.any (· == 45) then some 0 else none

/-- The number that a text is, if it looks like one. -/
def decimalKind (t : Text) : Kind :=
  if looksDecimal t then
    match decimalValue? t with
    | some q => .float (.finite q)
    | none => .text
  else .text

/-- Whether a text is a number in base sixty, which other readers may take it for. -/
def looksSexagesimal (t : Text) : Bool :=
  let t := match t with
    | 43 :: r | 45 :: r => r
    | r => r
  match Text.split 58 t with
  | first :: second :: rest =>
    let digits := first.all fun b => Text.isDigitByte b || b == 95
    let groups := second :: rest
    let last := (groups.getLast?.getD []).takeWhile (· != 46)
    let tail := (groups.getLast?.getD []).drop last.length
    let group (g : Text) : Bool :=
      match g with
      | [a] => Text.isDigitByte a
      | [a, b] => 48 ≤ a && a ≤ 53 && Text.isDigitByte b
      | _ => false
    first.head?.any Text.isDigitByte && digits && (groups.dropLast ++ [last]).all group &&
      (tail.drop 1).all fun b => Text.isDigitByte b || b == 95
  | _ => false

/-! ## Words -/

def nullWords : List Text := ["", "~", "null", "Null", "NULL"]

def trueWords : List Text := ["true", "True", "TRUE"]

def falseWords : List Text := ["false", "False", "FALSE"]

/-- The words for what is not a number. -/
def nanWords : List Text := [".nan", ".NaN", ".NAN"]

/-- The words for the number above all others. -/
def infiniteWords : List Text := [".inf", ".Inf", ".INF", "+.inf", "+.Inf", "+.INF"]

/-- The words for the number below all others. -/
def negativeInfiniteWords : List Text := ["-.inf", "-.Inf", "-.INF"]

/-- Words for truth that are read where a truth value is asked for. -/
def oldTrueWords : List Text := ["y", "Y", "yes", "on"]

/-- Words for falsehood that are read where a truth value is asked for. -/
def oldFalseWords : List Text := ["n", "N", "no", "off"]

/-- Other spellings of these words, which readers of older versions take for truth values. -/
def olderWords : List Text := ["Yes", "YES", "On", "ON", "No", "NO", "Off", "OFF"]

/-! ## Resolution -/

/-- What a number, a date or a sign at the start may lead to. -/
def resolveNumber (t : Text) : Kind :=
  if isDate t then .date
  else
    let plain := t.filter (· != 95)
    match integer? plain with
    | some n => .int n
    | none =>
      match markedInteger? plain with
      | some n => .int n
      | none => decimalKind plain

/-- What a plain scalar stands for. -/
def resolve (t : Text) : Kind :=
  if nullWords.contains t then .null
  else if trueWords.contains t then .bool true
  else if falseWords.contains t then .bool false
  else if nanWords.contains t then .float .notANumber
  else if infiniteWords.contains t then .float (.infinite false)
  else if negativeInfiniteWords.contains t then .float (.infinite true)
  else match t with
    | b :: _ =>
      if b == 46 then (if marksAreBetweenDigits t then decimalKind (t.filter (· != 95)) else .text)
      else if b == 43 || b == 45 || Text.isDigitByte b then resolveNumber t
      else .text
    | [] => .null

/-- Whether a text without quotes is read as itself, also by readers of older versions. -/
def readsAsText (t : Text) : Bool :=
  resolve t == .text && !looksSexagesimal t && !oldTrueWords.contains t && !oldFalseWords.contains t &&
    !olderWords.contains t

end DocAccessors.Yaml
