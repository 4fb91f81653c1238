import DocAccessors.Typing.Instance

/-!
# Conversions

When a value of one type can be used as, or be turned into, a value of another one.

* `represent?`: a constant as a value of a basic kind;
* `implicit?`: the type and value that an operand without a type takes on;
* `isAssignable` and `assign`: an operand used where a type is expected;
* `isConvertible` and `convert`: an operand turned into another type explicitly;
* `matchTypes`: two operands that get the same type.

A type parameter stands for all types that it can be: what is asked of it is asked of each of them.
-/

namespace DocAccessors.Typing

open DocAccessors.Source (Token)

/-! ## Constants of a kind -/

/-- A complex number with both parts of a format. -/
def roundComplex? (f : BinaryFormat) (re im : Rat) : Option Constant := do
  return .complex (← f.round? re) (← f.round? im)

/-- A constant as a value of a basic kind, rounded where the kind rounds; there is none when the kind has no such
value. -/
def represent? (v : Constant) (k : BasicKind) : Option Constant :=
  match v with
  | .unknown => some .unknown
  | _ =>
    if k.isInteger then
      v.toInt?.bind fun n =>
        match k.range? with
        | some (lo, hi) => if lo ≤ n && n ≤ hi then some (.int n) else none
        | none => some (.int n)
    else match k with
      | .float32 => v.toReal?.bind fun q => (BinaryFormat.single.round? q).map .real
      | .float64 => v.toReal?.bind fun q => (BinaryFormat.double.round? q).map .real
      | .untypedFloat => v.toReal?.map .real
      | .complex64 => v.toComplex?.bind fun (re, im) => roundComplex? .single re im
      | .complex128 => v.toComplex?.bind fun (re, im) => roundComplex? .double re im
      | .untypedComplex => v.toComplex?.map fun (re, im) => .complex re im
      | _ =>
        match v with
        | .string _ => if k.isString then some v else none
        | .bool _ => if k.isBoolean then some v else none
        | _ => none

/-- The larger of two kinds without a type. -/
def largerKind? (a b : BasicKind) : Option BasicKind :=
  if a == b then some a
  else if a.isNumeric && b.isNumeric then some (if a.rank ≤ b.rank then b else a)
  else none

/-- Whether values that are not constant and have no type can become values of a kind. -/
def fitsKind (k target : BasicKind) : Bool :=
  if k.isBoolean then target.isBoolean
  else if k.isNumeric then target.isNumeric
  else if k.isString then target.isString
  else false

/-- The type and, for a constant, the value that an operand without a type takes on where a type is expected that is
no type parameter. -/
def implicitPlain? (ts : TypeTable) (x : Operand) (target : Ty) : Option Operand :=
  match x.type.untypedKind? with
  | none => some x
  | some k =>
    if target.isInvalid then some x
    else match target.untypedKind? with
      | some l => (largerKind? k l).map fun m => { x with type := .basic m }
      | none =>
        match ts.under target with
        | .basic u =>
          match x.constant? with
          | some v => (represent? v u).map fun v => { x with mode := .constant v, type := target }
          | none => if fitsKind k u then some { x with type := target } else none
        | .interface _ _ =>
          if x.isNil then some x
          else if (ts.typeSet target).isAll then some { x with type := .basic k.default }
          else none
        | .pointer _ | .func _ _ _ _ | .slice _ | .map _ _ | .chan _ _ => if x.isNil then some x else none
        | _ => none

/-- The type and, for a constant, the value that an operand without a type takes on where a type is expected. -/
def implicit? (ts : TypeTable) (x : Operand) (target : Ty) : Option Operand :=
  if !x.type.isUntyped || !target.isParam then implicitPlain? ts x target
  else if ts.allUnder (fun u => (implicitPlain? ts x u).isSome) target then
    some (if x.isNil then x else { x with type := target })
  else none

/-- Gives a type to the constants of an expression; they must be values of it, and integers where they are shifted. -/
def settleLeaves (leaves : List (Bool × Constant)) (t : Ty) : Check Unit := do
  let ts ← Check.types
  for (shifted, v) in leaves do
    Check.ensure (!shifted || ts.all BasicKind.isInteger t)
    Check.ensure (implicit? ts (.ofConstant v (.basic .untypedFloat)) t).isSome

/-- Takes an operand without a type to a type; there may be no such value. -/
def convertUntyped (x : Operand) (t : Ty) : Check Operand := do
  if x.isInvalid || !x.type.isUntyped then return x
  match implicit? (← Check.types) x t with
  | none => Check.failed
  | some y =>
    if y.type.isUntyped then return y
    else
      settleLeaves x.leaves y.type
      return { y with leaves := [] }

/-- Gives an operand that has no type the type that it gets by itself. -/
def settleDefault (x : Operand) : Check Unit :=
  match x.type.untypedKind? with
  | some .untypedNil | none => return
  | some k => settleLeaves x.allLeaves (.basic k.default)

/-! ## Assignability -/

/-- Whether an operand can be assigned to a variable of a type, where neither is a type parameter. -/
def isAssignablePlain (ts : TypeTable) (x : Operand) (t : Ty) : Bool :=
  if x.type.isInvalid || t.isInvalid then true
  else if ts.same x.type t then true
  else if x.type.isUntyped then (implicit? ts x t).isSome
  else
    let vu := ts.under x.type
    let tu := ts.under t
    let named := x.type.hasName && t.hasName
    let params := x.type.isParam || t.isParam
    if !named && !params && ts.same vu tu then true
    else if ts.isInterface t && ts.implements x.type t then true
    else match vu, tu with
      | .chan .both e, .chan _ f => !named && ts.same e f
      | _, _ => false

/-- Whether an operand can be assigned to a variable of a type. -/
def isAssignable (ts : TypeTable) (x : Operand) (t : Ty) : Bool :=
  let terms (t : Ty) : List Term := (ts.specific? t).getD []
  if x.isInvalid || isAssignablePlain ts x t then true
  else if x.type.isUntyped then false
  else if t.isParam && !x.type.hasName then
    !(terms t).isEmpty && (terms t).all fun u => isAssignablePlain ts x u.type
  else if x.type.isParam && !t.hasName then
    !(terms x.type).isEmpty && (terms x.type).all fun u => isAssignablePlain ts { x with type := u.type } t
  else false

/-- Uses an operand where a type is expected, or where any type will do. -/
def assign (x : Operand) (t : Option Ty) : Check Operand := do
  if x.isInvalid then return x
  let ts ← Check.types
  match x.type with
  | .tuple _ => Check.failed
  | _ =>
    if !x.isValue then Check.failed
    else
      let x ← match x.type.untypedKind? with
        | none => settled x t
        | some k =>
          let toDefault := match t with
            | none => true
            | some t => ts.isInterface t
          if t.isNone && k == .untypedNil then Check.failed
          else convertUntyped x (if toDefault then .basic k.default else t.getD .invalid)
      match t with
      | none => return x
      | some t => if isAssignable ts x t then return x else Check.failed

/-! ## Explicit conversion -/

/-- The text of the code point with a number; only the lowest 32 bits of the number count. -/
def codePointText (n : Int) : Text :=
  let code := n.toNat % twoTo 32
  if n < 0 || twoTo 64 ≤ n.toNat then Text.ofChar Text.replacement
  else (Text.ofCode? code).getD (Text.ofChar Text.replacement)

/-- A constant turned into a value of a basic kind. -/
def convertConstant? (ts : TypeTable) (x : Operand) (v : Constant) (k : BasicKind) : Option Constant :=
  match represent? v k with
  | some r => some r
  | none =>
    if ts.isBasic BasicKind.isInteger x.type && k.isString then v.toInt?.map fun n => .string (codePointText n)
    else none

/-- Whether a type is a slice of bytes or of code points. -/
def isByteSlice (ts : TypeTable) (t : Ty) : Bool :=
  match ts.under t with
  | .slice e => (ts.basic? e).any fun k => k.canonical == .uint8 || k.canonical == .int32
  | _ => false

/-- Whether an operand that is not constant can be turned into a type, where neither is a type parameter. -/
def isConvertiblePlain (ts : TypeTable) (x : Operand) (t : Ty) : Bool :=
  let vu := ts.under x.type
  let tu := ts.under t
  let params := x.type.isParam || t.isParam
  let isReal (k : BasicKind) : Bool := k.isInteger || k.isFloat
  isAssignable ts x t || (!params && ts.sameUntagged vu tu) ||
  (match x.type.unalias, t.unalias with
    | .pointer a, .pointer b => !a.isParam && !b.isParam && ts.sameUntagged (ts.under a) (ts.under b)
    | _, _ => false) ||
  (match vu, tu with
    | .basic a, .basic b =>
      (isReal a && isReal b) || (a.isComplex && b.isComplex) || (b.isString && (a.isInteger || a.isString))
    | .basic a, .slice _ => a.isString && isByteSlice ts t
    | .slice _, .basic b => b.isString && isByteSlice ts x.type
    | .slice a, .array _ b => ts.same a b
    | .slice a, .pointer b => match ts.under b with
      | .array _ c => ts.same a c
      | _ => false
    | _, _ => false)

/-- Whether an operand that is not constant can be turned into a type. -/
def isConvertible (ts : TypeTable) (x : Operand) (t : Ty) : Bool :=
  let terms (t : Ty) : List Term := (ts.specific? t).getD []
  isConvertiblePlain ts x t || ((x.type.isParam || t.isParam) &&
    !(terms x.type).isEmpty && !(terms t).isEmpty &&
    (terms x.type).all fun u => (terms t).all fun w => isConvertiblePlain ts { x with type := u.type } w.type)

/-- Whether a constant can be turned into each type that a type parameter can stand for. -/
def isConvertibleToAll (ts : TypeTable) (x : Operand) (v : Constant) (t : Ty) : Bool :=
  ts.allUnder (fun u =>
    (ts.isBasic BasicKind.isString x.type && isByteSlice ts u) || match u with
      | .basic k => (convertConstant? ts x v k).isSome
      | _ => false) t

def convert (x : Operand) (t : Ty) : Check Operand := do
  if x.isInvalid || t.isInvalid then return .invalid
  let ts ← Check.types
  let done (y : Operand) : Operand := { y with effect := .conversion }
  match x.constant? with
  | some v =>
    match ts.basic? t with
    | some k =>
      if !k.isConstant then Check.failed
      else match convertConstant? ts x v k with
        | some v => return done (.ofConstant v t)
        | none => Check.failed
    | none =>
      let isPossible := if t.isParam then isConvertibleToAll ts x v t else isConvertible ts x t
      if !isPossible then Check.failed
      else
        settleDefault x
        return done (.ofType t)
  | none =>
    if !isConvertible ts x t then Check.failed
    else
      match x.type.untypedKind? with
      | some k => settleLeaves x.leaves (if ts.isInterface t then .basic k.default else t)
      | none => pure ()
      return done (.ofType t)

/-! ## Operands of one type -/

/-- Whether one of two operands could take on the type of the other. -/
def mayMatch (ts : TypeTable) (x y : Operand) : Bool :=
  if !x.type.isUntyped && !y.type.isUntyped then false
  else if ts.isInterface x.type || ts.isInterface y.type then true
  else if ts.all BasicKind.isBoolean x.type != ts.all BasicKind.isBoolean y.type then false
  else if ts.all BasicKind.isString x.type != ts.all BasicKind.isString y.type then false
  else if x.isNil then ts.hasNil y.type
  else if y.isNil then ts.hasNil x.type
  else !ts.isPointer x.type && !ts.isPointer y.type

/-- Gives two operands the same type where one of them has none. -/
def matchTypes (x y : Operand) : Check (Operand × Operand) := do
  if mayMatch (← Check.types) x y then
    let x' ← convertUntyped x y.type
    if x'.isInvalid then return (x', x')
    let y' ← convertUntyped y x'.type
    return (x', y')
  else return (x, y)

/-! ## Size of constants -/

/-- The number of bits that an integer without a type may have. -/
def untypedBits : Nat := 512

/-- The result of an operation on constants: it must be a value of its type. -/
def checkedConstant (v : Constant) (t : Ty) : Check Operand := do
  match v with
  | .unknown =>
    Check.fail
    return .ofConstant .unknown t
  | _ =>
    if t.isUntyped then
      match v with
      | .int n =>
        if untypedBits < Constant.bitLength n then
          Check.fail
          return .ofConstant .unknown t
        else return .ofConstant v t
      | _ => return .ofConstant v t
    else match (← Check.types).basic? t with
      | some k =>
        match represent? v k with
        | some v => return .ofConstant v t
        | none => Check.failed
      | none => return .ofConstant v t

end DocAccessors.Typing
