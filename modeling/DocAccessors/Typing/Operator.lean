import DocAccessors.Constant.Literal
import DocAccessors.Typing.TypeExpression

/-!
# Values and operators

* `Rules.single` and `Rules.expr`: expressions that must be single values, `Rules.exprs` a list of them;
* `literal`: literals of numbers and texts;
* `unaryOf`, `shift`, `comparison` and `binaryOf`: what operators make of their operands.

An operator on constants has a constant result, which must be a value of its type. A shift of a constant without a type
by a number that is not constant has no type yet: it gets one, like the constant, where the expression is used.
-/

namespace DocAccessors.Typing

open DocAccessors.Source (Expr Token)

/-! ## Values -/

/-- An operand that must be a single value. -/
def single (x : Operand) : Check Operand := do
  if x.isInvalid then return x
  match x.type with
  | .tuple _ => Check.failed
  | _ => if x.isValue then return x else Check.failed

namespace Rules

variable (r : Rules)

/-- An expression that must be a single value. -/
def expr (env : Env) (e : Expr) : Check Operand := do single (← r.raw env {} e)

/-- An expression that must be a value of an expected type. -/
def exprFor (env : Env) (t : Option Ty) (e : Expr) : Check Operand := do single (← r.raw env { target := t } e)

/-- The values of an expression, which can be a call with several results. -/
def multiple (env : Env) (e : Expr) : Check (List Operand) := do
  let x ← r.raw env {} e
  match x.type with
  | .tuple ts => return ts.map fun t => .ofType t.2
  | _ => return [← single x]

/-- The operands of a list of expressions; a single call may give several. -/
def exprs (env : Env) (es : List Expr) : Check (List Operand) := do
  match es with
  | [e] => r.multiple env e
  | _ => es.mapM (r.expr env)

end Rules

/-- What an index, a size or a count is known to be. -/
inductive IndexValue where
  | invalid
  /-- It is known only when the program runs. -/
  | dynamic
  | constant (n : Nat)

/-- The number that an index is, if it is constant. -/
def IndexValue.constant? : IndexValue → Option Nat
  | .constant n => some n
  | _ => none

/-- An index, a size or a count: an integer that is not negative and below a length, if there is one. -/
def indexValue (x : Operand) (length : Option Nat) : Check IndexValue := do
  let x ← convertUntyped x (.basic .int)
  let failed : Check IndexValue := do
    Check.fail
    return .invalid
  if x.isInvalid then return .invalid
  else if !(← Check.types).all BasicKind.isInteger x.type then failed
  else match x.constant? with
    | none => return .dynamic
    | some v =>
      match (represent? v .int).bind Constant.toInt? with
      | some (.ofNat n) => if length.any (· ≤ n) then failed else return .constant n
      | _ => failed

/-! ## Literals -/

def literalKind : Token → BasicKind
  | .int => .untypedInt
  | .float => .untypedFloat
  | .imag => .untypedComplex
  | .char => .untypedRune
  | _ => .untypedString

/-- The longest number that is read. -/
def numberLimit : Nat := 10000

def literal (kind : Token) (value : Text) : Check Operand := do
  if Source.Token.isLiteral kind && kind != .string && kind != .char && numberLimit < value.length then Check.failed
  else match Constant.ofLiteral? kind value with
    | none => Check.failed
    | some v => checkedConstant v (.basic (literalKind kind))

/-! ## Unary operators -/

/-- The kinds that a unary operator takes. -/
def unaryTakes : Token → BasicKind → Bool
  | .add, k | .sub, k => k.isNumeric
  | .xor, k => k.isInteger
  | .not, k => k.isBoolean
  | _, _ => false

/-- The number of bits of a kind without a sign. -/
def unsignedWidth? (ts : TypeTable) (t : Ty) : Option Nat :=
  (ts.basic? t).bind fun k =>
    if k.isUnsigned then k.range?.map fun (_, hi) => Constant.bitLength hi else none

/-- Whether an expression is a composite literal. -/
def isComposite (e : Expr) : Bool :=
  match e.unparen with
  | .composite _ _ _ _ => true
  | _ => false

/-- A unary operator on an operand; `literal` tells whether that is a composite literal. -/
def unaryOf (op : Token) (x : Operand) (literal : Bool) : Check Operand := do
  let ts ← Check.types
  if x.isInvalid then return x
  else match op with
    | .and => if literal || x.isVariable then return .ofType (.pointer x.type) else Check.failed
    | .arrow =>
      match ts.chanElement? true x.type with
      | some t =>
        modify fun s => { s with called := true }
        return { mode := .commaOk, type := t, effect := .statement }
      | none => Check.failed
    | _ =>
      if !ts.all (unaryTakes op) x.type then Check.failed
      else match x.constant? with
        | some .unknown => return x
        | some v => checkedConstant (Constant.unary op (unsignedWidth? ts x.type) v) x.type
        | none => return { mode := .value, type := x.type, leaves := x.leaves }

/-! ## Shifts -/

/-- The largest number of bits that a constant is shifted by. -/
def shiftLimit : Nat := 1074

/-- The number of bits of a shift: an integer that is not negative; none if it is a fault. -/
def shiftCount? (y : Operand) : Check (Option (Option Constant)) := do
  let ts ← Check.types
  let failed : Check (Option (Option Constant)) := do
    Check.fail
    return none
  match y.constant? with
  | some v =>
    if v.toInt?.any (· < 0) then failed
    else if y.type.isUntyped then
      match represent? v .uint with
      | some n => return some (some n)
      | none => failed
    else if ts.all BasicKind.isInteger y.type || v == .unknown then return some (some v)
    else failed
  | none =>
    if ts.all BasicKind.isInteger y.type then return some none
    else if y.type.isUntyped then
      let y ← convertUntyped y (.basic .uint)
      return if y.isInvalid then none else some none
    else failed

def shift (op : Token) (x y : Operand) : Check Operand := do
  let ts ← Check.types
  let shifted := x.constant?.bind Constant.toInt?
  let isInteger := ts.all BasicKind.isInteger x.type
  if !isInteger && !(x.type.isUntyped && shifted.isSome) then Check.failed
  else match ← shiftCount? y with
    | none => return .invalid
    | some count =>
      let resultType := if isInteger then x.type else .basic .untypedInt
      match x.constant?, count with
      | some v, some n =>
        match shifted, n.toInt? with
        | some a, some n =>
          if shiftLimit < n.toNat then Check.failed
          else checkedConstant (.int (Constant.shift op a n.toNat)) resultType
        | _, _ =>
          Check.ensure (v == .unknown || n == .unknown)
          return .ofConstant .unknown resultType
      | some v, none =>
        if x.type.isUntyped then return { mode := .value, type := x.type, leaves := [(true, v)] }
        else return .ofType x.type
      | none, _ => return { mode := .value, type := x.type, leaves := x.leaves }

/-! ## Comparisons -/

def isComparison : Token → Bool
  | .eql | .neq | .lss | .leq | .gtr | .geq => true
  | _ => false

def comparison (op : Token) (x y : Operand) : Check Operand := do
  let ts ← Check.types
  let bool := Ty.basic .untypedBool
  if x.type.isInvalid || y.type.isInvalid then return .invalid
  else if !(isAssignable ts x y.type || isAssignable ts y x.type) then Check.failed
  else
    let defined :=
      if op == .eql || op == .neq then
        if x.isNil then ts.hasNil y.type
        else if y.isNil then ts.hasNil x.type
        else ts.isComparable x.type && ts.isComparable y.type
      else ts.all BasicKind.isOrdered x.type && ts.all BasicKind.isOrdered y.type
    if !defined then Check.failed
    else match x.constant?, y.constant? with
      | some a, some b =>
        return .ofConstant (.bool (a != .unknown && b != .unknown && Constant.compare op a b)) bool
      | _, _ =>
        settleDefault x
        settleDefault y
        return .ofType bool

/-! ## Binary operators -/

def binaryTakes : Token → BasicKind → Bool
  | .add, k => k.isNumeric || k.isString
  | .sub, k | .mul, k | .quo, k => k.isNumeric
  | .rem, k | .and, k | .or, k | .xor, k | .andNot, k => k.isInteger
  | .land, k | .lor, k => k.isBoolean
  | _, _ => false

def binaryOf (op : Token) (x y : Operand) : Check Operand := do
  if x.isInvalid || y.isInvalid then return .invalid
  else if op == .shl || op == .shr then shift op x y
  else
    let (x, y) ← matchTypes x y
    let ts ← Check.types
    if x.isInvalid || y.isInvalid then return .invalid
    else if isComparison op then comparison op x y
    else if x.type.isInvalid || y.type.isInvalid then return .invalid
    else if !ts.same x.type y.type || !ts.all (binaryTakes op) x.type then Check.failed
    else
      let divides := op == .quo || op == .rem
      let isInteger := ts.all BasicKind.isInteger x.type
      if divides && (x.isConstant || isInteger) && y.constant?.any Constant.isZero then Check.failed
      else match x.constant?, y.constant? with
        | some a, some b =>
          if a == .unknown || b == .unknown then return .ofConstant .unknown x.type
          else checkedConstant (Constant.binary op (!isInteger) a b) x.type
        | _, _ =>
          let leaves := if x.type.isUntyped then x.allLeaves ++ y.allLeaves else []
          return { mode := .value, type := x.type, leaves }

end DocAccessors.Typing
