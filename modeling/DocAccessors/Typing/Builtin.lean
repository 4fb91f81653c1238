import DocAccessors.Typing.Operator

/-!
# Predeclared functions

Calls of the predeclared functions. Some of them have constant results for constant arguments.
-/

namespace DocAccessors.Typing

open DocAccessors.Source (Expr Token)

/-! ## Lengths -/

/-- A type, or the array that a pointer type points to. -/
def arrayBehind (ts : TypeTable) (t : Ty) : Ty :=
  match ts.under t with
  | .pointer e => match ts.under e with
    | .array n e => .array n e
    | _ => ts.under t
  | u => u

/-- Whether a value of a type has a length, or a capacity. -/
def hasLength (ts : TypeTable) (capacity : Bool) (t : Ty) : Bool :=
  match arrayBehind ts t with
  | .basic k => k.isString && !capacity
  | .array _ _ | .slice _ | .chan _ _ => true
  | .map _ _ => !capacity
  | _ => false

/-- The length or capacity of a value; `called` tells whether there is a call in it. -/
def lengthOf (capacity : Bool) (x : Operand) (called : Bool) : Check Operand := do
  let ts ← Check.types
  let int := Ty.basic .int
  match x.constant?, arrayBehind ts x.type with
  | some (.string t), _ => if capacity then Check.failed else return .ofConstant (.int t.length) int
  | _, .array n _ => return if called then .ofType int else .ofConstant (.int n) int
  | _, _ => if ts.allUnder (hasLength ts capacity) x.type then return .ofType int else Check.failed

/-! ## Complex numbers -/

def partKind? : BasicKind → Option BasicKind
  | .complex64 => some .float32
  | .complex128 => some .float64
  | .untypedComplex => some .untypedFloat
  | _ => none

/-- The complex kind with parts of a kind. -/
def complexKind? : BasicKind → Option BasicKind
  | .float32 => some .complex64
  | .float64 => some .complex128
  | .untypedFloat => some .untypedComplex
  | _ => none

/-- A constant number without a type as a real one, if it is. -/
def asReal (x : Operand) : Operand :=
  match x.constant?.bind Constant.toReal? with
  | some q => .ofConstant (.real q) (.basic .untypedFloat)
  | none => x

/-- The two parts of a complex number get the same type. -/
def matchParts (x y : Operand) : Check (Operand × Operand) := do
  match x.type.isUntyped, y.type.isUntyped with
  | false, false => return (x, y)
  | true, false => return (← convertUntyped x y.type, y)
  | false, true => return (x, ← convertUntyped y x.type)
  | true, true =>
    if x.isConstant && y.isConstant then return (asReal x, asReal y)
    else
      let float := Ty.basic .float64
      return (← convertUntyped x float, ← convertUntyped y float)

/-- The complex number with two parts. -/
def complexOf (x y : Operand) : Check Operand := do
  let (x, y) ← matchParts x y
  let ts ← Check.types
  if x.isInvalid || y.isInvalid then return .invalid
  else if !ts.same x.type y.type then Check.failed
  else match (ts.basic? x.type).bind complexKind? with
    | none => Check.failed
    | some k =>
      match x.constant?, y.constant? with
      | some a, some b =>
        match a.toReal?, b.toReal? with
        | some a, some b => return .ofConstant (.complex a b) (.basic k)
        | _, _ => return .ofConstant .unknown (.basic k)
      | _, _ => return .ofType (.basic k)

/-- The real or imaginary part of a complex number. -/
def partOf (imaginary : Bool) (x : Operand) : Check Operand := do
  let ts ← Check.types
  let isNumber := ts.isBasic BasicKind.isNumeric x.type
  let x ← match x.type.isUntyped, x.isConstant with
    | true, true => pure (if isNumber then { x with type := .basic .untypedComplex } else x)
    | true, false => convertUntyped x (.basic .complex128)
    | _, _ => pure x
  if x.isInvalid then return x
  else match (ts.basic? x.type).bind partKind? with
    | none => Check.failed
    | some k =>
      match x.constant? with
      | none => return .ofType (.basic k)
      | some v =>
        match v.toComplex? with
        | some (re, im) => return .ofConstant (.real (if imaginary then im else re)) (.basic k)
        | none => return .ofConstant .unknown (.basic k)

/-! ## Least and greatest -/

/-- The lesser or greater of two operands. -/
def extremum (greater : Bool) (x y : Operand) : Check Operand := do
  let (x, y) ← matchTypes x y
  let ts ← Check.types
  if x.isInvalid || y.isInvalid then return .invalid
  else if !ts.same x.type y.type || !ts.all BasicKind.isOrdered y.type then Check.failed
  else match x.constant?, y.constant? with
    | some a, some b => return if Constant.compare (if greater then .gtr else .lss) b a then y else x
    | _, _ =>
      let leaves := if x.type.isUntyped then x.allLeaves ++ y.allLeaves else []
      return { mode := .value, type := x.type, leaves }

/-- The least or greatest of some operands. -/
def extremumOf (greater : Bool) (x : Operand) (rest : List Operand) : Check Operand := do
  if !(← Check.types).all BasicKind.isOrdered x.type then Check.failed
  else
    let y ← rest.foldlM (fun x y => if x.isInvalid then pure x else extremum greater x y) x
    if y.isInvalid || y.isConstant then return y
    else
      let y ← assign y (some .emptyInterface)
      return if y.isInvalid then y else .ofType y.type

/-! ## Slices, maps and channels -/

def byteSlice : Ty := .slice (.basic .byte)

/-- The elements of a slice, for all types that a type can stand for. -/
def sliceElement? (ts : TypeTable) (t : Ty) : Option Ty :=
  match ts.common? t with
  | some (.slice e) => some e
  | _ => none

/-- Whether an operand is a text, or bytes and texts alike. -/
def isTextual (ts : TypeTable) (x : Operand) : Bool :=
  (ts.commonText? x.type).any (ts.isBasic BasicKind.isString)

def appendTo (slice : Operand) (args : List Operand) (spread : Bool) : Check Operand := do
  let ts ← Check.types
  let isText := match args with
    | [a] => spread && !slice.isNil && isAssignable ts slice byteSlice && isTextual ts a
    | _ => false
  if isText then return .ofType slice.type
  else match sliceElement? ts slice.type with
    | none => Check.failed
    | some e =>
      if spread then
        match args with
        | [a] => let _ ← assign a (some (.slice e))
        | _ => Check.fail
      else for a in args do
        let _ ← assign a (some e)
      return .ofType slice.type

/-- Whether elements can be copied from one operand to another one. -/
def canCopy (ts : TypeTable) (x y : Operand) : Bool :=
  (isAssignable ts x byteSlice && !x.isNil && isTextual ts y) ||
    match sliceElement? ts x.type, sliceElement? ts y.type with
    | some a, some b => ts.same a b
    | _, _ => false

/-- The type of the keys of a map, for all types that a type can stand for. -/
def keyOf? (ts : TypeTable) (t : Ty) : Option Ty := do
  let keys ← (← ts.specific? t).mapM fun u => match ts.under u.type with
    | .map k _ => some k
    | _ => none
  match keys with
  | [] => none
  | k :: ks => if ks.all (ts.same k) then some k else none

/-- Whether values of a type can be emptied. -/
def canClear (t : Ty) : Bool :=
  match t with
  | .map _ _ | .slice _ => true
  | _ => false

/-- Whether values of a type can be closed. -/
def canClose (t : Ty) : Bool :=
  match t with
  | .chan dir _ => dir != .receive
  | _ => false

/-! ## Calls -/

/-- The result of a call without a value. -/
def noValue : Operand := { mode := .noValue }

/-- The result of a predeclared function for its arguments; `called` tells whether there is a call in them. -/
def builtinResult (b : Builtin) (args : List Operand) (spread called : Bool) : Check Operand := do
  let ts ← Check.types
  match b, args with
  | .append, s :: rest => appendTo s rest spread
  | .cap, [x] => lengthOf true x called
  | .len, [x] => lengthOf false x called
  | .clear, [x] => if ts.allUnder canClear x.type then return noValue else Check.failed
  | .close, [x] => if ts.allUnder canClose x.type then return noValue else Check.failed
  | .complex, [x, y] => complexOf x y
  | .imag, [x] => partOf true x
  | .real, [x] => partOf false x
  | .copy, [x, y] => if canCopy ts x y then return .ofType (.basic .int) else Check.failed
  | .delete, [x, k] =>
    match keyOf? ts x.type with
    | some key =>
      let _ ← assign k (some key)
      return noValue
    | none => Check.failed
  | .max, x :: rest => extremumOf true x rest
  | .min, x :: rest => extremumOf false x rest
  | .panic, [x] =>
    let _ ← assign x (some .emptyInterface)
    return noValue
  | .print, xs | .println, xs =>
    for x in xs do
      let _ ← assign x none
    return noValue
  | .recover, [] => return .ofType .emptyInterface
  | _, _ => Check.failed

/-- A new value of a type, with sizes for some types. -/
def makeResult (t : Ty) (sizes : List Operand) : Check Operand := do
  let least := match (← Check.types).common? t with
    | some (.slice _) => some 1
    | some (.map _ _) | some (.chan _ _) => some 0
    | _ => none
  match least with
  | none => Check.failed
  | some least =>
    if sizes.length < least || least + 1 < sizes.length then Check.failed
    else
      let counts ← sizes.mapM fun x => indexValue x none
      match counts with
      | [.constant a, .constant b] => if b < a then Check.failed else return .ofType t
      | _ => return .ofType t

/-- A pointer to a new variable of a type, or with a value. -/
def newResult (env : Env) (x : Operand) : Check Operand := do
  if x.isInvalid then return x
  else if x.isType then
    Check.ask (.variable x.type)
    return .ofType (.pointer x.type)
  else
    env.needs 26
    let x ← if x.type.isUntyped then assign x none else single x
    return if x.isInvalid then x else .ofType (.pointer x.type)

namespace Rules

variable (r : Rules)

/-- A call of a predeclared function that does not start with a type. -/
def plainBuiltinCall (env : Env) (b : Builtin) (args : List Expr) (spread : Bool) : Check Operand := do
  let (least, more) := b.arity
  let before := (← get).called
  if b == .len || b == .cap then modify fun s => { s with called := false }
  let xs ← r.exprs env args
  let called := (← get).called
  if b == .len || b == .cap then modify fun s => { s with called := before }
  if xs.any (·.isInvalid) then return .invalid
  else if xs.length < least || (!more && least < xs.length) then Check.failed
  else if spread && 1 < xs.length && args.length == 1 then Check.failed
  else builtinResult b xs spread called

/-- A call of a predeclared function. -/
def builtinCall (env : Env) (b : Builtin) (offset : Nat) (args : List Expr) (spread : Bool) : Check Operand := do
  let x ←
    if spread && b != .append then Check.failed
    else if b.takesType then
      match b, args with
      | .new, [e] => do newResult env (← r.raw env {} e)
      | .make, e :: rest => do
        let t ← r.variableType env e
        let sizes ← rest.mapM (r.expr env)
        if t.isInvalid then pure .invalid else makeResult t sizes
      | _, _ => Check.failed
    else r.plainBuiltinCall env b args spread
  if b == .panic then modify fun s => { s with panics := (env.file, offset) :: s.panics }
  if !x.isInvalid && !x.isConstant then modify fun s => { s with called := true }
  return { x with effect := if b.hasEffect then .statement else .none }

end Rules

end DocAccessors.Typing
