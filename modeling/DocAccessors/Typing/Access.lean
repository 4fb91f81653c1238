import DocAccessors.Typing.Operator

/-!
# Indices, slices, selectors and assertions

Expressions that pick a part of a value, or see it as a value of another type.

* `Rules.indexOperand`: an element of an array, a slice, a text or a map, or what is generic with type arguments;
* `Rules.sliceExpr`: a slice of an array, a slice or a text;
* `Rules.selector`: a field or a method;
* `Rules.assertion`: a value of an interface as one of another type.
-/

namespace DocAccessors.Typing

open DocAccessors.Source (Expr Ident)

/-! ## Indices -/

/-- What an index picks: the length that bounds it, the type of keys, and the element. -/
structure Part where
  length : Option Nat := none
  key : Option Ty := none
  element : Operand

def textLength? (x : Operand) : Option Nat :=
  match x.constant? with
  | some (.string t) => some t.length
  | _ => none

/-- What an index picks in a value of a type that underlies that of an operand. -/
def part? (ts : TypeTable) (x : Operand) (u : Ty) : Option Part :=
  match u with
  | .basic k => if k.isString then some { length := textLength? x, element := .ofType (.basic .byte) } else none
  | .array n t => some { length := some n, element := .ofMode (if x.isVariable then .variable else .value) t }
  | .pointer t => match ts.under t with
    | .array n e => some { length := some n, element := .ofMode .variable e }
    | _ => none
  | .slice t => some { element := .ofMode .variable t }
  | .map k v => some { key := some k, element := .ofMode .mapIndex v }
  | _ => none

/-- What an index picks in one of two values, if that makes no difference. -/
def joinParts? (ts : TypeTable) (p q : Part) : Option Part :=
  let sameKeys := match p.key, q.key with
    | none, none => true
    | some k, some l => ts.same k l
    | _, _ => false
  if !sameKeys || !ts.same p.element.type q.element.type then none
  else
    let length := match p.length, q.length with
      | some n, some m => some (min n m)
      | n, _ => n
    some { p with length, element := if p.element.isVariable then { p.element with mode := q.element.mode } else p.element }

/-- What an index picks in an operand, for all types that its type can stand for. -/
def partOf? (ts : TypeTable) (x : Operand) : Option Part := do
  match ← (← ts.specific? x.type).mapM fun u => part? ts x (ts.under u.type) with
  | [] => none
  | p :: ps => ps.foldlM (joinParts? ts) p

namespace Rules

variable (r : Rules)

/-- An expression that must be a value or a type. -/
def exprOrType (env : Env) (expected : Expected) (e : Expr) : Check Operand := do
  let x ← r.raw env expected e
  match x.mode, x.type with
  | .noValue, _ | _, .tuple _ => Check.failed
  | _, _ => return x

/-- An index expression, a generic type with its arguments, or a generic function with some of them. -/
def indexOperand (env : Env) (e : Expr) (indices : List Expr) : Check Operand := do
  let x ← r.exprOrType env { generic := true } e
  let ts ← Check.types
  if x.isInvalid then return .invalid
  else if x.isType then
    let t ← instantiate x.type (← indices.mapM (r.variableType env))
    Check.ask (.variable t)
    return if t.isInvalid then .invalid else .ofMode .type t
  else if x.isGeneric then
    let typeArgs ← indices.mapM (r.variableType env)
    if typeArgs.any (·.isInvalid) then return .invalid
    else if x.type.openParams.length < typeArgs.length then Check.failed
    else return { x with typeArgs }
  else if !x.isValue then Check.failed
  else match indices, partOf? ts x with
    | [i], some p =>
      let i ← r.expr env i
      match p.key with
      | some k => let _ ← assign i (some k)
      | none => let _ ← indexValue i p.length
      return p.element
    | _, _ => Check.failed

/-! ## Slices -/

/-- The length that bounds the indices of a slice expression, and its type. -/
def slicePart? (ts : TypeTable) (x : Operand) (three : Bool) : Option (Option Nat × Ty) := do
  let isText (u : Ty) : Bool := ts.isBasic BasicKind.isString u
  match ← ts.commonText? x.type with
  | .array n t => if x.isVariable then some (some n, .slice t) else none
  | .pointer t => match ts.under t with
    | .array n e => some (some n, .slice e)
    | _ => none
  | .slice _ => some (none, x.type)
  | u =>
    if isText u && !three then some (textLength? x, if x.type.isUntyped then .basic .string else x.type) else none

/-- A slice expression. Constant bounds must not decrease. -/
def sliceExpr (env : Env) (e : Expr) (low high max : Option Expr) (three : Bool) : Check Operand := do
  let x ← r.expr env e
  if x.isInvalid then return .invalid
  else match slicePart? (← Check.types) x three with
    | none => Check.failed
    | some (length, t) =>
      Check.ensure (!three || (high.isSome && max.isSome))
      let bound (b : Option Expr) (other : Option Nat) : Check (Option Nat) := do
        match b with
        | some b => return (← indexValue (← r.expr env b) (length.map (· + 1))).constant?
        | none => return other
      let bounds := [← bound low (some 0), ← bound high length, ← bound max length].filterMap id
      Check.ensure ((bounds.zip (bounds.drop 1)).all fun (a, b) => a ≤ b)
      return .ofType t

/-! ## Selectors -/

/-- The type of a method. One with type parameters gets new ones when something is put in for the parameters of the
type that has it. -/
def methodType (s : Selected) : Check Ty := do
  match s.type with
  | .func tps ps rs v =>
    if tps.isEmpty || s.receiver.isEmpty then return s.type
    else
      let ids ← renamedIn s.receiver tps
      return match (Ty.func [] ps rs v).subst (tps.zip (← paramTypes ids)) with
        | .func _ ps rs v => .func ids ps rs v
        | t => t
  | t => return t

/-- A method as a function of its receiver. -/
def methodExpression (receiver : Ty) (method : Ty) : Ty :=
  match method with
  | .func tps ps rs v =>
    let isNamed := (ps.head?).any fun p => !p.1.isEmpty
    .func tps ((if isNamed then text "_" else [], receiver) :: ps) rs v
  | t => t

def selector (env : Env) (e : Expr) (sel : Ident) : Check Operand := do
  let x ← r.exprOrType env {} e
  let ts ← Check.types
  if x.isInvalid then return .invalid
  else if !x.isType && !x.isValue then Check.failed
  else match ts.find? sel.name x.type x.isVariable with
    | none => Check.failed
    | some s =>
      if s.isField then
        if x.isType then Check.failed
        else return .ofMode (if x.isVariable || s.throughPointer then .variable else .value) s.type
      else
        if s.receiver.isEmpty then s.object.forM Check.noteUse
        let t ← methodType s
        return .ofType (if x.isType then methodExpression x.type t else t)

/-! ## Assertions -/

/-- Whether a value of an interface can be of a type. -/
def canAssert (ts : TypeTable) (interface t : Ty) : Bool :=
  ts.isInterface t || t.isParam || ts.hasMethods false t (ts.typeSet interface).methods

def assertion (env : Env) (e : Expr) (type : Option Expr) : Check Operand := do
  let x ← r.expr env e
  match type with
  | none => Check.failed
  | some t =>
    let ts ← Check.types
    if x.isInvalid then return .invalid
    else if !ts.isInterface x.type then Check.failed
    else
      let t ← r.variableType env t
      let ts ← Check.types
      if t.isInvalid then return .invalid
      else if !canAssert ts x.type t then Check.failed
      else return .ofMode .commaOk t

end Rules

end DocAccessors.Typing
