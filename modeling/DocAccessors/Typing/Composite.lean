import DocAccessors.Typing.Operator

/-!
# Composite literals

Literals of structs, arrays, slices and maps. An element that is itself a literal can leave out its type; where a
pointer is expected it stands for the address of the literal.

* `Rules.structElements`, `Rules.indexedElements` and `Rules.mapElements`: the elements of one kind of literal;
* `Rules.composite`: a composite literal.
-/

namespace DocAccessors.Typing

open DocAccessors.Source (Expr)

def isKeyed : Expr → Bool
  | .keyValue _ _ _ => true
  | _ => false

/-- A number as a complex one, and any other constant as it is, so that equal numbers are equal. -/
def keyConstant (v : Constant) : Constant :=
  match v.toComplex? with
  | some (re, im) => .complex re im
  | none => v

/-- A field of a struct: the path of names that leads to it, its type, and whether a pointer is on the way. -/
structure FieldPath where
  path : List Text
  type : Ty
  throughPointer : Bool

/-- The field that a name picks in a struct, also in the structs that are embedded in it. -/
def fieldPath? (ts : TypeTable) (name : Text) (fs : List ((Text × Bool × Text) × Ty)) : Nat → Option FieldPath
  | 0 => none
  | fuel + 1 =>
    match fs.find? fun f => f.1.1 == name with
    | some f => some ⟨[name], f.2, false⟩
    | none =>
      let found := fs.filterMap fun f => do
        if !f.1.2.1 then none
        let (e, isPointer) := f.2.deref
        match ts.under e with
        | .struct gs =>
          let p ← fieldPath? ts name gs fuel
          some { p with path := f.1.1 :: p.path, throughPointer := isPointer || p.throughPointer }
        | _ => none
      let least := (found.map (·.path.length)).min?
      match found.filter fun p => some p.path.length == least with
      | [p] => some p
      | _ => none

namespace Rules

variable (r : Rules)

/-- An element of a composite literal with an expected type. -/
def elementExpr (env : Env) (t : Ty) (e : Expr) : Check Operand := do
  let x ← r.raw env { literal := some t, target := some t } e
  assign (← single x) (some t)

def fieldValue (env : Env) (t : Ty) (e : Expr) : Check Unit := do
  let _ ← assign (← r.exprFor env (some t) e) (some t)

/-- The fields of a struct literal, by name. A name can be that of a field of an embedded struct; no part of the struct
may be given twice. -/
def keyedFields (env : Env) (t : Ty) (fs : List ((Text × Bool × Text) × Ty)) :
    List (List Text) → List Expr → Check Unit
  | _, [] => return
  | before, .keyValue (.ident k) _ v :: es => do
    let ts ← Check.types
    let selected := ts.find? k.name t true
    match fieldPath? ts k.name fs 50 with
    | none =>
      Check.fail
      keyedFields env t fs before es
    | some p =>
      if 1 < p.path.length then
        env.needs 27
        Check.ensure (selected.any (·.isField) && !p.throughPointer)
      let overlaps (q : List Text) : Bool := q.isPrefixOf p.path || p.path.isPrefixOf q
      Check.ensure (k.name == text "_" || !before.any overlaps)
      Check.ensure (k.name != text "_")
      r.fieldValue env p.type v
      keyedFields env t fs (p.path :: before) es
  | before, _ :: es => do
    Check.fail
    keyedFields env t fs before es

def structElements (env : Env) (t : Ty) (fs : List ((Text × Bool × Text) × Ty)) (es : List Expr) : Check Unit := do
  match es with
  | [] => return
  | e :: _ =>
    if isKeyed e then r.keyedFields env t fs [] es
    else
      Check.ensure (es.length == fs.length)
      for (f, e) in fs.zip es do
        r.fieldValue env f.2 e

/-- The elements of an array or slice literal: the number of elements. -/
def indexedElements (env : Env) (t : Ty) (limit : Option Nat) : Nat → List Nat → List Expr → Check Nat
  | next, _, [] => return next
  | next, seen, e :: es => do
    let (here, v) ← match e with
      | .keyValue k _ v => do
        match ← indexValue (← r.expr env k) limit with
        | .constant n => pure (n, v)
        | _ =>
          Check.fail
          pure (next, v)
      | v => do
        Check.ensure (limit.all (next < ·))
        pure (next, v)
    Check.ensure (!seen.contains here)
    let _ ← r.elementExpr env t v
    let rest ← indexedElements env t limit (here + 1) (here :: seen) es
    return max (here + 1) rest

/-- The elements of a map literal. Constant keys must differ; keys of an interface also differ by their types. -/
def mapElements (env : Env) (key value : Ty) : List (Constant × Ty) → List Expr → Check Unit
  | _, [] => return
  | seen, .keyValue k _ v :: es => do
    let x ← r.elementExpr env key k
    let ts ← Check.types
    let isSame (c : Constant) (s : Constant × Ty) : Bool :=
      s.1 == c && (!ts.isInterface key || ts.same s.2 x.type)
    let seen' ← match x.constant? with
      | some c =>
        let c := keyConstant c
        Check.ensure (c == .unknown || !seen.any (isSame c))
        pure ((c, x.type) :: seen)
      | none => pure seen
    let _ ← r.elementExpr env value v
    mapElements env key value seen' es
  | seen, _ :: es => do
    Check.fail
    mapElements env key value seen es

/-- A composite literal of a type, with the elements of another one. -/
def compositeOf (env : Env) (t base : Ty) (es : List Expr) : Check Operand := do
  match (← Check.types).common? base with
  | some (.struct fs) =>
    r.structElements env base fs es
    return .ofType t
  | some (.array n e) =>
    let _ ← r.indexedElements env e (some n) 0 [] es
    return .ofType t
  | some (.slice e) =>
    let _ ← r.indexedElements env e none 0 [] es
    return .ofType t
  | some (.map k v) =>
    r.mapElements env k v [] es
    return .ofType t
  | _ => Check.failed

/-- A composite literal; an array type may leave its length to the elements. -/
def composite (env : Env) (hint : Option Ty) (type : Option Expr) (es : List Expr) : Check Operand := do
  match type with
  | some (.arrayType _ (some (.ellipsis _ none)) element) =>
    let e ← r.variableType env element
    let n ← r.indexedElements env e none 0 [] es
    return .ofType (.array n e)
  | some e =>
    let t ← r.type env e
    if t.isInvalid then return .invalid else r.compositeOf env t t es
  | none =>
    match hint with
    | none => Check.failed
    | some t =>
      match (← Check.types).common? t with
      | some (.pointer e) => r.compositeOf env t e es
      | _ => if t.isInvalid then return .invalid else r.compositeOf env t t es

end Rules

end DocAccessors.Typing
