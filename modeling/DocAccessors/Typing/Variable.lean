import DocAccessors.Typing.Expression

/-!
# Declarations and assignments

* `Rules.valuesFor` and `Rules.variableTypes`: the values of variables, and the types that variables get;
* `Rules.constant`: a constant with its type and value;
* `Rules.defineType` and `Rules.aliasOf`: the definition of a type, and another name for one;
* `Rules.localDecl`: a declaration in a function;
* `Rules.define` and `Rules.assignAll`: short declarations and assignments.
-/

namespace DocAccessors.Typing

open DocAccessors.Source (Expr FieldList Spec GenDecl)

namespace Rules

variable (r : Rules)

/-! ## Values -/

/-- The values of an expression: with `commaOk` also whether it succeeded, where it can tell. -/
def multipleOk (env : Env) (commaOk : Bool) (e : Expr) : Check (List Operand) := do
  let x ← r.raw env {} e
  match x.type, x.mode with
  | .tuple ts, _ => return ts.map fun t => .ofType t.2
  | _, .commaOk | _, .mapIndex =>
    return if commaOk then [.ofType x.type, .ofType (.basic .untypedBool)] else [x]
  | _, _ => return [← single x]

def isCall (e : Expr) : Bool :=
  match e.unparen with
  | .call _ _ _ _ _ => true
  | _ => false

/-- The values for variables, as far as their types are known: one each, or all from one expression; there are none if
they are not as many. -/
def valuesFor (env : Env) (types : List (Option Ty)) (es : List Expr) (commaOk : Bool) :
    Check (Option (List Operand)) := do
  if types.length == es.length && !(es.length == 1 && es.any isCall) then
    let xs ← (types.zip es).mapM fun (t, e) => r.exprFor env t e
    return some xs
  else match es with
    | [e] =>
      let xs ← r.multipleOk env (commaOk && types.length == 2) e
      if xs.length == types.length then return some xs
      else
        Check.ensure (xs.any (·.isInvalid))
        return none
    | _ =>
      Check.fail
      return none

/-- The type of a variable with a value: the one that it is declared with, or that of the value. -/
def initialType (declared : Option Ty) (x : Operand) : Check Ty := do
  if x.isInvalid || x.type.isInvalid then return declared.getD .invalid
  else match declared with
    | some t =>
      let _ ← assign x (some t)
      return t
    | none =>
      let x ← assign x none
      return if x.isInvalid then .invalid else x.type

/-- The types of variables that are declared with values. -/
def variableTypes (env : Env) (count : Nat) (type : Option Expr) (values : List Expr) : Check (List Ty) := do
  let declared ← type.mapM (r.variableType env)
  if values.isEmpty then return List.replicate count (declared.getD .invalid)
  else
    match ← r.valuesFor env (List.replicate count declared) values true with
    | some xs => xs.mapM (initialType declared)
    | none => return List.replicate count (declared.getD .invalid)

/-! ## Constants and types -/

/-- The type and value of a constant, from those of its expression and the type that it is declared with. -/
def constantOf (type : Option Ty) (x : Operand) : Check (Ty × Constant) := do
  match x.constant? with
  | some v =>
    match type with
    | some t => return (t, (← assign x (some t)).constant?.getD .unknown)
    | none => return (x.type, v)
  | none =>
    Check.ensure (x.isInvalid || x.type.isInvalid)
    return (type.getD .invalid, .unknown)

/-- The type that a constant is declared with. -/
def constantType (env : Env) (type : Option Expr) : Check (Option Ty) := do
  match type with
  | none => return none
  | some e =>
    let t ← r.type env e
    let ts ← Check.types
    if ts.isConstType t then return some t
    else
      Check.ensure (ts.under t).isInvalid
      return some .invalid

/-- A constant that is declared with a type and a value; its type is announced as soon as it is known. -/
def constant (env : Env) (type value : Option Expr) (announce : Ty → Check Unit) : Check (Ty × Constant) := do
  let t ← r.constantType env type
  if t.any (·.isInvalid) then return (.invalid, .unknown)
  else
    t.forM announce
    let x ← match value with
      | some e => r.expr env e
      | none => pure .invalid
    constantOf t x

/-- Defines a type. Its parameters can be used in its definition, which cannot be one of them. -/
def defineType (env : Env) (id : Nat) (params : Option FieldList) (type : Expr) : Check Unit := do
  let (inner, _) ← r.typeParams env.inner params fun ids => Check.updateType id fun d => { d with params := ids }
  let t ← r.type inner type
  Check.ensure (!t.isParam)
  Check.updateType id fun d => { d with definition := if t.isParam then .invalid else t }

/-- Another name for a type, which can have parameters but cannot be one of them. -/
def aliasOf (env : Env) (name : Text) (params : Option FieldList) (type : Expr) : Check Ty := do
  if params.isSome then env.needs 23
  let (inner, ids) ← r.typeParams env.inner params fun _ => return
  let t ← r.type inner type
  let isOwn := match t with
    | .typeParam id _ => ids.contains id
    | _ => false
  if isOwn then Check.failedType else return .alias name ids [] t

/-! ## Declarations in functions -/

/-- Declares a variable of a function. -/
def localVar (env : Env) (name : Text) (t : Ty) : Check Env := do
  if name == text "_" then return env
  let id ← Check.fresh
  modify fun s => { s with locals := id :: s.locals }
  env.declare name (.variable (some id) t)

/-- The constants of the specifications of a declaration. -/
def localConsts : Env → Nat → Option Expr × List Expr → List Spec → Check Env
  | env, _, _, [] => return env
  | env, iota, before, .valueSpec _ names type values _ :: specs => do
    let effect := if type.isSome || !values.isEmpty then (type, values) else before
    Check.ensure (names.length == effect.2.length)
    let consts ← names.zipIdx.mapM fun (n, i) => do
      let c ← r.constant { env with iota := some iota } effect.1 effect.2[i]? fun _ => return
      pure (n.name, c)
    let env ← consts.foldlM (fun env (n, t, v) => env.declare n (.const t v)) env
    localConsts env (iota + 1) effect specs
  | env, iota, before, _ :: specs => localConsts env (iota + 1) before specs

/-- A specification of variables or of a type. A type can be used in its own definition. -/
def localSpec (env : Env) : Spec → Check Env
  | .valueSpec _ names type values _ => do
    let types ← r.variableTypes env names.length type values
    (names.zip types).foldlM (fun env (n, t) => localVar env n.name t) env
  | .typeSpec _ name params assign type _ => do
    if assign.isSome then
      let inner := { env with scope := (name.name, .circular) :: env.scope }
      env.declare name.name (.type (← r.aliasOf inner name.name params type))
    else
      let id ← Check.addType { name := name.name, around := env.typeParams }
      let env ← env.declare name.name (.type (.defined id name.name []))
      r.defineType env id params type
      return env
  | .importSpec _ _ _ _ _ => return env

/-- A declaration in a function. -/
def localDecl (env : Env) : GenDecl → Check Env
  | .mk _ _ .kConst _ specs _ => r.localConsts env 0 (none, []) specs
  | .mk _ _ _ _ specs _ => specs.foldlM r.localSpec env

/-! ## Assignments -/

/-- The type of what is assigned to, if it is not left out. A variable is not used by that. -/
def target (env : Env) (e : Expr) : Check (Option Ty) := do
  let x ← match e.unparen with
    | .ident i =>
      if i.name == text "_" then return none
      else
        let before := (← get).used
        let x ← r.expr env e
        modify fun s => { s with used := before }
        pure x
    | _ => r.expr env e
  match x.mode with
  | .variable | .mapIndex => return some x.type
  | _ =>
    Check.ensure x.isInvalid
    return some .invalid

def assignTo (env : Env) (e : Expr) (x : Operand) : Check Unit := do
  let t ← r.target env e
  let _ ← assign x t

def assignAll (env : Env) (lhs rhs : List Expr) : Check Unit := do
  let types ← lhs.mapM (r.target env)
  match ← r.valuesFor env types rhs true with
  | none => return
  | some xs =>
    for (x, t) in xs.zip types do
      let _ ← assign x t

/-- What a short declaration does with an expression on its left side. -/
inductive Defined where
  /-- It declares a variable. -/
  | new (name : Text)
  /-- It assigns to a variable of a type. -/
  | old (t : Ty)
  | faulty

/-- What a short declaration does with an expression on its left side, given the names before it. -/
def definedBy (env : Env) (before : List Text) (e : Expr) : Defined :=
  match e with
  | .ident i =>
    if i.name == text "_" then .new i.name
    else if before.any (· == i.name) then .faulty
    else if !env.block.any (· == i.name) then .new i.name
    else match env.scope.lookup i.name with
      | some (.variable _ t) => .old t
      | _ => .faulty
  | _ => .faulty

/-- The names on the left side of a short declaration. -/
def definedNames (lhs : List Expr) : List Text :=
  lhs.filterMap fun e => match e with
    | .ident i => some i.name
    | _ => none

/-- Declares the new variables of a short declaration, at least one, and assigns to the others. -/
def define (env : Env) (lhs rhs : List Expr) : Check Env := do
  let parts := lhs.zipIdx.map fun (e, i) => definedBy env (definedNames (lhs.take i)) e
  let isNew (d : Defined) : Bool := match d with
    | .new n => n != text "_"
    | _ => false
  let isFaulty (d : Defined) : Bool := match d with
    | .faulty => true
    | _ => false
  let known (d : Defined) : Option Ty := match d with
    | .old t => some t
    | _ => none
  Check.ensure (parts.any isNew && !parts.any isFaulty)
  let xs := (← r.valuesFor env (parts.map known) rhs true).getD (lhs.map fun _ => Operand.invalid)
  (parts.zip xs).foldlM (fun out (d, x) => do
    let t ← initialType (known d) x
    match d with
    | .new n => localVar out n t
    | _ => return out) env

end Rules

end DocAccessors.Typing
