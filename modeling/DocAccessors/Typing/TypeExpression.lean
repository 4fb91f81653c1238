import DocAccessors.Typing.Conversion

/-!
# Type expressions

What names and type expressions stand for.

* `Rules.denote`: what a name of the package stands for; it is checked when it is first needed, and a name that
  needs itself is a fault unless a type definition lies between;
* `Rules.typeExpr`: the type that an expression stands for;
* `Rules.typeParams`: the declaration of type parameters;
* `Rules.signature`: the type of a function, and the environment of its body.
-/

namespace DocAccessors.Typing

open DocAccessors.Source (Expr Field FieldList Ident)

namespace Rules

variable (r : Rules)

/-! ## Names -/

/-- Whether objects may need each other in a circle: values alone are looked at later, and types alone need a
definition among them. -/
def circleAllowed (os : List Object) : Bool :=
  let values := os.countP fun o => match o.decl with
    | .const _ _ _ | .var _ _ _ _ => true
    | _ => false
  let definitions := os.countP fun o => match o.decl with
    | .type _ false _ => true
    | _ => false
  values == os.length || (values == 0 && 0 < definitions)

/-- What an object stands for while it is being checked. Another name for a type is looked at once more, since what
it needs may be known by now. -/
def denoteBusy (i : Nat) (o : Object) (type : Option Ty) : Check Referent := do
  let s ← get
  let circle := (s.path.takeWhile (· != i) ++ [i]).filterMap fun j => s.objects[j]?
  let allowed := circleAllowed circle
  Check.ensure allowed
  let t := if allowed then type.getD .invalid else .invalid
  match o.decl with
  | .const _ _ _ => return .const t .unknown
  | .var _ _ _ _ => return .variable none t
  | .type none true e =>
    if allowed then return .type (.alias o.name [] [] (← r.type (← Check.fileEnv o.file) e))
    else return .type .invalid
  | .type _ _ _ => return .type t
  | .func _ _ _ _ => return .func t

/-- What an object of the package stands for. -/
def denote (i : Nat) : Check Referent := do
  match (← get).objects[i]? with
  | none => return .type .invalid
  | some o =>
    match o.status with
    | .done d => return d
    | .busy t => r.denoteBusy i o t
    | .waiting =>
      r.resolve i
      let s : State ← get
      match (s.objects[i]?).map Object.status with
      | some (.done d) => return d
      | _ => return .type .invalid

def lookup? (env : Env) (name : Text) : Check (Option Referent) := do
  match env.scope.lookup name with
  | some d => return some d
  | none =>
    match (← get).scope.lookup name with
    | some i => return some (.object i)
    | none => return predeclared? name

def ident (env : Env) (name : Text) : Check Operand := do
  if name == text "_" then Check.failed
  else match ← lookup? env name with
    | none => Check.failed
    | some d =>
      let d ← match d with
        | .object i =>
          Check.noteUse i
          r.denote i
        | d => pure d
      match d with
      | .type t => return if t.isInvalid then .invalid else .ofMode .type t
      | .const t v => return if t.isInvalid then .invalid else .ofConstant v t
      | .variable id t =>
        modify fun s => { s with used := id.toList ++ s.used }
        return if t.isInvalid then .invalid else .ofMode .variable t
      | .func t => return if t.isInvalid then .invalid else .ofType t
      | .builtin b => return .ofMode (.builtin b) .invalid
      | .nil => return .ofType (.basic .untypedNil)
      | .iota =>
        match env.iota with
        | some i => return .ofConstant (.int i) (.basic .untypedInt)
        | none => Check.failed
      | .object _ => return .invalid
      | .circular => Check.failed

/-! ## Parts of types -/

/-- The type of an operand that must be a type with all its arguments. -/
def typeOf (x : Operand) : Check Ty := do
  if x.isInvalid then return .invalid
  else if !x.isType then Check.failedType
  else
    let x ← settled x none
    return x.type

/-- A type of variables; it is looked at again when all types are known. -/
def variableType (env : Env) (e : Expr) : Check Ty := do
  let t ← r.type env e
  Check.ask (.variable t)
  return t

/-- Whether an expression is a name that does not stand for a constant. -/
def isOtherName (env : Env) (e : Expr) : Check Bool := do
  match e with
  | .ident i =>
    match ← lookup? env i.name with
    | some (.const _ _) | some .iota => return false
    | some (.object j) =>
      let s : State ← get
      match (s.objects[j]?).map Object.decl with
      | some (.const _ _ _) => return false
      | _ => return true
    | _ => return true
  | _ => return false

def arrayLength? (env : Env) (e : Expr) : Check (Option Nat) := do
  if ← isOtherName env e then
    Check.fail
    return none
  let x ← r.raw env {} e
  match x.constant? with
  | none =>
    Check.ensure x.isInvalid
    return none
  | some v =>
    let ts ← Check.types
    let value := if x.type.isUntyped || ts.isBasic BasicKind.isInteger x.type then represent? v .int else none
    match value.bind Constant.toInt? with
    | some (.ofNat n) => return some n
    | _ =>
      Check.fail
      return none

/-- The name that an embedded type gives its field. -/
def embeddedName? : Expr → Option Text
  | .ident i => some i.name
  | .star _ (.star _ _) => none
  | .star _ x => embeddedName? x
  | .selector _ s => some s.name
  | .index x _ _ _ => embeddedName? x
  | _ => none

/-- The fields of a struct, given the names before them. -/
def fields (env : Env) : List Text → List Field → Check (List ((Text × Bool × Text) × Ty))
  | _, [] => return []
  | before, .mk _ names type tag _ :: fs => do
    let t ← r.variableType env type
    let tag := (tag.bind fun t => Text.unquote? t.name).getD []
    let own ← match names with
      | [] =>
        match embeddedName? type with
        | some n =>
          Check.ask (.embedded t)
          pure [(n, true)]
        | none =>
          Check.fail
          pure []
      | ns => pure (ns.map fun n => (n.name, false))
    let fresh := own.zipIdx.filter fun ((n, _), i) =>
      n == text "_" || !((before ++ (own.take i).map Prod.fst).any (· == n))
    Check.ensure (fresh.length == own.length)
    let rest ← fields env (own.map Prod.fst ++ before) fs
    return fresh.map (fun ((n, e), _) => ((n, e, tag), t)) ++ rest

/-! ## Constraints -/

/-- The number of terms that a union can have. -/
def termLimit : Nat := 100

/-- A term of a union; it cannot be a type parameter. -/
def term (env : Env) (tilde : Bool) (e : Expr) : Check (Bool × Ty) := do
  let t ← r.type env e
  if t.isParam then
    Check.fail
    return (tilde, .invalid)
  else return (tilde, t)

def terms (env : Env) : Expr → Check (List (Bool × Ty))
  | .binary x _ .or y => return (← terms env x) ++ (← terms env y)
  | .unary _ .tilde x => return [← r.term env true x]
  | x => return [← r.term env false x]

/-- An element of an interface or a constraint: a union, or a single type. -/
def element (env : Env) (e : Expr) : Check Ty := do
  match ← r.terms env e with
  | [(false, t)] => return t
  | us =>
    Check.ensure (us.length ≤ termLimit)
    Check.ask (.union us)
    return .union us

/-- The type that bounds a type parameter; it cannot be a type parameter itself. -/
def constraint (env : Env) (e : Expr) : Check Ty := do
  let t ← match e with
    | .binary _ _ .or _ | .unary _ .tilde _ => do pure (Ty.interface [] [← r.element env e])
    | _ => r.type env e
  if t.isParam then Check.failedType else return t

/-- Declares type parameters, which can be used in what bounds them. They are announced before that. -/
def typeParams (env : Env) (ps : Option FieldList) (announce : List Nat → Check Unit) : Check (Env × List Nat) := do
  let fs := (ps.map (·.fields)).getD []
  let groups ← fs.mapM fun f => do
    let ids ← f.names.mapM fun n => Check.addParam { name := n.name }
    pure (f, ids)
  let ids := groups.flatMap Prod.snd
  let named := groups.flatMap fun (f, ids) => f.names.zip ids
  announce ids
  let env ← named.foldlM (fun env (n, id) => env.declare n.name (.type (.typeParam id n.name))) env
  for (f, ids) in groups do
    let bound ← r.constraint env f.type
    for id in ids do
      Check.setBound id (if bound.isInvalid then .emptyInterface else bound)
  return (env, ids)

/-! ## Functions -/

/-- The parameters or results of a function. -/
def paramList (env : Env) (variadicAllowed : Bool) : List Field → Check (List (Text × Ty) × Bool)
  | [] => return ([], false)
  | .mk _ names type _ _ :: fs => do
    let (element, isVariadic) := match type with
      | .ellipsis _ (some e) => (e, true)
      | e => (e, false)
    let t ← r.variableType env element
    let allowed := variadicAllowed && fs.isEmpty && names.length ≤ 1
    if isVariadic then Check.ensure allowed
    let t := if isVariadic && allowed then .slice t else t
    let own := match names with
      | [] => [([], t)]
      | ns => ns.map fun n => (n.name, t)
    let (rest, v) ← paramList env variadicAllowed fs
    return (own ++ rest, v || (isVariadic && allowed))

/-- The type of a function, and the environment of its body. The type parameters, the parameters and the results are
declared in one block, together with what is declared in it already. -/
def signature (env : Env) (typeParams : Option FieldList) (args : FieldList) (results : Option FieldList) :
    Check (Ty × Env) := do
  let (env, ids) ← r.typeParams env typeParams fun _ => return
  let (ps, variadic) ← r.paramList env true args.fields
  let (rs, _) ← r.paramList env false ((results.map (·.fields)).getD [])
  let inner ← ps.foldlM (fun env (n, t) => env.declare n (.variable none t)) env
  let results ← rs.mapM fun (n, t) => return Result.mk n (← Check.fresh) t
  let inner ← results.foldlM (fun env p => env.declare p.name (.variable (some p.id) p.type)) inner
  let inner := { inner with results, flow := {}, isOutside := false, typeParams := ids ++ env.typeParams }
  return (.func ids ps rs variadic, inner)

/-! ## Interfaces -/

/-- The methods and embedded types of an interface, given the names before them. -/
def methods (env : Env) : List Text → List Field → Check (List (Text × Ty) × List Ty)
  | _, [] => return ([], [])
  | before, .mk _ names type _ _ :: fs => do
    match names with
    | [] =>
      let t ← r.element env type
      let (ms, es) ← methods env before fs
      return (ms, t :: es)
    | n :: _ =>
      Check.ensure (n.name != text "_" && !before.any (· == n.name))
      let t ← match type with
        | .funcType _ args results => Prod.fst <$> r.signature env.inner none args results
        | e => r.type env e
      let (ms, es) ← methods env (n.name :: before) fs
      return (if n.name == text "_" then ms else (n.name, t) :: ms, es)

/-! ## All types -/

/-- The type that an expression stands for. -/
def typeExpr (env : Env) (e : Expr) : Check Ty := do
  match e with
  | .bad _ _ => return .invalid
  | .ident i => do typeOf (← r.ident env i.name)
  | .paren _ x _ => r.type env x
  | .selector _ _ => do typeOf (← r.raw env {} e)
  | .index x _ indices _ =>
    let generic ← r.raw env { generic := true } x
    let args ← indices.mapM (r.variableType env)
    if generic.isInvalid then return .invalid
    else if generic.isType then instantiate generic.type args
    else Check.failedType
  | .ellipsis _ _ => Check.failedType
  | .arrayType _ none element => return .slice (← r.variableType env element)
  | .arrayType _ (some (.ellipsis _ _)) element =>
    let _ ← r.variableType env element
    Check.failedType
  | .arrayType _ (some length) element =>
    let n ← r.arrayLength? env length
    let t ← r.variableType env element
    match n with
    | some n => return .array n t
    | none => return .invalid
  | .structType _ fs => return .struct (← r.fields env [] fs.fields)
  | .star _ x =>
    let t ← r.variableType env x
    return if t.isInvalid then .invalid else .pointer t
  | .funcType _ args results => Prod.fst <$> r.signature env.inner none args results
  | .interfaceType _ ms =>
    let (ms, es) ← r.methods env [] ms.fields
    let t := Ty.interface ms es
    Check.ask (.interface t)
    return t
  | .mapType _ k v =>
    let key ← r.variableType env k
    let value ← r.variableType env v
    Check.ask (.key key)
    return .map key value
  | .chanType _ _ dir v =>
    let dir := match dir with
      | .both => ChanDir.both
      | .send => .send
      | .receive => .receive
    return .chan dir (← r.variableType env v)
  | _ => Check.failedType

end Rules

end DocAccessors.Typing
