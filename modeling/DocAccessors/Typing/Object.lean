import DocAccessors.Typing.Statement

/-!
# Objects of a package

The names of a package are checked when they are first needed.

* `Rules.receiver`: the receiver of a method;
* `Rules.resolveObject` checks a constant, a variable, a type, a function or a method;
* `Rules.ofDepth` ties the rules together up to a depth of nesting.
-/

namespace DocAccessors.Typing

open DocAccessors.Source (Expr Field FieldList Ident)

/-! ## Receivers -/

/-- The parts of the type of a receiver: whether it is a pointer, the base type, and what stands for type
parameters. -/
structure ReceiverForm where
  isPointer : Bool
  base : Expr
  params : Option (List Expr)

/-- The parts of the type of a receiver. -/
def ReceiverForm.ofExpr (e : Expr) : ReceiverForm :=
  let ofBase (isPointer : Bool) (e : Expr) : ReceiverForm := match e with
    | .index x _ is _ => ⟨isPointer, x, some is⟩
    | e => ⟨isPointer, e, none⟩
  match e.unparen with
  | .star _ x => ofBase true x.unparen
  | e => ofBase false e

/-- Whether a type is another name for a generic type with arguments. -/
def namesInstance : Ty → Bool
  | .alias _ _ _ t => isInstance t || namesInstance t
  | .pointer t => namesInstance t
  | _ => false
where
  /-- Whether a type has arguments, or is a pointer to such a type. -/
  isInstance : Ty → Bool
    | .defined _ _ args => !args.isEmpty
    | .alias _ _ args _ => !args.isEmpty
    | .pointer t => isInstance t
    | _ => false

namespace Rules

variable (r : Rules)

/-- The names of the type parameters of a receiver. -/
def receiverParams (es : List Expr) : Check (List Text) :=
  es.mapM fun e => match e with
    | .ident i => return i.name
    | _ => do
      Check.fail
      return text "_"

/-- The type of a receiver, and the environment with its type parameters. They are those of the base type under other
names. -/
def receiverType (env : Env) (e : Expr) : Check (Ty × Env) := do
  let form := ReceiverForm.ofExpr e
  match form.params with
  | none =>
    let t ← r.variableType env e
    if namesInstance t then return (← Check.failedType, env) else return (t, env)
  | some es =>
    let names ← receiverParams es
    let base ← r.raw env { generic := true } form.base
    let ids := (← Check.types).openParams base.type
    match base.isType, base.type with
    | true, .defined id name [] =>
      if ids.length != names.length then return (← Check.failedType, env)
      else
        let params := (ids.zip names).map fun (p, n) => Ty.typeParam p n
        let inner ← (names.zip params).foldlM (fun (env : Env) (n, p) => env.declare n (.type p)) env
        let t := Ty.defined id name params
        return (if form.isPointer then .pointer t else t, { inner with typeParams := ids ++ env.typeParams })
    | _, _ =>
      Check.ensure base.isInvalid
      return (.invalid, env)

/-- The receiver of a method: its name and type, and the environment with its type parameters. -/
def receiver (env : Env) (fs : List Field) : Check (Text × Ty × Env) := do
  match fs with
  | [] => return ([], .invalid, env)
  | f :: rest =>
    Check.ensure (rest.isEmpty && f.names.length ≤ 1)
    let (t, env) ← r.receiverType env f.type
    Check.ask (.receiver t)
    return ((f.names.head?.map (·.name)).getD [], t, env)

/-! ## Methods -/

/-- Adds a method to its type: no other method and no field may have its name. -/
def addMethod (name : Text) (object : Nat) (receiver type : Ty) : Check Unit := do
  let (base, needsPointer) := receiver.deref
  let ts ← Check.types
  match base.unalias with
  | .defined id _ _ =>
    if name == text "_" || id < TypeTable.predeclaredCount then return
    else
      let isField := match ts.under base with
        | .struct fs => fs.any fun f => f.1.1 == name
        | _ => false
      let isMethod := ((ts.defined[id]?).map (·.methods)).any fun ms => ms.any (·.name == name)
      if isField || isMethod then Check.fail
      else Check.updateType id fun d => { d with methods := d.methods ++ [{ name, object, needsPointer, type }] }
  | _ => return

/-- A function or method: its type, and the environment of its body. -/
def function (env : Env) (name : Text) (object : Nat) (receiver params : Option FieldList) (args : FieldList)
    (results : Option FieldList) : Check (Ty × Env) := do
  match receiver with
  | none => r.signature env.inner params args results
  | some fs =>
    if params.isSome then env.needs 27
    let (self, recv, env) ← r.receiver env.inner fs.fields
    let (t, inner) ← r.signature env params args results
    addMethod name object recv t
    return (t, ← inner.declare self (.variable none recv))

/-! ## Objects -/

def meaning (i : Nat) (o : Object) (env : Env) : Check Referent := do
  match o.decl with
  | .const type value iota =>
    modify fun s => { s with user := some i }
    let (t, v) ← r.constant { env with iota := some iota } type value fun t => Check.setStatus i (.busy (some t))
    return .const t v
  | .var index count type values =>
    modify fun s => { s with user := some i }
    let types ← r.variableTypes env count type values
    return .variable none (types.getD index .invalid)
  | .type params true type => return .type (← r.aliasOf env o.name params type)
  | .type params false type =>
    let id ← Check.addType { name := o.name }
    let t := Ty.defined id o.name []
    Check.setStatus i (.busy (some t))
    r.defineType env id params type
    return .type t
  | .func receiver params args results =>
    let (t, inside) ← r.function env o.name i receiver params args results
    Check.updateObject i fun o => { o with inside := some inside }
    return .func t

def resolveObject (i : Nat) : Check Unit := do
  let before : State ← get
  match before.objects[i]? with
  | none => return
  | some o =>
    Check.setStatus i (.busy none)
    modify fun s => { s with path := i :: s.path, user := none }
    let d ← r.meaning i o (← Check.fileEnv o.file)
    Check.setStatus i (.done d)
    modify fun s => { s with path := before.path, user := before.user, called := before.called }

/-- The rules up to a depth of nesting. -/
def ofDepth : Nat → Rules
  | 0 =>
    { raw := fun _ _ _ => return .invalid
      type := fun _ _ => return .invalid
      resolve := fun _ => return
      block := fun _ _ => return
      body := fun _ _ => return }
  | n + 1 =>
    let r := ofDepth n
    { raw := r.rawExpr, type := r.typeExpr, resolve := r.resolveObject, block := r.blockStmts, body := r.bodyStmts }

end Rules

end DocAccessors.Typing
