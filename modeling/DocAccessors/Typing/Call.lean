import DocAccessors.Typing.Access
import DocAccessors.Typing.Builtin

/-!
# Calls

A call of a function, of a predeclared function, or a conversion. Type arguments that a call leaves out are inferred
from its arguments; an argument that is a generic function gets its own type arguments at the same time.

* `Rules.arguments`: the operands that are passed;
* `inferred?`: a generic function, and generic functions among its arguments, with all type arguments;
* `Rules.call`: a call.
-/

namespace DocAccessors.Typing

open DocAccessors.Source (Expr Stmt)

/-! ## Parameters -/

/-- The type of the parameter for each of a number of arguments, if they are as many as a function takes. With
`spread` the last argument stands for all the values of the last parameter. -/
def expectedTypes? (function : Ty) (spread : Bool) (count : Nat) : Option (List Ty) :=
  match function with
  | .func _ params _ variadic =>
    let types := params.map Prod.snd
    if variadic && !spread then
      let fixed := types.dropLast
      let rest := match types.getLast? with
        | some (.slice e) => e
        | _ => .invalid
      if count < fixed.length then none else some (fixed ++ List.replicate (count - fixed.length) rest)
    else if types.length == count && (!spread || variadic) then some types
    else none
  | _ => none

/-- Passes arguments to a function. -/
def pass (function : Ty) (spread : Bool) (args : List Operand) : Check Unit := do
  match expectedTypes? function spread args.length with
  | none => Check.fail
  | some types =>
    for (a, t) in args.zip types do
      let _ ← assign a (some t)

def results : List (Text × Ty) → Operand
  | [] => { mode := .noValue, effect := .statement }
  | [(_, t)] => { mode := .value, type := t, effect := .statement }
  | rs => { mode := .value, type := .tuple rs, effect := .statement }

/-! ## Inference -/

/-- Type arguments that are given, for a number of type parameters. -/
def padded (count : Nat) (given : List Ty) : List (Option Ty) :=
  given.map some ++ List.replicate (count - given.length) none

/-- Takes the types for the generic functions among some arguments from a list. -/
def applyArguments : List Operand → List Ty → Check (List Operand)
  | [], _ => return []
  | a :: as, types => do
    if a.isGeneric then
      let count := a.type.openParams.length
      let t ← applied a.type (types.take count)
      return .ofType t :: (← applyArguments as (types.drop count))
    else return a :: (← applyArguments as types)

/-- A function and the arguments of its call with all type arguments, where some are given. -/
def inferred? (function : Ty) (given : List Ty) (spread : Bool) (args : List Operand) :
    Check (Option (Ty × List Operand)) := do
  let params := function.openParams
  if params.isEmpty && !args.any (·.isGeneric) then return some (function, args)
  else
    let ids ← renamed params
    let own := substituted function (← paramTypes ids)
    let prepared ← args.mapM fun a => do
      let ids ← renamed a.type.openParams
      pure (ids, substituted a.type (← paramTypes ids))
    let known := padded params.length given ++ args.flatMap fun a => padded a.type.openParams.length a.typeArgs
    let ts ← Check.types
    let types? := (expectedTypes? own spread args.length).bind fun expected =>
      ts.infer? (ids ++ prepared.flatMap Prod.fst) known expected (prepared.map Prod.snd)
    match types? with
    | none =>
      Check.fail
      return none
    | some types =>
      let own := types.take params.length
      let f ← if params.isEmpty then pure function else applied function own
      return some (f, ← applyArguments args (types.drop params.length))

namespace Rules

variable (r : Rules)

/-! ## Arguments -/

/-- A generic function with type arguments for all its type parameters, or the operand as it is. -/
def complete (x : Operand) : Check Operand := do
  if x.isGeneric && x.typeArgs.length == x.type.openParams.length then
    return .ofType (← applied x.type x.typeArgs)
  else return x

/-- An argument, which can be a generic function without all its type arguments. -/
def argument (env : Env) (e : Expr) : Check Operand := do
  match e with
  | .index x _ is _ => complete (← r.indexOperand env x is)
  | _ => r.raw env { generic := true } e

/-- The arguments of a call; a single call may give several. -/
def arguments (env : Env) (es : List Expr) : Check (List Operand) := do
  match es with
  | [e] =>
    let x ← r.argument env e
    match x.type with
    | .tuple ts => return ts.map fun t => .ofType t.2
    | _ => return [← single x]
  | _ => es.mapM fun e => do single (← r.argument env e)

/-! ## Calls -/

def conversion (env : Env) (t : Ty) (args : List Expr) (spread : Bool) : Check Operand := do
  match args with
  | [e] =>
    let x ← r.exprFor env (some t) e
    let ts ← Check.types
    let isConstraint := ts.isInterface t && !(ts.typeSet t).isMethodSet
    if spread || isConstraint then Check.failed else convert x t
  | _ => Check.failed

def functionCall (env : Env) (callee : Operand) (args : List Expr) (spread : Bool) : Check Operand := do
  match (← Check.types).common? callee.type with
  | some (.func tps ps rs v) =>
    let xs ← r.arguments env args
    modify fun s => { s with called := true }
    let several := spread && args.length == 1 && 1 < xs.length
    if several then Check.fail
    if xs.any (·.isInvalid) then return if tps.isEmpty then results rs else .invalid
    else match ← inferred? (.func tps ps rs v) callee.typeArgs spread xs with
      | some (.func _ ps rs v, xs) =>
        pass (.func [] ps rs v) spread xs
        return results rs
      | _ => return .invalid
  | _ => Check.failed

def call (env : Env) (f : Expr) (offset : Nat) (args : List Expr) (spread : Bool) : Check Operand := do
  let callee ← match f with
    | .index x _ is _ => do complete (← r.indexOperand env x is)
    | _ => r.exprOrType env { generic := true } f
  match callee.mode with
  | .invalid => return .invalid
  | .type =>
    let t ← typeOf callee
    if t.isInvalid then return .invalid else r.conversion env t args spread
  | .builtin b => r.builtinCall env b offset args spread
  | _ => r.functionCall env callee args spread

/-! ## Function literals -/

/-- A function literal. Its body is checked with the statement that it is in, or when all objects are known. -/
def funcLit (env : Env) (type : Expr) (stmts : List Stmt) : Check Operand := do
  match type with
  | .funcType _ args results =>
    let (t, inner) ← r.signature env.inner none args results
    let before : State ← get
    if env.isOutside then set { before with bodies := ⟨inner, stmts, before.user⟩ :: before.bodies }
    else
      r.body inner stmts
      modify fun s => { s with called := before.called }
    return .ofType t
  | _ => return .invalid

end Rules

end DocAccessors.Typing
