import DocAccessors.Typing.Operand

/-!
# Instances

A generic type or function is used with types for its type parameters.

* `instantiate`: a generic type with its arguments;
* `applied`: a generic function with its arguments;
* `renamed`: new type parameters for one use of what has them, so that a function can be used in itself;
* `fitted?`: a generic function as a value of a function type.
-/

namespace DocAccessors.Typing

/-- Notes which types are put in for type parameters; they must be within the bounds. -/
def noteInstance (params : List Nat) (args : List Ty) : Check Unit := do
  let ts ← Check.types
  let origin (p : Nat) : Nat := ((ts.params[p]?).bind (·.origin)).getD p
  Check.ask (.arguments params args)
  modify fun s => { s with instances := (params.map origin).zip args ++ s.instances }

def instantiate (generic : Ty) (args : List Ty) : Check Ty := do
  let params := (← Check.types).openParams generic
  if params.isEmpty || params.length != args.length then Check.failedType
  else if args.any (·.isInvalid) then return .invalid
  else
    noteInstance params args
    match generic with
    | .defined id name _ => return .defined id name args
    | .alias name ps _ target => return .alias name ps args (target.subst (ps.zip args))
    | _ => return .invalid

/-- The type of a function with types for its type parameters. -/
def substituted (function : Ty) (args : List Ty) : Ty :=
  match function with
  | .func tps ps rs v => (Ty.func [] ps rs v).subst (tps.zip args)
  | t => t

/-- A generic function with its arguments. -/
def applied (function : Ty) (args : List Ty) : Check Ty := do
  noteInstance function.openParams args
  return substituted function args

/-- New type parameters in place of others, when types are put in for further ones in their bounds. -/
def renamedIn (outer : List (Nat × Ty)) (params : List Nat) : Check (List Nat) := do
  let ts ← Check.types
  let ids ← params.mapM fun p =>
    let old := (ts.params[p]?).getD default
    Check.addParam { old with origin := some (old.origin.getD p) }
  let m := params.zip ((ids.zip params).map fun (id, p) => Ty.typeParam id (((ts.params[p]?).map (·.name)).getD []))
  for (id, p) in ids.zip params do
    Check.setBound id ((ts.boundOf p).subst (m ++ outer))
  return ids

/-- New type parameters in place of others. -/
def renamed (params : List Nat) : Check (List Nat) := renamedIn [] params

def paramTypes (params : List Nat) : Check (List Ty) := return params.map (← Check.types).paramType

/-- A generic function as a value of a function type, given some of its type arguments. -/
def fitted? (function : Ty) (given : List Ty) (target : Option Ty) : Check (Option Ty) := do
  let params := function.openParams
  if params.length ≤ given.length then return some (← applied function given)
  else
    let ids ← renamed params
    let own := substituted function (← paramTypes ids)
    let ts ← Check.types
    let goal := (target.map ts.under).filter fun t => match t with
      | .func _ _ _ _ => true
      | _ => false
    let (ps, as) := match goal with
      | some t => ([own], [t])
      | none => ([], [])
    match ts.infer? ids (given.map some) ps as with
    | some args => return some (← applied function args)
    | none =>
      Check.fail
      return none

/-- An operand that must not be generic: a generic function can take its type arguments from the expected type. -/
def settled (x : Operand) (target : Option Ty) : Check Operand := do
  let ts ← Check.types
  if x.isType then
    if (ts.openParams x.type).isEmpty then return x else Check.failed
  else if x.isGeneric then
    let isGoal := target.any fun t => match ts.under t with
      | .func _ _ _ _ => true
      | _ => false
    if !isGoal && x.typeArgs.isEmpty then Check.failed
    else match ← fitted? x.type x.typeArgs target with
      | some t => return .ofType t
      | none => return .invalid
  else return x

end DocAccessors.Typing
