import DocAccessors.Typing.Selector

/-!
# Inference of type arguments

A call of a generic function can leave out type arguments. They are found by unification: of the parameter types with
the types of the arguments, of what is known about type parameters with what bounds them, and at last from constants
that have no type yet.

* `Unifier` is what is known about the type parameters;
* `Unify.unify` unifies two types;
* `TypeTable.infer?` finds all type arguments, if it can.
-/

namespace DocAccessors.Typing

/-- What is known about type parameters: which of them stand for the same type, and for which. -/
structure Unifier where
  /-- The slot of each type parameter. -/
  slots : List (Nat × Nat)
  /-- The type in each slot. -/
  types : List (Option Ty)

/-- Steps of unification. -/
abbrev Unify := StateM Unifier

/-- How exactly two types are unified. -/
structure Exactness where
  /-- Whether a value of the one is to be assigned to the other. -/
  assign : Bool
  /-- Whether the types must be the same. -/
  exact : Bool

namespace Unifier

/-- Nothing is known but some types. -/
def ofTypes (params : List Nat) (types : List (Option Ty)) : Unifier := ⟨params.zipIdx, types⟩

/-- The type that a type parameter stands for. -/
def get? (u : Unifier) (id : Nat) : Option Ty := (u.slots.lookup id).bind fun s => (u.types[s]?).join

/-- How many type parameters nothing is known about. -/
def unknowns (u : Unifier) : Nat := u.slots.countP fun s => ((u.types[s.2]?).join).isNone

/-- The number of a type parameter that is to be found, if a type is one. -/
def bound? (u : Unifier) (t : Ty) : Option Nat :=
  match t.unalias with
  | .typeParam id _ => if (u.slots.lookup id).isSome then some id else none
  | _ => none

/-- The unifier where a type parameter stands for a type. -/
def insert (u : Unifier) (id : Nat) (t : Ty) : Unifier :=
  match u.slots.lookup id with
  | some s => { u with types := u.types.set s (some t) }
  | none => u

/-- The unifier where two type parameters stand for the same type; none when both stand for types already. -/
def join? (u : Unifier) (a b : Nat) : Option Unifier :=
  match u.slots.lookup a, u.slots.lookup b with
  | some s, some t =>
    let move (x y : Nat) : Unifier := { u with slots := u.slots.map fun e => if e.2 == x then (e.1, y) else e }
    if s == t then some u
    else match (u.types[s]?).join, (u.types[t]?).join with
      | some _, some _ => none
      | some _, none => some (move t s)
      | none, _ => some (move s t)
  | _, _ => none

end Unifier

namespace Unify

/-- Whether a condition holds for all members of a list; it is not asked about those after one that fails. -/
def every {α : Type} (p : α → Unify Bool) : List α → Unify Bool
  | [] => return true
  | a :: as => do
    if ← p a then every p as else return false

def isDefined (t : Ty) : Bool :=
  match t.unalias with
  | .defined _ _ _ => true
  | _ => false

/-- What is known about a type parameter after its type has been unified with another one: a defined type is kept, and
so is a channel that goes one way only. -/
def refine (ts : TypeTable) (id : Nat) (known other : Ty) (mode : Exactness) : Unify Unit := do
  let oneWay := match ts.under other with
    | .chan dir _ => dir != .both
    | _ => false
  if !mode.exact && !isDefined known && (isDefined other || oneWay) then modify (·.insert id other)

/-- Unifies two types to a depth; whether that succeeded. -/
def unifyWithin (ts : TypeTable) : Nat → Exactness → Ty → Ty → Unify Bool
  | 0, _, _, _ => return false
  | n + 1, mode, a, b => do
    if ts.same a b then return true
    let u ← get
    -- A defined type is put second, and a type parameter to be found first.
    let (a, b) := if isDefined a || (u.bound? b).isSome then (b, a) else (a, b)
    let isLiteral := !isDefined a && !a.isParam
    let b := if !mode.exact && isDefined b && isLiteral && !ts.isInterface a then ts.under b else b
    if ts.same a b then return true
    match u.bound? a, u.bound? b with
    | some p, some q =>
      match u.join? p q with
      | some v =>
        set v
        return true
      | none =>
        match u.get? p, u.get? q with
        | some x, some y => unifyWithin ts n mode x y
        | _, _ => return false
    | some p, none =>
      match u.get? p with
      | some x =>
        if ← unifyWithin ts n mode x b then
          refine ts p x b mode
          return true
        else return false
      | none =>
        set (u.insert p b)
        return true
    | _, _ =>
      let exactly : Exactness := { mode with exact := true }
      let sameMethods (ms : List (Text × Ty)) (find : Text → Option Ty) : Unify Bool :=
        every (fun m => match find m.1 with
          | some t => unifyWithin ts n exactly m.2 t
          | none => return false) ms
      let setOf? (t : Ty) : Option TypeSet := if ts.isInterface t then some (ts.typeSet t) else none
      match setOf? a, setOf? b, mode.exact with
      | some x, some y, false =>
        let agree := x.comparable == y.comparable && ts.subterms ts.same x.terms y.terms &&
          ts.subterms ts.same y.terms x.terms
        let (small, large) := if y.methods.length < x.methods.length then (y, x) else (x, y)
        if agree then sameMethods small.methods fun m => large.methods.lookup m else return false
      | some x, none, false => sameMethods x.methods (ts.methodType? b)
      | none, some y, false => sameMethods y.methods (ts.methodType? a)
      | _, _, _ =>
        let (a, b) := if b.isParam then (b, a) else (a, b)
        let inner : Exactness := if mode.assign then exactly else mode
        let parts (xs ys : List (Text × Ty)) : Unify Bool := do
          if xs.length != ys.length then return false
          every (fun (x, y) => unifyWithin ts n inner x.2 y.2) (xs.zip ys)
        match a.unalias, b.unalias with
        | .basic k, .basic l => return k.canonical == l.canonical
        | .array i x, .array j y => if i == j then unifyWithin ts n inner x y else return false
        | .slice x, .slice y => unifyWithin ts n inner x y
        | .pointer x, .pointer y => unifyWithin ts n inner x y
        | .map k x, .map l y => do
          if ← unifyWithin ts n inner k l then unifyWithin ts n inner x y else return false
        | .chan d x, .chan e y => if mode.exact && d != e then return false else unifyWithin ts n inner x y
        | .struct fs, .struct gs =>
          if fs.map (·.1) == gs.map (·.1) then
            every (fun (f, g) => unifyWithin ts n inner f.2 g.2) (fs.zip gs)
          else return false
        | .func tps ps rs v, .func tqs qs ss w =>
          if tps.length != tqs.length || v != w then return false
          else if ← parts ps qs then parts rs ss else return false
        | .interface _ _, .interface _ _ =>
          let x := ts.typeSet a
          let y := ts.typeSet b
          if x.comparable == y.comparable && x.methods.length == y.methods.length &&
              ts.subterms ts.same x.terms y.terms && ts.subterms ts.same y.terms x.terms then
            sameMethods x.methods fun m => y.methods.lookup m
          else return false
        | .defined i _ as, .defined j _ bs =>
          if i == j && as.length == bs.length then every (fun (x, y) => unifyWithin ts n mode x y) (as.zip bs)
          else return false
        | .typeParam _ _, _ =>
          match ts.common? a with
          | some x => unifyWithin ts n ⟨true, false⟩ x b
          | none => return false
        | _, _ => return false

def unify (ts : TypeTable) (mode : Exactness) (a b : Ty) : Unify Bool := unifyWithin ts TypeTable.depth mode a b

/-- What underlies the types that a type parameter can stand for: the type, whether it stands for all types that it
underlies, and whether it is the only one. -/
def core? (ts : TypeTable) (id : Nat) : Option (Term × Bool) := do
  match ← (ts.boundSet id).specific? with
  | [t] => some (t, true)
  | us =>
    let c ← ts.common? (ts.paramType id)
    return (⟨us.any (·.tilde), c⟩, false)

/-- Uses what bounds a type parameter; whether that is possible. -/
def useBound (ts : TypeTable) (id : Nat) : Unify Bool := do
  let known := (← get).get? id
  match core? ts id, known with
  | some (core, _), some t =>
    let t := if core.tilde && !t.isParam then ts.under t else t
    unify ts ⟨false, false⟩ t core.type
  | some (core, single), none =>
    if single && !core.tilde then modify (·.insert id core.type)
    return true
  | none, some t =>
    every (fun m => match ts.methodType? t m.1 with
      | some u => unify ts ⟨false, true⟩ u m.2
      | none => return t.isInvalid) (ts.boundSet id).methods
  | none, none => return true

/-- Uses what bounds type parameters until nothing more is learnt; whether that is possible. -/
def useBounds (ts : TypeTable) (params : List Nat) : Nat → Unify Bool
  | 0 => return true
  | fuel + 1 => do
    let before := (← get).unknowns
    if ← every (useBound ts) params then
      if (← get).unknowns == before then return true else useBounds ts params fuel
    else return false

/-- The kind that constants for one type parameter have together. -/
def largestKind? (a b : BasicKind) : Option BasicKind :=
  if a == b then some a
  else if a.isNumeric && b.isNumeric then some (if a.rank ≤ b.rank then b else a)
  else none

/-- Takes the types of type parameters that nothing else is known about from constants; whether that is possible. -/
def useConstants (constants : List (Nat × BasicKind)) : Unify Bool := do
  let u ← get
  let left := constants.filter fun c => (u.get? c.1).isNone
  let ids := (left.map (·.1)).eraseDups
  every (fun id => do
    let kinds := (left.filter fun c => c.1 == id).map (·.2)
    match kinds with
    | [] => return true
    | k :: ks =>
      match ks.foldlM largestKind? k with
      | none => return false
      | some k =>
        modify (·.insert id (.basic k.default))
        return true) ids

end Unify

namespace TypeTable

/-- The types that type parameters stand for when all of them are put in for each other, `fuel` times. -/
def settle (params : List Nat) : Nat → List (Option Ty) → List (Option Ty)
  | 0, types => types
  | fuel + 1, types =>
    let known := (params.zip types).filterMap fun (p, t) => t.map (p, ·)
    if types.any fun t => t.any (·.mentions params) then settle params fuel (types.map fun t => t.map (·.subst known))
    else types

/-- The type arguments for type parameters, given those that are known, the types of the parameters and those of the
arguments. -/
def infer? (ts : TypeTable) (typeParams : List Nat) (given : List (Option Ty)) (params args : List Ty) :
    Option (List Ty) := do
  let given := given ++ List.replicate (typeParams.length - given.length) none
  let known := (typeParams.zip given).filterMap fun (p, t) => t.map (p, ·)
  let params := params.map (·.subst known)
  let pairs := (params.zip args).filter fun (p, a) => p.mentions typeParams || a.mentions typeParams
  let constants := pairs.filterMap fun (p, a) =>
    match p.unalias, a.untypedKind? with
    | .typeParam id _, some k => if k == .untypedNil then none else some (id, k)
    | _, _ => none
  let run : Unify Bool := do
    let typed ← Unify.every (fun (p, a) => Unify.unify ts ⟨true, false⟩ p a) (pairs.filter fun pa => !pa.2.isUntyped)
    if !typed then return false
    if !(← Unify.useBounds ts typeParams (typeParams.length + 1)) then return false
    Unify.useConstants constants
  let (succeeded, u) := run.run (Unifier.ofTypes typeParams given)
  if !succeeded then none
  else
    let found := settle typeParams (typeParams.length + 1) (typeParams.map u.get?)
    found.mapM fun t => t.filter fun t => !t.mentions typeParams

end TypeTable

end DocAccessors.Typing
