import DocAccessors.Typing.Table

/-!
# Identity and type sets

Two interfaces are the same type when they describe the same set of types, and a set of types is described by types
that are compared: so both are defined together.

* `TypeTable.same`: whether two types are the same;
* `TypeSet`: the types that an interface describes, by their methods, by terms, and by being comparable;
* `TypeTable.isComparable`: whether values of a type can be compared;
* `TypeTable.specific?`: the types that a type parameter can stand for, if they are listed;
* `TypeTable.common?`: the type that underlies all of them.
-/

namespace DocAccessors.Typing

/-- A type, or all types that it underlies. -/
structure Term where
  tilde : Bool
  type : Ty

/-- A set of types: those with the methods, among the terms if there are any, and comparable if that is asked for. -/
structure TypeSet where
  methods : List (Text × Ty) := []
  /-- The terms; none for all types. -/
  terms : Option (List Term) := none
  comparable : Bool := false

namespace TypeSet

def isAll (s : TypeSet) : Bool := s.methods.isEmpty && s.terms.isNone && !s.comparable

/-- Whether the set is described by methods alone. -/
def isMethodSet (s : TypeSet) : Bool := s.terms.isNone && !s.comparable

def isEmpty (s : TypeSet) : Bool := s.terms.any List.isEmpty

def specific? (s : TypeSet) : Option (List Term) := s.terms.filter fun ts => !ts.isEmpty

end TypeSet

/-- The methods of two lists; of two with one name, the first is kept. -/
def mergeMethods (ms ns : List (Text × Ty)) : List (Text × Ty) :=
  ms ++ ns.filter fun n => !ms.any fun m => m.1 == n.1

namespace TypeTable

variable (ts : TypeTable)

/-- Whether two terms have no type in common. -/
def disjoint (same : Ty → Ty → Bool) (x y : Term) : Bool :=
  !same (if y.tilde then ts.under x.type else x.type) (if x.tilde then ts.under y.type else y.type)

/-- Whether all types of a term are types of another one. -/
def isSubterm (same : Ty → Ty → Bool) (x y : Term) : Bool := !ts.disjoint same x y && (!x.tilde || y.tilde)

/-- The terms that two lists of terms have in common. -/
def meetTerms (same : Ty → Ty → Bool) (xs ys : Option (List Term)) : Option (List Term) :=
  match xs, ys with
  | none, _ => ys
  | _, none => xs
  | some xs, some ys =>
    some (xs.flatMap fun x => ys.filterMap fun y =>
      if ts.disjoint same x y then none else some (if x.tilde && !y.tilde then y else x))

/-- Whether all types of a list of terms are among those of another one. -/
def subterms (same : Ty → Ty → Bool) (xs ys : Option (List Term)) : Bool :=
  match xs, ys with
  | _, none => true
  | none, some _ => false
  | some xs, some ys => xs.all fun x => ys.any fun y => ts.isSubterm same x y

mutual

/-- Whether two types are the same, looking into them to a depth. Names of parameters do not matter, and tags only
if `tags` is set. -/
def sameWithin (tags : Bool) : Nat → Ty → Ty → Bool
  | 0, _, _ => true
  | n + 1, a, b =>
    let same := sameWithin tags n
    let sameAll (as bs : List Ty) : Bool := as.length == bs.length && (as.zip bs).all fun (x, y) => same x y
    let sameParams (as bs : List (Text × Ty)) : Bool :=
      as.length == bs.length && (as.zip bs).all fun (x, y) => same x.2 y.2
    match a.unalias, b.unalias with
    | .basic k, .basic l => k.canonical == l.canonical
    | .defined i _ as, .defined j _ bs => i == j && sameAll as bs
    | .typeParam i _, .typeParam j _ => i == j
    | .pointer t, .pointer u => same t u
    | .slice t, .slice u => same t u
    | .array n t, .array m u => n == m && same t u
    | .map k t, .map l u => same k l && same t u
    | .chan d t, .chan e u => d == e && same t u
    | .func tps ps rs v, .func tqs qs ss w => tps == tqs && v == w && sameParams ps qs && sameParams rs ss
    | .struct fs, .struct gs =>
      fs.length == gs.length && (fs.zip gs).all fun (f, g) =>
        f.1.1 == g.1.1 && f.1.2.1 == g.1.2.1 && (!tags || f.1.2.2 == g.1.2.2) && same f.2 g.2
    | .interface _ _, .interface _ _ =>
      let x := typeSetWithin n [] a.unalias
      let y := typeSetWithin n [] b.unalias
      x.comparable == y.comparable && ts.subterms same x.terms y.terms && ts.subterms same y.terms x.terms &&
        x.methods.length == y.methods.length && x.methods.all fun m => (y.methods.lookup m.1).any (same m.2)
    | .union us, .union vs =>
      us.length == vs.length && (us.zip vs).all fun (u, v) => u.1 == v.1 && same u.2 v.2
    | .tuple us, .tuple vs => sameParams us vs
    | _, _ => false

/-- The set of types that a type describes, looking into it to a depth: that of an interface, or of the terms of a
union; any other type describes itself. A defined type on the path to it describes all types. -/
def typeSetWithin : Nat → List Nat → Ty → TypeSet
  | 0, _, _ => {}
  | n + 1, path, t =>
    let id? := match t.unalias with
      | .defined id _ _ => some id
      | _ => none
    if id? == some comparableId then { comparable := true }
    else if id?.any path.contains then {}
    else
      let path := id?.toList ++ path
      match ts.under t with
      | .basic .invalid => {}
      | .interface ms es =>
        es.foldl (fun s e =>
          let r := typeSetWithin n path e
          let terms := ts.meetTerms (sameWithin true n) s.terms r.terms
          let comparable := s.comparable || r.comparable
          let methods := mergeMethods s.methods r.methods
          match terms with
          | some us =>
            let kept := if comparable then us.filter fun u => (comparableWithin false n [] u.type).isSome else us
            { methods, terms := some kept }
          | none => { methods, comparable }) { methods := mergeMethods [] ms }
      | .union us =>
        let parts := us.map fun (tilde, u) =>
          if tilde then (if sameWithin true n (ts.under u) u then some [⟨true, u⟩] else some [])
          else (typeSetWithin n path u).terms
        { terms := parts.foldr (fun p rest => do return (← p) ++ (← rest)) (some []) }
      | _ => { terms := some [⟨false, t⟩] }

/-- Whether values of a type can be compared, looking into it to a depth: the defined types that were seen on the way,
if they can. With `dynamic`, values of interfaces can be compared although that may fail when it is done. -/
def comparableWithin (dynamic : Bool) : Nat → List Ty → Ty → Option (List Ty)
  | 0, seen, _ => some seen
  | n + 1, seen, t =>
    let id? := match t.unalias with
      | .defined id _ _ => some id
      | _ => none
    let isAlike (u : Ty) : Bool := match u.unalias with
      | .defined id _ _ => id? == some id
      | _ => false
    -- A type that is made of ever larger instances of itself is looked at a few times only.
    if id?.isSome && (seen.any (sameWithin true n t) || 20 < seen.countP isAlike) then some seen
    else
      let seen := if id?.isSome then t :: seen else seen
      let allOf (s : TypeSet) : Bool := match s.terms with
        | none => s.comparable
        | some [] => false
        | some us => us.all fun u => (comparableWithin false n [] u.type).isSome
      match ts.under t with
      | .basic k => if k == .untypedNil then none else some seen
      | .pointer _ | .chan _ _ => some seen
      | .array _ e => comparableWithin dynamic n seen e
      | .struct fs => fs.foldlM (fun seen f => comparableWithin dynamic n seen f.2) seen
      | .interface _ _ => if dynamic || allOf (typeSetWithin n [] t) then some seen else none
      | .typeParam id _ => if allOf (typeSetWithin n [] (ts.boundOf id)) then some seen else none
      | _ => none

end

def same (a b : Ty) : Bool := ts.sameWithin true depth a b

/-- Whether two types are the same when tags do not matter. -/
def sameUntagged (a b : Ty) : Bool := ts.sameWithin false depth a b

/-- The set of types that a type describes. -/
def typeSet (t : Ty) : TypeSet := ts.typeSetWithin depth [] t

/-- The set of types that a type parameter can stand for. -/
def boundSet (id : Nat) : TypeSet := ts.typeSet (ts.boundOf id)

/-- Whether values of a type can be compared. -/
def isComparable (t : Ty) : Bool := (ts.comparableWithin true depth [] t).isSome

/-- Whether values of a type can be compared without failing. -/
def isStrictlyComparable (t : Ty) : Bool := (ts.comparableWithin false depth [] t).isSome

def covers (x : Term) (t : Ty) : Bool := ts.same x.type (if x.tilde then ts.under t else t)

/-! ## What a type parameter stands for -/

/-- The terms that a type parameter can stand for, if they are listed. Any other type stands for itself. -/
def specific? (t : Ty) : Option (List Term) :=
  match t.unalias with
  | .typeParam id _ => (ts.boundSet id).specific?
  | _ => some [⟨false, t⟩]

/-- Whether what underlies each type that a type can stand for is of a certain kind. -/
def allUnder (p : Ty → Bool) (t : Ty) : Bool := (ts.specific? t).any fun us => us.all fun u => p (ts.under u.type)

/-- Whether each type that a type can stand for is a basic type of certain kinds. -/
def all (p : BasicKind → Bool) (t : Ty) : Bool := ts.allUnder (fun u => ts.isBasic p u) t

/-- Whether a type has a value for nothing. -/
def hasNil (t : Ty) : Bool :=
  ts.allUnder (fun u => match u with
    | .pointer _ | .slice _ | .map _ _ | .chan _ _ | .func _ _ _ _ | .interface _ _ => true
    | _ => false) t

/-- One type for two that underlie types of one set: they are the same, or channels that agree but for the way that
one of them goes. -/
def joinUnder? (a b : Ty) : Option Ty :=
  if ts.same a b then some a
  else match a, b with
    | .chan d x, .chan e y =>
      if !ts.same x y then none
      else if d == .both then some b else if e == .both then some a else none
    | _, _ => none

/-- The type that underlies all types that a type can stand for. -/
def common? (t : Ty) : Option Ty := do
  match ← ts.specific? t with
  | [] => none
  | u :: us => us.foldlM (fun a v => ts.joinUnder? a (ts.under v.type)) (ts.under u.type)

/-- The same, where a text counts as its bytes; it is the type of texts if there is one among them. -/
def commonText? (t : Ty) : Option Ty := do
  let us := (← ts.specific? t).map fun u => ts.under u.type
  let isText (u : Ty) : Bool := ts.isBasic BasicKind.isString u
  let asBytes (u : Ty) : Ty := if isText u then .slice (.basic .byte) else u
  match us with
  | [] => none
  | [u] => some u
  | u :: us =>
    let joined ← us.foldlM (fun a v => ts.joinUnder? a (asBytes v)) (asBytes u)
    return if (u :: us).any isText then .basic .string else joined

/-- The elements of a channel that can be used in one way, for all types that a type can stand for. -/
def chanElement? (receives : Bool) (t : Ty) : Option Ty := do
  let us := (← ts.specific? t).map fun u => ts.under u.type
  let elements ← us.mapM fun u => match u with
    | .chan dir e => if dir == (if receives then .send else .receive) then none else some e
    | _ => none
  match elements with
  | [] => none
  | e :: es => if es.all (ts.same e) then some e else none

end TypeTable

end DocAccessors.Typing
