import DocAccessors.Typing.TypeSet

/-!
# Selectors and interfaces

What a name picks in a type, and which types belong to an interface.

* `TypeTable.find?`: the field or method that a selector picks;
* `TypeTable.hasMethods`: whether a type has the methods of a set;
* `TypeTable.implements` and `TypeTable.satisfies`: whether a type belongs to an interface, as a value of it or as a
  type argument.
-/

namespace DocAccessors.Typing

/-- What a selector picks: a field or a method, and its type. -/
structure Selected where
  isField : Bool
  type : Ty
  /-- The object that a method is, if it is not one of an interface. -/
  object : Option Nat := none
  needsPointer : Bool := false
  /-- Whether a pointer was followed on the way. -/
  throughPointer : Bool := false
  /-- What was put in for the parameters of the type that has the method. -/
  receiver : List (Nat × Ty) := []

/-- A type to be searched: whether a pointer leads to it, and whether there are several ways. -/
structure Place where
  type : Ty
  throughPointer : Bool
  several : Bool := false

namespace TypeTable

variable (ts : TypeTable)

/-! ## Selectors -/

def declaredMethod? (name : Text) (p : Place) : Option Selected := do
  match p.type.unalias with
  | .defined id _ args =>
    let d ← ts.defined[id]?
    let m ← d.methods.find? (·.name == name)
    let receiver := d.params.zip args
    return ⟨false, m.type.subst receiver, some m.object, m.needsPointer, p.throughPointer, receiver⟩
  | _ => none

/-- What a name picks in a type itself. -/
def own? (name : Text) (p : Place) : Option Selected :=
  match ts.declaredMethod? name p with
  | some m => some m
  | none =>
    let ofSet (s : TypeSet) : Option Selected :=
      (s.methods.lookup name).map fun t => { isField := false, type := t, throughPointer := p.throughPointer }
    match ts.under p.type with
    | .struct fs =>
      (fs.find? fun f => f.1.1 == name).map fun f =>
        { isField := true, type := f.2, throughPointer := p.throughPointer }
    | .interface _ _ => ofSet (ts.typeSet p.type)
    | .typeParam id _ => ofSet (ts.boundSet id)
    | _ => none

def embedded (p : Place) : List Place :=
  match ts.under p.type with
  | .struct fs => (fs.filter fun f => f.1.2.1).map fun f =>
    let (e, isPointer) := f.2.deref
    ⟨e, p.throughPointer || isPointer, p.several⟩
  | _ => []

/-- Places of one type become one place that there are several ways to. -/
def joinPlaces : List Place → List Place
  | [] => []
  | p :: ps =>
    let rest := joinPlaces ps
    if rest.any fun q => ts.same p.type q.type then
      { p with several := true } :: rest.filter fun q => !ts.same p.type q.type
    else p :: rest

/-- How many types are searched at one depth of embedding. -/
def widestLevel : Nat := 200

/-- What a name picks at the least depth of embedding, if it is one thing only. A type that was seen at a lesser depth
is not searched again. -/
def findFrom? (name : Text) : Nat → List Ty → List Place → Option Selected
  | 0, _, _ => none
  | fuel + 1, seen, places =>
    let isDefined (t : Ty) : Bool := match t.unalias with
      | .defined _ _ _ => true
      | _ => false
    match (places.filter fun p => !(isDefined p.type && seen.any (ts.same p.type))).take widestLevel with
    | [] => none
    | level =>
      match level.filterMap fun p => (ts.own? name p).map fun s => (s, p.several) with
      | [(s, several)] => if several then none else some s
      | [] =>
        findFrom? name fuel ((level.map (·.type)).filter isDefined ++ seen) (ts.joinPlaces (level.flatMap ts.embedded))
      | _ => none

/-- What a name picks in a type or in what it points to, wherever the value is. -/
def findAnywhere? (name : Text) (t : Ty) : Option Selected :=
  let (e, isPointer) := t.deref
  if name == text "_" then none
  else if isPointer && (ts.isInterface e || e.isParam) then none
  else ts.findFrom? name depth [] [⟨e, isPointer, false⟩]

/-- What a name picks in a type or in what it points to. A method that needs a pointer is only found if the value has
an address or a pointer leads to it. A defined pointer type has no methods. -/
def find? (name : Text) (t : Ty) (hasAddress : Bool) : Option Selected :=
  let reachable (s : Selected) : Bool := s.isField || !s.needsPointer || s.throughPointer || hasAddress
  match t.unalias with
  | .defined _ _ _ =>
    match ts.under t with
    | .pointer e => (ts.findAnywhere? name (.pointer e)).filter (·.isField)
    | _ => (ts.findAnywhere? name t).filter reachable
  | _ => (ts.findAnywhere? name t).filter reachable

/-! ## Methods -/

/-- The type of a method of a type; that of a value without an address. -/
def methodType? (t : Ty) (name : Text) : Option Ty :=
  match ts.under t with
  | .interface _ _ => (ts.typeSet t).methods.lookup name
  | .typeParam id _ => (ts.boundSet id).methods.lookup name
  | _ => ((ts.find? name t false).filter fun s => !s.isField).map (·.type)

/-- Whether a type has methods. For an interface, `static` asks for them; else it is enough that it has none of another
type. -/
def hasMethods (static : Bool) (t : Ty) (methods : List (Text × Ty)) : Bool :=
  let isLoose := !static && match ts.under t with
    | .interface _ _ | .typeParam _ _ => true
    | _ => false
  methods.all fun m =>
    match ts.methodType? t m.1 with
    | some u => ts.same u m.2
    | none => isLoose

/-! ## Belonging to an interface -/

/-- The set of types that a type is, as far as it is an interface or a type parameter. -/
def ownSet? (t : Ty) : Option TypeSet :=
  match ts.under t with
  | .interface _ _ => some (ts.typeSet t)
  | .typeParam id _ => some (ts.boundSet id)
  | _ => none

/-- Whether a type belongs to an interface. As a type argument, an interface counts as comparable. -/
def belongs (asArgument : Bool) (t iface : Ty) : Bool :=
  let goal := ts.typeSet iface
  let mine := ts.ownSet? t
  if (ts.under t).isInvalid || (ts.under iface).isInvalid then true
  else if !ts.isInterface iface && !iface.isParam && !asArgument then false
  else if goal.isAll || mine.any (·.isEmpty) then true
  else if goal.isEmpty then false
  else
    let asked := goal.comparable || goal.terms.any fun us => us.all fun u => ts.isStrictlyComparable u.type
    let comparable := !asked || ts.isStrictlyComparable t || (asArgument && ts.isComparable t)
    let allowed := match goal.terms, mine with
      | none, _ => true
      | some us, none => us.any fun u => ts.covers u t
      | some us, some s => ts.subterms ts.same s.terms (some us)
    ts.hasMethods true t goal.methods && allowed && comparable

/-- Whether a type has all that an interface asks of its values. -/
def implements (t iface : Ty) : Bool := ts.belongs false t iface

/-- Whether a type can be the argument for a type parameter with a bound. -/
def satisfies (t bound : Ty) : Bool := ts.belongs true t bound

/-! ## Containment -/

/-- The defined types without parameters that a type was found to be made of, unless a type contains itself; `nest`
are the defined types that it stands in, with their arguments. -/
def sound? : Nat → List Ty → List Nat → Ty → Option (List Nat)
  | 0, _, known, _ => some known
  | fuel + 1, nest, known, t =>
    let each (us : List Ty) : Option (List Nat) := us.foldlM (fun k u => sound? fuel nest k u) known
    match t with
    | .alias _ _ _ u => each [u]
    | .array _ e => each [e]
    | .struct fs => each (fs.map (·.2))
    | .union us => each (us.map (·.2))
    | .interface _ es => each es
    | .typeParam p _ =>
      -- A type parameter stands for the argument, which stands in what is around the type that has the parameter.
      match nest with
      | .defined id _ args :: rest =>
        match ((ts.paramsOf id).zip args).lookup p with
        | some a => sound? fuel rest known a
        | none => some known
      | _ => some known
    | .defined id _ _ =>
      if id < predeclaredCount || known.contains id then some known
      else if nest.any (ts.same t) then none
      else
        let definition := ((ts.defined[id]?).map (·.definition)).getD .invalid
        (sound? fuel (t :: nest) known definition).map fun known =>
          if (ts.paramsOf id).isEmpty then id :: known else known
    | _ => some known

/-- Whether no defined type contains itself. -/
def isSound : Bool :=
  ((List.range ts.defined.size).foldlM (fun known id =>
    ts.sound? 200 [] known (.defined id (((ts.defined[id]?).map (·.name)).getD []) [])) ([] : List Nat)).isSome

end TypeTable

end DocAccessors.Typing
