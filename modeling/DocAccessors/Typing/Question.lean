import DocAccessors.Typing.Instance

/-!
# Questions for the end

What can be asked about a package only when all its types are known.

* `Question.holds` answers the questions that came up on the way;
* `growsWithoutEnd`: whether generic types or functions need ever larger instances of themselves;
* `hasValueCircle`: whether a constant or variable needs its own value.
-/

namespace DocAccessors.Typing

/-! ## Single types -/

/-- Whether a type can be embedded in a struct: a type or a pointer to one, but no pointer to an interface. -/
def canEmbed (ts : TypeTable) (t : Ty) : Bool :=
  let (e, isPointer) := t.deref
  match ts.under e with
  | .pointer _ | .typeParam _ _ => false
  | .interface _ _ => !isPointer
  | _ => true

/-- Whether a type can have methods: a type that the package defines, or a pointer to one, but no pointer and no
interface. -/
def canReceive (ts : TypeTable) (t : Ty) : Bool :=
  let e := t.deref.1
  match e.unalias with
  | .defined id _ _ => TypeTable.predeclaredCount ≤ id && !ts.isPointer e && !ts.isInterface e
  | _ => e.isInvalid

/-- Whether a term can stand in a union after other terms: it must not share types with them. -/
def termFits (ts : TypeTable) (before : List Term) (t : Term) : Bool :=
  let set := ts.typeSet t.type
  if t.type.isInvalid then true
  else if t.tilde && (ts.isInterface t.type || !ts.same (ts.under t.type) t.type) then false
  else if ts.isInterface t.type then set.methods.isEmpty && !set.comparable
  else before.all fun u => ts.isInterface u.type || ts.disjoint ts.same u t

/-- Whether all terms of a union go together. -/
def termsFit (ts : TypeTable) : List Term → List Term → Bool
  | _, [] => true
  | before, t :: us => termFits ts before t && termsFit ts (before ++ [t]) us

/-- Whether the methods of an interface and of what it embeds go together: those of one name are the same. -/
def methodsFit (ts : TypeTable) (t : Ty) : Bool :=
  match t with
  | .interface ms es =>
    let all := ms ++ es.flatMap fun e => (ts.typeSet e).methods
    all.all fun m => (all.lookup m.1).all (ts.same m.2)
  | _ => true

namespace Question

def holds (ts : TypeTable) : Question → Bool
  | .embedded t => canEmbed ts t
  | .key t => ts.isComparable t
  | .variable t => !ts.isInterface t || (ts.typeSet t).isMethodSet
  | .union us => termsFit ts [] (us.map fun u => ⟨u.1, u.2⟩)
  | .interface t => methodsFit ts t
  | .arguments ps as => (ps.zip as).all fun (p, a) => ts.satisfies a ((ts.boundOf p).subst (ps.zip as))
  | .receiver t => canReceive ts t

end Question

/-! ## Graphs -/

/-- The nodes that are reached from some nodes. -/
def reached {α : Type} [DecidableEq α] (edges : List (α × α)) : Nat → List α → List α → List α
  | 0, seen, _ => seen
  | _, seen, [] => seen
  | fuel + 1, seen, a :: rest =>
    if seen.contains a then reached edges fuel seen rest
    else reached edges fuel (a :: seen) (((edges.filter fun e => e.1 == a).map Prod.snd) ++ rest)

/-- Whether a node is reached from another one. -/
def leadsTo {α : Type} [DecidableEq α] (edges : List (α × α)) (a b : α) : Bool :=
  (reached edges ((edges.length + 1) * (edges.length + 1)) [] [a]).contains b

/-! ## Ever larger instances -/

/-- A type parameter, or a type that is defined in a generic function. -/
structure Flowing where
  id : Nat
  isParam : Bool
  deriving DecidableEq

/-- A step from what a type is made of to the type parameter that it is put in for; `grows` tells whether it is only a
part of the type. -/
structure FlowStep where
  source : Flowing
  goal : Flowing
  grows : Bool

/-- The parts of a type argument with whether they are less than all of it. -/
def flowingParts (t : Ty) : List (Flowing × Bool) :=
  let inside (us : List (Nat × Bool)) : List (Flowing × Bool) := us.map fun (id, isParam) => (⟨id, isParam⟩, true)
  match t.unalias with
  | .typeParam id _ => [(⟨id, true⟩, false)]
  | .defined id _ args => (⟨id, false⟩, false) :: inside (Ty.namesAll args)
  | u => inside u.names

/-- The steps from parts of type arguments to the parameters that they are put in for, and from the type parameters
around the definition of a type to the type. -/
def flowSteps (ts : TypeTable) (instances : List (Nat × Ty)) : List FlowStep :=
  let origin (f : Flowing) : Flowing :=
    if f.isParam then { f with id := ((ts.params[f.id]?).bind (·.origin)).getD f.id } else f
  let arguments := instances.flatMap fun (p, t) =>
    (flowingParts t).map fun (f, grows) => FlowStep.mk (origin f) ⟨p, true⟩ grows
  let definitions := ts.defined.toList.zipIdx.flatMap fun (d, id) =>
    d.around.map fun p => FlowStep.mk (origin ⟨p, true⟩) ⟨id, false⟩ true
  arguments ++ definitions

/-- Whether generic types or functions need ever larger instances of themselves. -/
def growsWithoutEnd (ts : TypeTable) (instances : List (Nat × Ty)) : Bool :=
  let steps := flowSteps ts instances
  let edges := (steps.map fun s => (s.source, s.goal)).eraseDups
  steps.any fun s => s.grows && leadsTo edges s.goal s.source

/-! ## Values -/

/-- Whether an object is a constant or a variable. -/
def Object.isValue (o : Object) : Bool :=
  match o.decl with
  | .const _ _ _ | .var _ _ _ _ => true
  | _ => false

/-- Whether a constant or variable needs its own value. -/
def hasValueCircle (s : State) : Bool :=
  let uses := s.uses.eraseDups
  let needsItself (i : Nat) : Bool := (uses.filter fun u => u.1 == i).any fun u => leadsTo uses u.2 i
  s.objects.toList.zipIdx.any fun (o, i) => o.isValue && needsItself i

/-! ## All of them -/

/-- Answers all questions that came up, and looks for types that contain themselves. -/
def answer : Check Unit :=
  modify fun s => { s with failed := s.failed || !s.types.isSound || !s.questions.all (·.holds s.types) }

end DocAccessors.Typing
