import DocAccessors.Typing.Type

/-!
# Defined types and type parameters

What underlies a defined type, which methods it has, and what bounds a type parameter is kept in a `TypeTable`, so
that types can refer to each other. Questions about types are answered relative to such a table.

* `TypeTable` holds both, by number;
* `TypeTable.under`: the type that underlies a type;
* `TypeTable.basic?`: the basic kind that does.
-/

namespace DocAccessors.Typing

/-- A type parameter with the type that bounds it. -/
structure TypeParam where
  name : Text
  bound : Ty := .emptyInterface
  /-- The parameter that this one was made from, for one use of what has it. -/
  origin : Option Nat := none
  deriving Inhabited

/-- A method: the object that it is, whether it needs a pointer, and its type. -/
structure Method where
  name : Text
  object : Nat
  needsPointer : Bool
  type : Ty

/-- A defined type: its parameters, the type that it is defined as, and its methods. -/
structure DefinedType where
  name : Text
  params : List Nat := []
  definition : Ty := .invalid
  methods : List Method := []
  /-- The type parameters around its definition. -/
  around : List Nat := []
  deriving Inhabited

/-- All defined types and all type parameters, by number. -/
structure TypeTable where
  defined : Array DefinedType
  params : Array TypeParam

namespace TypeTable

/-- The number of the predeclared type of errors. -/
def errorId : Nat := 0

/-- The number of the predeclared constraint for types that can be compared. -/
def comparableId : Nat := 1

/-- The number of defined types that are predeclared. -/
def predeclaredCount : Nat := 2

def errorType : Ty := .defined errorId "error" []

/-- The constraint for types that can be compared. -/
def comparableType : Ty := .defined comparableId "comparable" []

def predeclared : TypeTable where
  defined := #[
    { name := "error", definition := .interface [("Error", .func [] [] [([], .basic .string)] false)] [] },
    { name := "comparable", definition := .interface [] [comparableType] }]
  params := #[]

/-- How deep questions about types look. -/
def depth : Nat := 500

/-- The parameters of a defined type. -/
def paramsOf (ts : TypeTable) (id : Nat) : List Nat := ((ts.defined[id]?).map (·.params)).getD []

/-- The type that bounds a type parameter. -/
def boundOf (ts : TypeTable) (id : Nat) : Ty := ((ts.params[id]?).map (·.bound)).getD .emptyInterface

def paramType (ts : TypeTable) (id : Nat) : Ty := .typeParam id (((ts.params[id]?).map (·.name)).getD [])

/-- The parameters that a type has no arguments for. -/
def openParams (ts : TypeTable) (t : Ty) : List Nat :=
  match t with
  | .alias _ ps [] _ => ps
  | .defined id _ [] => ts.paramsOf id
  | .func ps _ _ _ => ps
  | _ => []

/-- The type that a defined type with arguments is defined as. -/
def definition (ts : TypeTable) (id : Nat) (args : List Ty) : Ty :=
  match ts.defined[id]? with
  | none => .invalid
  | some d => d.definition.subst (d.params.zip args)

/-- The type that underlies a type, through at most `fuel` definitions. -/
def underWithin (ts : TypeTable) : Nat → Ty → Ty
  | 0, _ => .invalid
  | fuel + 1, t =>
    match t.unalias with
    | .defined id _ args => ts.underWithin fuel (ts.definition id args)
    | t => t

/-- The type that underlies a type. A type parameter underlies itself. -/
def under (ts : TypeTable) (t : Ty) : Ty := ts.underWithin (ts.defined.size + 2) t

/-- The basic kind that underlies a type. -/
def basic? (ts : TypeTable) (t : Ty) : Option BasicKind :=
  match ts.under t with
  | .basic k => some k
  | _ => none

/-- Whether a type is a basic type of certain kinds. -/
def isBasic (ts : TypeTable) (p : BasicKind → Bool) (t : Ty) : Bool := (ts.basic? t).any p

def isConstType (ts : TypeTable) (t : Ty) : Bool := ts.isBasic BasicKind.isConstant t

def isInterface (ts : TypeTable) (t : Ty) : Bool :=
  match ts.under t with
  | .interface _ _ => true
  | _ => false

def isPointer (ts : TypeTable) (t : Ty) : Bool :=
  match ts.under t with
  | .pointer _ => true
  | _ => false

end TypeTable

end DocAccessors.Typing
