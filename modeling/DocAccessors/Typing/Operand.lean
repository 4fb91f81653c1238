import DocAccessors.Constant.Arithmetic
import DocAccessors.Constant.Rounding
import DocAccessors.Source.Tree
import DocAccessors.Typing.Inference

/-!
# Operands and the checking state

* `Operand`: what an expression is known to be;
* `Referent`: what a name stands for; `predeclared?` are the names that need no declaration;
* `Object`: a name that the package declares, checked when it is first needed;
* `Env`: the names and the function around an expression;
* `State` and `Check`: the state of checking a package. Of the faults that are found only their being there is kept;
  a `Question` is one that can be answered only when all types are known.
-/

namespace DocAccessors.Typing

open DocAccessors.Source (Expr Stmt Ident FieldList)

/-! ## Operands -/

/-- A predeclared function. -/
inductive Builtin where
  | append | cap | clear | close | complex | copy | delete | imag | len | make | max | min | new | panic | print
  | println | real | recover
  deriving DecidableEq

namespace Builtin

/-- The number of arguments of a predeclared function, and whether there may be more. -/
def arity : Builtin → Nat × Bool
  | .append | .make | .max | .min => (1, true)
  | .cap | .clear | .close | .imag | .len | .new | .panic | .real => (1, false)
  | .complex | .copy | .delete => (2, false)
  | .print | .println => (0, true)
  | .recover => (0, false)

/-- Whether the first argument of a predeclared function can be a type. -/
def takesType : Builtin → Bool
  | .make | .new => true
  | _ => false

/-- Whether a call of a predeclared function can stand for its effect alone. -/
def hasEffect : Builtin → Bool
  | .clear | .close | .copy | .delete | .panic | .print | .println | .recover => true
  | _ => false

end Builtin

/-- What kind of thing an expression is. -/
inductive Mode where
  | invalid
  /-- A call without results. -/
  | noValue
  | builtin (b : Builtin)
  | type
  | constant (v : Constant)
  /-- What has an address. -/
  | variable
  | mapIndex
  | value
  /-- What can also tell whether it succeeded. -/
  | commaOk

/-- What an expression does beside giving a value. -/
inductive Effect where
  | none
  /-- It turns a value into another type. -/
  | conversion
  /-- It calls or receives, so that it can be a statement. -/
  | statement
  deriving DecidableEq

/-- What an expression is known to be. -/
structure Operand where
  mode : Mode := .invalid
  type : Ty := .invalid
  /-- The constants that get their type from an expression that is not constant and has no type yet, and whether they
  are shifted. -/
  leaves : List (Bool × Constant) := []
  /-- The type arguments of a generic function, as far as they are given. -/
  typeArgs : List Ty := []
  effect : Effect := .none

namespace Operand

instance : Inhabited Operand := ⟨{}⟩

/-- Nothing is known about the expression. -/
def invalid : Operand := {}

def ofType (t : Ty) : Operand := { mode := .value, type := t }

/-- An operand of a kind with a type. -/
def ofMode (m : Mode) (t : Ty) : Operand := { mode := m, type := t }

def ofConstant (v : Constant) (t : Ty) : Operand := { mode := .constant v, type := t }

/-- Whether nothing is known. -/
def isInvalid (x : Operand) : Bool :=
  match x.mode with
  | .invalid => true
  | _ => false

def constant? (x : Operand) : Option Constant :=
  match x.mode with
  | .constant v => some v
  | _ => none

def isConstant (x : Operand) : Bool := x.constant?.isSome

def isVariable (x : Operand) : Bool :=
  match x.mode with
  | .variable => true
  | _ => false

def isType (x : Operand) : Bool :=
  match x.mode with
  | .type => true
  | _ => false

def isValue (x : Operand) : Bool :=
  match x.mode with
  | .constant _ | .variable | .mapIndex | .value | .commaOk => true
  | _ => false

/-- Whether the operand is the predeclared value for nothing. -/
def isNil (x : Operand) : Bool :=
  match x.mode, x.type with
  | .value, .basic .untypedNil => true
  | _, _ => false

/-- Whether the operand is a generic function without all its type arguments. -/
def isGeneric (x : Operand) : Bool := x.isValue && !x.type.openParams.isEmpty

/-- The constants that get their type together with the operand. -/
def allLeaves (x : Operand) : List (Bool × Constant) :=
  match x.constant? with
  | some v => [(false, v)]
  | none => x.leaves

end Operand

/-! ## Names -/

/-- What a name stands for. -/
inductive Referent where
  | type (t : Ty)
  | const (t : Ty) (v : Constant)
  /-- A variable; one of a function has a number. -/
  | variable (id : Option Nat) (t : Ty)
  | func (t : Ty)
  | builtin (b : Builtin)
  | nil
  /-- The place of a constant in its declaration. -/
  | iota
  /-- A name of the package. -/
  | object (index : Nat)
  /-- A name that cannot be used in its own declaration. -/
  | circular

/-- The predeclared functions with their names. -/
def builtins : List (Text × Builtin) := [
  ("append", .append), ("cap", .cap), ("clear", .clear), ("close", .close), ("complex", .complex), ("copy", .copy),
  ("delete", .delete), ("imag", .imag), ("len", .len), ("make", .make), ("max", .max), ("min", .min), ("new", .new),
  ("panic", .panic), ("print", .print), ("println", .println), ("real", .real), ("recover", .recover)]

def predeclared? (name : Text) : Option Referent :=
  match BasicKind.typed.find? (·.name == name) with
  | some k => some (.type (.basic k))
  | none =>
    match builtins.lookup name with
    | some b => some (.builtin b)
    | none =>
      if name == text "true" then some (.const (.basic .untypedBool) (.bool true))
      else if name == text "false" then some (.const (.basic .untypedBool) (.bool false))
      else if name == text "iota" then some .iota
      else if name == text "nil" then some .nil
      else if name == text "any" then some (.type (.alias "any" [] [] .emptyInterface))
      else if name == text "error" then some (.type TypeTable.errorType)
      else if name == text "comparable" then some (.type TypeTable.comparableType)
      else none

def newestVersion : Nat := 27

/-- Which statements can leave the statements around them. -/
structure Flow where
  breaks : Bool := false
  continues : Bool := false
  fallsThrough : Bool := false

/-- A result of a function: its name, the number of its variable, and its type. -/
structure Result where
  name : Text
  id : Nat
  type : Ty

/-- What the names around an expression stand for, innermost first, and the function around it. -/
structure Env where
  scope : List (Text × Referent) := []
  /-- The names of the innermost block. -/
  block : List Text := []
  iota : Option Nat := none
  /-- The results of the function around. -/
  results : List Result := []
  flow : Flow := {}
  /-- The type parameters of the function around. -/
  typeParams : List Nat := []
  /-- Whether there is no function around. -/
  isOutside : Bool := false
  /-- The number of the file. -/
  file : Nat := 0
  /-- The version of the language that the file is written in. -/
  version : Nat := newestVersion

/-! ## Objects -/

/-- How a name of the package is declared. -/
inductive ObjectDecl where
  /-- A constant with its type, its value and its place in the declaration. -/
  | const (type value : Option Expr) (iota : Nat)
  /-- A variable: which of the names of its specification it is, how many there are, the type and the values. -/
  | var (index count : Nat) (type : Option Expr) (values : List Expr)
  | type (params : Option FieldList) (isAlias : Bool) (type : Expr)
  | func (receiver params : Option FieldList) (args : FieldList) (results : Option FieldList)

/-- How far a name of the package has been checked. -/
inductive Status where
  | waiting
  /-- It is being checked; its type is known from some point on. -/
  | busy (type : Option Ty)
  | done (d : Referent)

/-- A name that the package declares. -/
structure Object where
  name : Text
  decl : ObjectDecl
  /-- The number of its file. -/
  file : Nat := 0
  status : Status := .waiting
  /-- The environment of the body of a function. -/
  inside : Option Env := none

/-! ## The state -/

/-- A question that is answered when all types are known. -/
inductive Question where
  /-- Whether a type can be embedded in a struct. -/
  | embedded (t : Ty)
  /-- Whether a type can be that of the keys of a map. -/
  | key (t : Ty)
  /-- Whether a type can be that of a variable. -/
  | variable (t : Ty)
  /-- Whether the terms of a union go together. -/
  | union (terms : List (Bool × Ty))
  /-- Whether the methods of an interface go together. -/
  | interface (t : Ty)
  /-- Whether type arguments are in the bounds of their parameters. -/
  | arguments (params : List Nat) (args : List Ty)
  /-- Whether a type can have methods. -/
  | receiver (t : Ty)

/-- A function body to be checked later. -/
structure Body where
  env : Env
  stmts : List Stmt
  /-- The object that uses in it are counted for. -/
  user : Option Nat

/-- The state of checking a package. -/
structure State where
  /-- Whether a fault has been found. -/
  failed : Bool := false
  types : TypeTable := TypeTable.predeclared
  objects : Array Object := #[]
  /-- The names of the package. -/
  scope : List (Text × Nat) := []
  /-- The versions of the language that the files are written in. -/
  versions : List Nat := []
  /-- A number that no variable has. -/
  fresh : Nat := 0
  /-- The objects that are being checked, the innermost first. -/
  path : List Nat := []
  /-- The object that uses are counted for. -/
  user : Option Nat := none
  /-- Which object uses which. -/
  uses : List (Nat × Nat) := []
  /-- The variables of the function that is being checked. -/
  locals : List Nat := []
  /-- The variables that are used. -/
  used : List Nat := []
  /-- Whether a call or a receive operation has been seen. -/
  called : Bool := false
  /-- The calls that never return, by file and offset. -/
  panics : List (Nat × Nat) := []
  questions : List Question := []
  /-- Which types have been put in for which type parameters. -/
  instances : List (Nat × Ty) := []
  bodies : List Body := []

abbrev Check := StateM State

namespace Check

/-- Notes a fault. -/
def fail : Check Unit := modify fun s => { s with failed := true }

/-- Notes a fault; nothing is known about the expression. -/
def failed : Check Operand := do
  fail
  return .invalid

/-- Notes a fault; nothing is known about the type. -/
def failedType : Check Ty := do
  fail
  return .invalid

/-- Notes a fault unless a condition holds. -/
def ensure (b : Bool) : Check Unit := do
  if !b then fail

/-- The defined types and type parameters. -/
def types : Check TypeTable := return (← get).types

def under (t : Ty) : Check Ty := return (← types).under t

/-- A new number. -/
def fresh : Check Nat := modifyGet fun s => (s.fresh, { s with fresh := s.fresh + 1 })

/-- Asks a question to be answered later. -/
def ask (q : Question) : Check Unit := modify fun s => { s with questions := q :: s.questions }

def addType (d : DefinedType) : Check Nat :=
  modifyGet fun s => (s.types.defined.size, { s with types := { s.types with defined := s.types.defined.push d } })

def updateType (id : Nat) (f : DefinedType → DefinedType) : Check Unit :=
  modify fun s => { s with types := { s.types with defined := s.types.defined.modify id f } }

/-- Adds a type parameter: its number. -/
def addParam (p : TypeParam) : Check Nat :=
  modifyGet fun s => (s.types.params.size, { s with types := { s.types with params := s.types.params.push p } })

/-- Sets the type that bounds a type parameter. -/
def setBound (id : Nat) (bound : Ty) : Check Unit :=
  modify fun s => { s with types := { s.types with params := s.types.params.modify id fun p => { p with bound } } }

def updateObject (i : Nat) (f : Object → Object) : Check Unit :=
  modify fun s => { s with objects := s.objects.modify i f }

/-- Sets how far an object has been checked. -/
def setStatus (i : Nat) (status : Status) : Check Unit := updateObject i fun o => { o with status }

/-- Counts the use of an object. -/
def noteUse (i : Nat) : Check Unit :=
  modify fun s => match s.user with
    | some u => { s with uses := (u, i) :: s.uses }
    | none => s

/-- The environment outside all functions of a file. -/
def fileEnv (file : Nat) : Check Env :=
  return { isOutside := true, file, version := ((← get).versions[file]?).getD newestVersion }

end Check

namespace Env

/-- The environment with one more name; a name must not be declared twice in a block. -/
def declare (env : Env) (name : Text) (d : Referent) : Check Env := do
  if name == text "_" || name.isEmpty then return env
  else
    Check.ensure (!env.block.any (· == name))
    return { env with scope := (name, d) :: env.scope, block := name :: env.block }

/-- The environment of a new block. -/
def inner (env : Env) : Env := { env with block := [] }

/-- Notes a fault when the language of the file is older than a version. -/
def needs (env : Env) (version : Nat) : Check Unit := Check.ensure (version ≤ env.version)

end Env

/-! ## Rules -/

/-- What is expected of an expression. -/
structure Expected where
  /-- The type of a composite literal that has none. -/
  literal : Option Ty := none
  /-- The type that a generic function is to have. -/
  target : Option Ty := none
  /-- Whether type arguments may be missing. -/
  generic : Bool := false

/-- The rules that other rules refer to. -/
structure Rules where
  /-- An expression or a type. -/
  raw : Env → Expected → Expr → Check Operand
  /-- A type. -/
  type : Env → Expr → Check Ty
  /-- Checks a name of the package. -/
  resolve : Nat → Check Unit
  /-- The statements of a block. -/
  block : Env → List Stmt → Check Unit
  /-- The body of a function. -/
  body : Env → List Stmt → Check Unit

end DocAccessors.Typing
