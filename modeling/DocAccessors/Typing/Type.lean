import DocAccessors.Number.Basic
import DocAccessors.Text.Quoted

/-!
# Types

The types of the Go language as far as declarations and constant expressions need them.

* `BasicKind`: the predeclared types, and the kinds of constants without a type;
* `Ty`: all types. A defined type and a type parameter are references: what underlies the one and what bounds the
  other is kept in a table;
* `Ty.render` writes a type;
* `Ty.subst` puts types in for type parameters, and `Ty.mentions` tells whether there are any.
-/

namespace DocAccessors.Typing

/-- A predeclared type, or the kind of a constant without a type. -/
inductive BasicKind where
  | invalid | bool | int | int8 | int16 | int32 | int64 | uint | uint8 | uint16 | uint32 | uint64 | uintptr
  | float32 | float64 | complex64 | complex128 | string | byte | rune
  | untypedBool | untypedInt | untypedRune | untypedFloat | untypedComplex | untypedString | untypedNil
  deriving DecidableEq, Repr, Inhabited

namespace BasicKind

def name : BasicKind → Text
  | .invalid => "invalid type"
  | .bool => "bool"
  | .int => "int"
  | .int8 => "int8"
  | .int16 => "int16"
  | .int32 => "int32"
  | .int64 => "int64"
  | .uint => "uint"
  | .uint8 => "uint8"
  | .uint16 => "uint16"
  | .uint32 => "uint32"
  | .uint64 => "uint64"
  | .uintptr => "uintptr"
  | .float32 => "float32"
  | .float64 => "float64"
  | .complex64 => "complex64"
  | .complex128 => "complex128"
  | .string => "string"
  | .byte => "byte"
  | .rune => "rune"
  | .untypedBool => "untyped bool"
  | .untypedInt => "untyped int"
  | .untypedRune => "untyped rune"
  | .untypedFloat => "untyped float"
  | .untypedComplex => "untyped complex"
  | .untypedString => "untyped string"
  | .untypedNil => "untyped nil"

def typed : List BasicKind :=
  [.bool, .int, .int8, .int16, .int32, .int64, .uint, .uint8, .uint16, .uint32, .uint64, .uintptr, .float32, .float64,
    .complex64, .complex128, .string, .byte, .rune]

/-- The type that two names share. -/
def canonical : BasicKind → BasicKind
  | .byte => .uint8
  | .rune => .int32
  | k => k

/-- Whether the kind is that of a value without a type. -/
def isUntyped : BasicKind → Bool
  | .untypedBool | .untypedInt | .untypedRune | .untypedFloat | .untypedComplex | .untypedString | .untypedNil => true
  | _ => false

/-- Whether the kind is an integer type without a sign. -/
def isUnsigned (k : BasicKind) : Bool :=
  match k.canonical with
  | .uint | .uint8 | .uint16 | .uint32 | .uint64 | .uintptr => true
  | _ => false

def isInteger (k : BasicKind) : Bool :=
  k.isUnsigned || match k.canonical with
    | .int | .int8 | .int16 | .int32 | .int64 | .untypedInt | .untypedRune => true
    | _ => false

/-- Whether the kind is a kind of real numbers that are not integers. -/
def isFloat : BasicKind → Bool
  | .float32 | .float64 | .untypedFloat => true
  | _ => false

def isComplex : BasicKind → Bool
  | .complex64 | .complex128 | .untypedComplex => true
  | _ => false

/-- Whether the kind is a kind of numbers. -/
def isNumeric (k : BasicKind) : Bool := k.isInteger || k.isFloat || k.isComplex

/-- Whether the kind is a kind of texts. -/
def isString : BasicKind → Bool
  | .string | .untypedString => true
  | _ => false

/-- Whether the kind is a kind of truth values. -/
def isBoolean : BasicKind → Bool
  | .bool | .untypedBool => true
  | _ => false

def isConstant (k : BasicKind) : Bool := k.isNumeric || k.isString || k.isBoolean

/-- Whether values of the kind are ordered. -/
def isOrdered (k : BasicKind) : Bool := k.isInteger || k.isFloat || k.isString

/-- The type that a value without a type gets. -/
def default : BasicKind → BasicKind
  | .untypedBool => .bool
  | .untypedInt => .int
  | .untypedRune => .rune
  | .untypedFloat => .float64
  | .untypedComplex => .complex128
  | .untypedString => .string
  | k => k

/-- The order in which kinds of numbers without a type contain each other. -/
def rank : BasicKind → Nat
  | .untypedInt => 1
  | .untypedRune => 2
  | .untypedFloat => 3
  | .untypedComplex => 4
  | _ => 0

def range? (k : BasicKind) : Option (Int × Int) :=
  let signed (bits : Nat) : Option (Int × Int) := some (-(twoTo (bits - 1) : Int), twoTo (bits - 1) - 1)
  let unsigned (bits : Nat) : Option (Int × Int) := some (0, (twoTo bits : Int) - 1)
  match k.canonical with
  | .int | .int64 => signed 64
  | .int8 => signed 8
  | .int16 => signed 16
  | .int32 => signed 32
  | .uint | .uint64 | .uintptr => unsigned 64
  | .uint8 => unsigned 8
  | .uint16 => unsigned 16
  | .uint32 => unsigned 32
  | _ => none

end BasicKind

/-- Which way a channel goes. -/
inductive ChanDir where
  | both | send | receive
  deriving DecidableEq, Repr

/-- A type. Parameters and fields come with their names; an unnamed one has the empty name. -/
inductive Ty where
  | basic (k : BasicKind)
  /-- A defined type with its arguments. -/
  | defined (id : Nat) (name : Text) (args : List Ty)
  /-- Another name for a type: its parameters, as long as it has no arguments, and the type it stands for. -/
  | alias (name : Text) (params : List Nat) (args : List Ty) (target : Ty)
  | typeParam (id : Nat) (name : Text)
  | pointer (elem : Ty)
  | slice (elem : Ty)
  | array (length : Nat) (elem : Ty)
  | map (key elem : Ty)
  | chan (dir : ChanDir) (elem : Ty)
  /-- A function, with the type parameters that have no arguments yet. -/
  | func (typeParams : List Nat) (params results : List (Text × Ty)) (variadic : Bool)
  /-- Fields with name, whether they are embedded, and tag. -/
  | struct (fields : List ((Text × Bool × Text) × Ty))
  /-- Methods and embedded types. -/
  | interface (methods : List (Text × Ty)) (embedded : List Ty)
  /-- A union of types, each with whether it stands for all types that it underlies. -/
  | union (terms : List (Bool × Ty))
  /-- The results of a call with several of them, or with none. -/
  | tuple (parts : List (Text × Ty))

namespace Ty

instance : Inhabited Ty := ⟨.basic .invalid⟩

/-- The type of what could not be typed. -/
def invalid : Ty := .basic .invalid

def emptyInterface : Ty := .interface [] []

/-- The type behind other names. -/
def unalias : Ty → Ty
  | .alias _ _ _ t => t.unalias
  | t => t

def isInvalid (t : Ty) : Bool :=
  match t.unalias with
  | .basic .invalid => true
  | _ => false

/-- Whether a type is a type parameter. -/
def isParam (t : Ty) : Bool :=
  match t.unalias with
  | .typeParam _ _ => true
  | _ => false

def hasName (t : Ty) : Bool :=
  match t.unalias with
  | .basic _ | .defined _ _ _ | .typeParam _ _ => true
  | _ => false

/-- The type parameters of a function that have no arguments yet. -/
def openParams : Ty → List Nat
  | .func ps _ _ _ => ps
  | _ => []

def untypedKind? : Ty → Option BasicKind
  | .basic k => if k.isUntyped then some k else none
  | _ => none

/-- Whether a type is that of a value without a type. -/
def isUntyped (t : Ty) : Bool := t.untypedKind?.isSome

/-- The type that a pointer points to, or the type itself; and whether it was a pointer. -/
def deref (t : Ty) : Ty × Bool :=
  match t.unalias with
  | .pointer e => (e, true)
  | _ => (t, false)

/-! ## Writing -/

/-- Whether the results of a function are one result without a name. -/
def isBare : List (Text × Ty) → Bool
  | [(n, _)] => n.isEmpty
  | _ => false

/-- Parameters and results, given how each is written. -/
def joinSignature (params results : List Text) (bare : Bool) : Text :=
  text "(" ++ Text.join ", " params ++ text ")" ++
    if results.isEmpty then []
    else if bare then text " " ++ Text.concat results
    else text " (" ++ Text.join ", " results ++ text ")"

/-- Whether a type is that of channels to receive from. -/
def isReceiveChan : Ty → Bool
  | .chan .receive _ => true
  | _ => false

/-- A name with arguments, given how each is written. -/
def withArgs (name : Text) (args : List Text) : Text :=
  if args.isEmpty then name else name ++ text "[" ++ Text.join "," args ++ text "]"

mutual

def render : Ty → Text
  | .basic k => k.name
  | .defined _ n as => withArgs n (renderAll as)
  | .alias n _ as _ => withArgs n (renderAll as)
  | .typeParam _ n => n
  | .pointer t => text "*" ++ t.render
  | .slice t => text "[]" ++ t.render
  | .array n t => text "[" ++ Text.ofNat n ++ text "]" ++ t.render
  | .map k t => text "map[" ++ k.render ++ text "]" ++ t.render
  | .chan dir t =>
    match dir with
    | .send => text "chan<- " ++ t.render
    | .receive => text "<-chan " ++ t.render
    | .both => if t.isReceiveChan then text "chan (" ++ t.render ++ text ")" else text "chan " ++ t.render
  | .func _ ps rs v => text "func" ++ joinSignature (renderParams v ps) (renderParams false rs) (isBare rs)
  | .struct fs => text "struct\x7b" ++ Text.join "; " (renderFields fs) ++ text "\x7d"
  | .interface ms es =>
    text "interface\x7b" ++ Text.join "; " (renderMethods ms ++ renderAll es) ++ text "\x7d"
  | .union ts => Text.join " | " (renderTerms ts)
  | .tuple ts => text "(" ++ Text.join ", " (renderParams false ts) ++ text ")"

def renderAll : List Ty → List Text
  | [] => []
  | t :: ts => t.render :: renderAll ts

/-- The parameters of a list; the last one may stand for any number of values. -/
def renderParams (variadic : Bool) : List (Text × Ty) → List Text
  | [] => []
  | (n, t) :: ps =>
    let type := t.render
    ((if n.isEmpty then [] else n ++ text " ") ++
      (if variadic && ps.isEmpty then text "..." ++ Text.dropStart type "[]" else type)) :: renderParams variadic ps

def renderFields : List ((Text × Bool × Text) × Ty) → List Text
  | [] => []
  | ((n, embedded, tag), t) :: fs =>
    ((if embedded then [] else n ++ text " ") ++ t.render ++
      (if tag.isEmpty then [] else text " " ++ Text.quote tag)) :: renderFields fs

def renderMethods : List (Text × Ty) → List Text
  | [] => []
  | (n, t) :: ms =>
    (n ++ Text.dropStart t.render "func") :: renderMethods ms

def renderTerms : List (Bool × Ty) → List Text
  | [] => []
  | (tilde, t) :: ts => ((if tilde then text "~" else []) ++ t.render) :: renderTerms ts

end

/-! ## Substitution -/

mutual

/-- The type with types put in for type parameters. -/
def subst (m : List (Nat × Ty)) : Ty → Ty
  | .typeParam i n => (m.lookup i).getD (.typeParam i n)
  | .basic k => .basic k
  | .defined i n as => .defined i n (substAll m as)
  | .alias n ps as t => .alias n ps (substAll m as) (t.subst m)
  | .pointer t => .pointer (t.subst m)
  | .slice t => .slice (t.subst m)
  | .array n t => .array n (t.subst m)
  | .map k t => .map (k.subst m) (t.subst m)
  | .chan d t => .chan d (t.subst m)
  | .func tps ps rs v => .func tps (substParams m ps) (substParams m rs) v
  | .struct fs => .struct (substFields m fs)
  | .interface ms es => .interface (substParams m ms) (substAll m es)
  | .union ts => .union (substTerms m ts)
  | .tuple ts => .tuple (substParams m ts)

def substAll (m : List (Nat × Ty)) : List Ty → List Ty
  | [] => []
  | t :: ts => t.subst m :: substAll m ts

def substParams (m : List (Nat × Ty)) : List (Text × Ty) → List (Text × Ty)
  | [] => []
  | (n, t) :: ts => (n, t.subst m) :: substParams m ts

def substFields (m : List (Nat × Ty)) :
    List ((Text × Bool × Text) × Ty) → List ((Text × Bool × Text) × Ty)
  | [] => []
  | (n, t) :: ts => (n, t.subst m) :: substFields m ts

def substTerms (m : List (Nat × Ty)) : List (Bool × Ty) → List (Bool × Ty)
  | [] => []
  | (b, t) :: ts => (b, t.subst m) :: substTerms m ts

end

/-! ## Names in a type -/

mutual

/-- The type parameters and defined types that are named in a type, with the number that they have. -/
def names : Ty → List (Nat × Bool)
  | .typeParam i _ => [(i, true)]
  | .basic _ => []
  | .defined i _ as => (i, false) :: namesAll as
  | .alias _ _ _ t => t.names
  | .pointer t => t.names
  | .slice t => t.names
  | .array _ t => t.names
  | .map k t => k.names ++ t.names
  | .chan _ t => t.names
  | .func _ ps rs _ => namesParams ps ++ namesParams rs
  | .struct fs => namesFields fs
  | .interface ms es => namesParams ms ++ namesAll es
  | .union ts => namesTerms ts
  | .tuple ts => namesParams ts

def namesAll : List Ty → List (Nat × Bool)
  | [] => []
  | t :: ts => t.names ++ namesAll ts

def namesParams : List (Text × Ty) → List (Nat × Bool)
  | [] => []
  | (_, t) :: ts => t.names ++ namesParams ts

def namesFields : List ((Text × Bool × Text) × Ty) → List (Nat × Bool)
  | [] => []
  | (_, t) :: ts => t.names ++ namesFields ts

def namesTerms : List (Bool × Ty) → List (Nat × Bool)
  | [] => []
  | (_, t) :: ts => t.names ++ namesTerms ts

end

/-- Whether one of some type parameters is named in a type. -/
def mentions (t : Ty) (params : List Nat) : Bool := t.names.any fun n => n.2 && params.contains n.1

end Ty

end DocAccessors.Typing
