import DocAccessors.Constant.Literal
import DocAccessors.Number.Basic
import DocAccessors.Text.Quoted

/-!
# Flags

Arguments that start with a dash set flags; the others are kept in order, and after `--` all are kept.

* `Flag`: a flag by its name, the letter that stands for it, and what it takes;
* `FlagFault`: why arguments cannot be read;
* `Flag.readAll` reads arguments: what was set, and what is left.
-/

namespace DocAccessors

/-- What a flag takes. A switch can stand without a value. -/
inductive FlagKind where
  | text | int | switch
  deriving DecidableEq, Repr

/-- A flag. -/
structure Flag where
  name : Text
  letter : Option UInt8 := none
  kind : FlagKind := .text
  deriving DecidableEq, Repr

/-- The value of a flag. -/
inductive FlagValue where
  | text (t : Text)
  | int (n : Int)
  | switch (b : Bool)
  deriving DecidableEq, Repr

/-- Why a value is refused: it is not written as one, or it is too large. -/
inductive ValueFault where
  | malformed | outOfRange
  deriving DecidableEq, Repr

/-- Why arguments cannot be read. -/
inductive FlagFault where
  | malformed (argument : Text)
  | unknown (name : Text)
  | unknownLetter (letter : UInt8) (letters : Text)
  | needsValue (argument : Text)
  | letterNeedsValue (letter : UInt8) (letters : Text)
  | refused (flag : Flag) (value : Text) (fault : ValueFault)
  deriving DecidableEq, Repr

/-! ## Values -/

namespace FlagValue

/-- Whether the marks in a number stand between digits, or between a mark of its base and a digit. -/
def marksDivide (afterDigit : Bool) : Text → Bool
  | [] => true
  | 95 :: r => afterDigit && (match r with
    | [] => false
    | b :: _ => b != 95 && marksDivide false r)
  | _ :: r => marksDivide true r

/-- Reads a natural number in the base that its first bytes ask for. -/
def natural? (t : Text) : Option Int :=
  let body := match Constant.baseMark? t with
    | some (_, r) => marksDivide true r
    | none => marksDivide false t
  if t.isEmpty || !body then none else Constant.ofIntLiteral? t

/-- Reads an integer of 64 bits. -/
def integer (t : Text) : Except ValueFault Int :=
  let (negative, digits) := match t with
    | 45 :: r => (true, r)
    | 43 :: r => (false, r)
    | _ => (false, t)
  match natural? digits with
  | none => .error .malformed
  | some n =>
    let n := if negative then -n else n
    if n < -(twoTo 63 : Int) || twoTo 63 ≤ n then .error .outOfRange else .ok n

/-- The words for a switch that is on. -/
def onWords : List Text := ["1", "t", "T", "TRUE", "true", "True"]

/-- The words for a switch that is off. -/
def offWords : List Text := ["0", "f", "F", "FALSE", "false", "False"]

def read (kind : FlagKind) (t : Text) : Except ValueFault FlagValue :=
  match kind with
  | .text => .ok (.text t)
  | .int => (integer t).map .int
  | .switch =>
    if onWords.contains t then .ok (.switch true)
    else if offWords.contains t then .ok (.switch false)
    else .error .malformed

end FlagValue

/-! ## Faults in words -/

/-- A flag in a message: with its letter, if it has one. -/
def Flag.display (f : Flag) : Text :=
  (match f.letter with
    | some l => text "-" ++ [l] ++ text ", "
    | none => []) ++ text "--" ++ f.name

/-- What reads the values of a kind, as a message names it. -/
def FlagKind.reader : FlagKind → Text
  | .switch => "strconv.ParseBool"
  | _ => "strconv.ParseInt"

/-- A fault of a value in words. -/
def ValueFault.message : ValueFault → Text
  | .malformed => "invalid syntax"
  | .outOfRange => "value out of range"

def quoteLetter (l : UInt8) : Text := Text.quoteChar (Char.ofNat l.toNat)

def FlagFault.message : FlagFault → Text
  | .malformed a => text "bad flag syntax: " ++ a
  | .unknown n => text "unknown flag: --" ++ n
  | .unknownLetter l ls => text "unknown shorthand flag: " ++ quoteLetter l ++ text " in -" ++ ls
  | .needsValue a => text "flag needs an argument: " ++ a
  | .letterNeedsValue l ls => text "flag needs an argument: " ++ quoteLetter l ++ text " in -" ++ ls
  | .refused f v fault =>
    text "invalid argument " ++ Text.quote v ++ text " for " ++ Text.quote f.display ++ text " flag: " ++
      f.kind.reader ++ text ": parsing " ++ Text.quote v ++ text ": " ++ fault.message

/-! ## Arguments -/

/-- What arguments come to: the flags set, in order, and the arguments left. -/
structure Arguments where
  set : List (Text × FlagValue) := []
  rest : List Text := []
  deriving DecidableEq, Repr

namespace Arguments

/-- The value that a flag was set to last. -/
def get? (a : Arguments) (name : Text) : Option FlagValue := a.set.reverse.lookup name

/-- The text that a flag was set to. -/
def text? (a : Arguments) (name : Text) : Option Text :=
  match a.get? name with
  | some (.text t) => some t
  | _ => none

/-- The number that a flag was set to. -/
def int? (a : Arguments) (name : Text) : Option Int :=
  match a.get? name with
  | some (.int n) => some n
  | _ => none

def isOn (a : Arguments) (name : Text) : Bool := a.get? name == some (.switch true)

/-- The arguments after a flag was set. -/
def setFlag (a : Arguments) (f : Flag) (value : Text) : Except FlagFault Arguments :=
  match FlagValue.read f.kind value with
  | .ok v => .ok { a with set := a.set ++ [(f.name, v)] }
  | .error fault => .error (.refused f value fault)

end Arguments

namespace Flag

/-- The value of a switch that stands alone. -/
def switchedOn : Text := "true"

/-- Reads a flag by its name: what is set, and the arguments after it. -/
def readLong (flags : List Flag) (a : Arguments) (argument : Text) (args : List Text) :
    Except FlagFault (Arguments × List Text) := do
  let body := argument.drop 2
  if body.isEmpty || body.head? == some 45 || body.head? == some 61 then throw (.malformed argument)
  let name := body.takeWhile (· != 61)
  let some f := flags.find? fun f => f.name == name | throw (.unknown name)
  if name.length < body.length then return (← a.setFlag f (body.drop (name.length + 1)), args)
  else if f.kind == .switch then return (← a.setFlag f switchedOn, args)
  else match args with
    | v :: args => return (← a.setFlag f v, args)
    | [] => throw (.needsValue argument)

/-- Reads flags by their letters: what is set, and the arguments after them. A flag that takes a value takes the
rest of the letters, or the next argument. -/
def readLetters (flags : List Flag) (a : Arguments) (args : List Text) :
    Text → Except FlagFault (Arguments × List Text)
  | [] => .ok (a, args)
  | l :: r => do
    let some f := flags.find? fun f => f.letter == some l | throw (.unknownLetter l (l :: r))
    if r.head? == some 61 && 1 < r.length then return (← a.setFlag f (r.drop 1), args)
    else if f.kind == .switch then readLetters flags (← a.setFlag f switchedOn) args r
    else if !r.isEmpty then return (← a.setFlag f r, args)
    else match args with
      | v :: args => return (← a.setFlag f v, args)
      | [] => throw (.letterNeedsValue l [l])

def isFlag (argument : Text) : Bool := argument.head? == some 45 && 1 < argument.length

def readWithin (flags : List Flag) : Nat → Arguments → List Text → Except FlagFault Arguments
  | 0, a, _ => .ok a
  | _, a, [] => .ok a
  | n + 1, a, argument :: args =>
    if !isFlag argument then readWithin flags n { a with rest := a.rest ++ [argument] } args
    else if argument == text "--" then .ok { a with rest := a.rest ++ args }
    else do
      let (a, args) ← if Text.startsWith argument "--" then readLong flags a argument args
        else readLetters flags a args (argument.drop 1)
      readWithin flags n a args

/-- Reads arguments: what was set, and what is left. -/
def readAll (flags : List Flag) (args : List Text) : Except FlagFault Arguments :=
  readWithin flags args.length {} args

end Flag

end DocAccessors
