import DocAccessors.Data.Toml.Lexeme
import DocAccessors.Data.Toml.Table

/-!
# Reading TOML

`read?` reads a whole text: the value of its tables, and all keys that are written in it, in order.

A table on one line opens a table like a header does, so keys can be added to it later; the tables in a list on one line
are kept apart from it.
-/

namespace DocAccessors.Toml

/-! ## Values -/

/-- What is known while a text is read: the tables, and what follows. -/
structure Reader where
  tables : Tables := {}
  rest : Text

/-- Reads parts of a text. -/
abbrev Reading := StateT Reader Option

namespace Reading

def lexeme (read? : Text → Option (α × Text)) : Reading α := fun r => do
  let (a, rest) ← read? r.rest
  return (a, { r with rest })

def blanks : Reading Unit := modify fun r => { r with rest := skipBlanks r.rest }

/-- Passes blanks, comments and line breaks. -/
def gap : Reading Unit := modify fun r => { r with rest := skipLines (r.rest.length + 1) r.rest }

/-- The next byte. -/
def peek : Reading (Option UInt8) := return (← get).rest.head?

/-- Passes a byte, if it is the next one, and tells whether it was. -/
def accept (b : UInt8) : Reading Bool := do
  let r ← get
  if r.rest.head? == some b then set { r with rest := r.rest.drop 1 }; return true
  else return false

/-- Passes a byte, which must be the next one. -/
def expect (b : UInt8) : Reading Unit := do
  if !(← accept b) then failure

def change (f : Tables → Option Tables) : Reading Unit := fun r => do
  return ((), { r with tables := ← f r.tables })

def key : Reading (List Text) := lexeme fun t => key? (t.length + 1) t

/-- A record with the value of a key that may have several parts. -/
def putDeep (d : Datum) : List Text → List (Text × Datum) → List (Text × Datum)
  | [], fs => fs
  | [k], fs => fs.filter (·.1 != k) ++ [(k, d)]
  | k :: ks, fs =>
    let inner := match fs.lookup k with
      | some (.record inner) => inner
      | _ => []
    fs.filter (·.1 != k) ++ [(k, .record (putDeep d ks inner))]

mutual

/-- The value of a key of the open table; in a list, a table is added to the list of tables with that name. -/
def value : Nat → Text → Bool → Reading Datum
  | 0, _, _ => failure
  | fuel + 1, name, inList => do
    match ← peek with
    | none => failure
    | some b =>
      if b == 34 || b == 39 then return .text (← lexeme text?)
      else if ← accept 91 then
        change fun t => some (t.mark (t.placeOf name) true)
        return .list (← items fuel name)
      else if ← accept 123 then
        let outer := (← get).tables.context
        change fun t =>
          let path := t.context ++ [name]
          (t.imply path).enter? path inList
        blanks
        let fs ← if ← accept 125 then pure [] else fields fuel []
        change fun t => some { t with context := outer }
        return .record fs
      else
        let w ← lexeme fun t => some (plainWord t)
        match plain? w with
        | some d => return d
        | none => failure

def items : Nat → Text → Reading (List Datum)
  | 0, _ => failure
  | fuel + 1, name => do
    gap
    if ← accept 93 then return []
    else
      let d ← value fuel name true
      gap
      if ← accept 44 then return d :: (← items fuel name)
      else
        expect 93
        return [d]

/-- The fields of a table on one line, after the opening bracket. -/
def fields : Nat → List (Text × Datum) → Reading (List (Text × Datum))
  | 0, _ => failure
  | fuel + 1, fs => do
    let outer := (← get).tables.context
    let (k, d) ← pair fuel
    change fun t => some { t with context := outer }
    let fs := putDeep d k fs
    blanks
    if ← accept 44 then fields fuel fs
    else
      expect 125
      return fs

/-- A key of the open table with its value. -/
def pair : Nat → Reading (List Text × Datum)
  | 0 => failure
  | fuel + 1 => do
    let k ← key
    let name := k.getLast?.getD []
    expect 61
    change fun t => t.enterParts? k.dropLast
    change fun t => some (t.note (t.context ++ [name]))
    blanks
    let d ← value fuel name false
    let isList := match d with
      | .list _ => true
      | _ => false
    change fun t => t.set? name (match d with
      | .record fs => .table (fs.map fun (k, d) => (k, .value d))
      | d => .value d)
    change fun t => some (t.mark (t.placeOf name) isList)
    return (k, d)

end

/-! ## Lines -/

/-- A header after its first bracket. -/
def header : Reading Unit := do
  let isList ← accept 91
  let k ← key
  expect 93
  if isList then expect 93
  change fun t => t.enter? k isList
  change fun t => some ((t.mark k false).note k)

def lines : Nat → Reading Unit
  | 0 => failure
  | fuel + 1 => do
    gap
    match ← peek with
    | none => return
    | some b =>
      if b == 91 then
        expect 91
        header
      else
        let outer := (← get).tables.context
        let _ ← pair fuel
        change fun t => some { t with context := outer }
      lexeme fun t => (endOfLine? t).map fun r => ((), r)
      lines fuel

end Reading

/-- The value of a text, and all keys in order. -/
def read? (t : Text) : Option (Datum × List (List Text)) := do
  let t := withoutMark t
  if !Text.isValid t || !isReadable t then none
  else
    let (_, r) ← (Reading.lines (4 * t.length + 10)).run { rest := t }
    return (.record (fieldsToData r.tables.root), r.tables.keys.reverse)

end DocAccessors.Toml
