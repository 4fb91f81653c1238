import DocAccessors.Data.Basic

/-!
# The tables of TOML

Tables are opened by headers and by keys with several parts, in any order, so what a key stands for is kept together
with how it came to be.

* `Item` is what a key stands for while a text is read;
* `Tables` are all tables of a text: a key is *implied* when only keys below it have opened it, and *listed* when its
  latest value is a list in brackets;
* `Tables.set?` gives a key its value: an implied key is taken over as it is, and a list can be replaced;
* `Tables.enter?` opens the table or the list of tables with a name.
-/

namespace DocAccessors.Toml

/-! ## Items -/

/-- What a key stands for while a text is read. -/
inductive Item where
  | value (d : Datum)
  | table (fields : List (Text × Item))
  /-- A list of tables, the current one first. -/
  | tables (items : List (List (Text × Item)))

/-- The fields with one of them changed or added. -/
def put (k : Text) (i : Item) : List (Text × Item) → List (Text × Item)
  | [] => [(k, i)]
  | (l, j) :: fs => if k == l then (k, i) :: fs else (l, j) :: put k i fs

/-- The fields of the table with a name; of a list of tables, the current one counts. -/
def fieldsAt? : List Text → List (Text × Item) → Option (List (Text × Item))
  | [], fs => some fs
  | k :: ks, fs =>
    match fs.lookup k with
    | some (.table inner) => fieldsAt? ks inner
    | some (.tables (inner :: _)) => fieldsAt? ks inner
    | _ => none

/-- Replaces the fields of the table with a name. -/
def replaceAt (new : List (Text × Item)) : List Text → List (Text × Item) → List (Text × Item)
  | [], _ => new
  | k :: ks, fs =>
    match fs.lookup k with
    | some (.table inner) => put k (.table (replaceAt new ks inner)) fs
    | some (.tables (inner :: rest)) => put k (.tables (replaceAt new ks inner :: rest)) fs
    | _ => fs

mutual

def Item.toDatum : Item → Datum
  | .value d => d
  | .table fs => .record (fieldsToData fs)
  | .tables items => .list (tablesToData items).reverse

def fieldsToData : List (Text × Item) → List (Text × Datum)
  | [] => []
  | (k, i) :: fs => (k, i.toDatum) :: fieldsToData fs

def tablesToData : List (List (Text × Item)) → List Datum
  | [] => []
  | fs :: rest => .record (fieldsToData fs) :: tablesToData rest

end

/-! ## Tables -/

/-- The tables of a text. -/
structure Tables where
  root : List (Text × Item) := []
  /-- The table that is open. -/
  context : List Text := []
  implied : List (List Text) := []
  listed : List (List Text) := []
  /-- The keys with values, the latest first. -/
  keys : List (List Text) := []

namespace Tables

/-- Notes that a key is implied. -/
def imply (path : List Text) (t : Tables) : Tables := { t with implied := path :: t.implied }

/-- Notes that a key is no longer implied. -/
def assert (path : List Text) (t : Tables) : Tables := { t with implied := t.implied.filter (· != path) }

/-- Notes a key, which may stand for the same as one before. -/
def note (path : List Text) (t : Tables) : Tables := { t with keys := path :: t.keys }

/-- The place of a key in the open table that what it stands for is noted at: without a name, the table itself. -/
def placeOf (k : Text) (t : Tables) : List Text :=
  if !k.isEmpty then t.context ++ [k] else if t.context.isEmpty then [[]] else t.context

/-- Notes whether a place has a list in brackets. -/
def mark (place : List Text) (isList : Bool) (t : Tables) : Tables :=
  { t with listed := (if isList then [place] else []) ++ t.listed.filter (· != place) }

/-- Gives a key of the open table its value. -/
def set? (k : Text) (i : Item) (t : Tables) : Option Tables := do
  let path := t.context ++ [k]
  let fs ← fieldsAt? t.context t.root
  if (fs.lookup k).isNone then return { t with root := replaceAt (put k i fs) t.context t.root }
  else if t.listed.contains path then return { t.assert path with root := replaceAt (put k i fs) t.context t.root }
  else if t.implied.contains path then return t.assert path
  else none

/-- Goes down to the table with a name, opening tables on the way. -/
def descend? : List Text → Tables → Option Tables
  | [], t => some t
  | k :: ks, t => do
    let path := t.context ++ [k]
    let fs ← fieldsAt? t.context t.root
    match fs.lookup k with
    | none => descend? ks { t.imply path with root := replaceAt (put k (.table []) fs) t.context t.root, context := path }
    | some (.value _) => none
    | some _ => descend? ks { t with context := path }

/-- Opens the table with a name, or adds one to the list of tables with that name. -/
def enter? (path : List Text) (isList : Bool) (t : Tables) : Option Tables := do
  let last := path.getLast?.getD []
  let t ← descend? path.dropLast { t with context := [] }
  let t ←
    if isList then do
      let fs ← fieldsAt? t.context t.root
      match fs.lookup last with
      | none => some { t with root := replaceAt (put last (.tables [[]]) fs) t.context t.root }
      | some (.tables items) => some { t with root := replaceAt (put last (.tables ([] :: items)) fs) t.context t.root }
      | some _ => none
    else t.set? last (.table [])
  return { t with context := path }

/-- Opens the table with a name because of a key below it. -/
def enterImplied? (path : List Text) (t : Tables) : Option Tables := (t.imply path).enter? path false

/-- Opens the tables for all parts of a key but the last. -/
def enterParts? : List Text → Tables → Option Tables
  | [], t => some t
  | k :: ks, t => do enterParts? ks (← t.enterImplied? (t.context ++ [k]))

end Tables

end DocAccessors.Toml
