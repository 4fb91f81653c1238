import DocAccessors.Configuration.Basic
import DocAccessors.Data.Json
import DocAccessors.Data.Toml.Read
import DocAccessors.Number.Basic

/-!
# Layers in JSON and TOML

A layer is a record with a field for each key; names of fields may differ in letter case. Keys that are not known are
refused.

* `Progress` is a value with the keys that were known and the first fault;
* `decodeJson` and `decodeToml`: the layer that a text stands for.
-/

namespace DocAccessors

namespace DataLayer

/-- A character in a form that is the same for both letter cases. -/
def foldChar (c : Char) : Char :=
  if c == '\u017f' then 's' else if c == '\u212a' then 'k' else c.toLower

/-- Whether two names are the same but for letter case. -/
def sameName (a b : Text) : Bool := (Text.chars a).map foldChar == (Text.chars b).map foldChar

/-- The field that a key names: itself, or one that differs in letter case. -/
def fieldName? (fields : List Text) (key : Text) : Option Text :=
  if fields.contains key then some key else fields.find? fun f => sameName f key

/-- A field that can be read from data; nothing leaves or takes away its value. -/
inductive Reading (α : Type) where
  | none
  | some (a : α)
  | wrong

def ofText : Datum → Reading Text
  | .null => .none
  | .text t => .some t
  | _ => .wrong

def ofInt : Datum → Reading Int
  | .null => .none
  | .int n => if -(twoTo 63 : Int) ≤ n && n < twoTo 63 then .some n else .wrong
  | _ => .wrong

/-- A truth value. -/
def ofBool : Datum → Reading Bool
  | .null => .none
  | .bool b => .some b
  | _ => .wrong

/-- The texts of a list that is put over another one: nothing leaves the text at its place, or an empty one. -/
def textsOver : List Text → List Datum → Option (List Text)
  | _, [] => some []
  | below, .text t :: xs => (textsOver (below.drop 1) xs).map (t :: ·)
  | below, .null :: xs => (textsOver (below.drop 1) xs).map (below.headD [] :: ·)
  | _, _ :: _ => none

/-- A list of texts over the one at its place before. -/
def ofTexts (below : List Text) : Datum → Reading (List Text)
  | .null => .none
  | .list xs =>
    match textsOver below xs with
    | some ts => .some ts
    | none => .wrong
  | _ => .wrong

/-- What stays below the next list: a list covers its own places only, and an empty one or nothing clears all. -/
def uncovered (below : List Text) : Reading (List Text) → List Text
  | .some ts => if ts.isEmpty then [] else ts ++ below.drop ts.length
  | _ => []

/-- The names of the fields of the defaults. -/
def defaultNames : List Text := ["trim", "rename_all", "default"]

/-- The names of the fields of a configuration. -/
def fieldNames : List Text :=
  ["packages", "output", "prefix", "log_level", "max_diagnostics", "jobs", "color", "defaults"]

/-- A value with the keys that were known and the first fault. -/
structure Progress (α : Type) where
  value : α
  known : List (List Text) := []
  fault : Option DecodeFault := none
  /-- The list of texts that was read last, with those of longer lists before it after its end. -/
  below : List Text := []

/-- Notes a fault, unless there is one. -/
def Progress.fail (p : Progress α) (f : DecodeFault) : Progress α := { p with fault := p.fault.or (some f) }

/-- Sets a field from what was read. -/
def Progress.set (p : Progress α) (r : Reading β) (f : Option β → α → α) : Progress α :=
  match r with
  | .none => { p with value := f none p.value }
  | .some b => { p with value := f (some b) p.value }
  | .wrong => p.fail .malformed

/-- What is said about a key that is not known. -/
def unknownField (k : Text) : DecodeFault := .unknownKeys (text "json: unknown field " ++ Text.quote k)

def setDefaults : List (Text × Datum) → Progress Defaults → Progress Defaults
  | [], p => p
  | (k, v) :: fs, p =>
    let q := match fieldName? defaultNames k with
      | none => p.fail (unknownField k)
      | some f =>
        let p := { p with known := [k] :: p.known }
        if f == text "trim" then p.set (ofBool v) fun b d => { d with trim := b }
        else if f == text "rename_all" then p.set (ofText v) fun t d => { d with renameAll := t }
        else p.set (ofText v) fun t d => { d with default := t }
    setDefaults fs q

/-- Sets the defaults; those of a key before are kept where they are not set again. -/
def setDefaultsField (k : Text) (v : Datum) (p : Progress Configuration) : Progress Configuration :=
  match v with
  | .null => { p with value := { p.value with defaults := none } }
  | .record fs =>
    let q := setDefaults fs { value := p.value.defaults.getD {} }
    { p with
      value := { p.value with defaults := some q.value }, known := q.known.map (k :: ·) ++ p.known
      fault := p.fault.or q.fault }
  | _ => p.fail .malformed

def setFields : List (Text × Datum) → Progress Configuration → Progress Configuration
  | [], p => p
  | (k, v) :: fs, p =>
    let q := match fieldName? fieldNames k with
      | none => p.fail (unknownField k)
      | some f =>
        let p := { p with known := [k] :: p.known }
        if f == text "packages" then
          let r := ofTexts p.below v
          { p with below := uncovered p.below r }.set r fun ts c => { c with packages := ts.getD [] }
        else if f == text "output" then p.set (ofText v) fun t c => { c with output := t }
        else if f == text "prefix" then p.set (ofText v) fun t c => { c with space := t }
        else if f == text "log_level" then p.set (ofText v) fun t c => { c with logLevel := t }
        else if f == text "max_diagnostics" then p.set (ofInt v) fun n c => { c with maxDiagnostics := n }
        else if f == text "jobs" then p.set (ofInt v) fun n c => { c with jobs := n }
        else if f == text "color" then p.set (ofText v) fun t c => { c with color := t }
        else setDefaultsField k v p
    setFields fs q

/-- The layer that a text in JSON stands for: the first fault counts. -/
def decodeJson (t : Text) : Except DecodeFault Configuration :=
  match Json.read? t with
  | some .null => .ok {}
  | some (.record fs) =>
    let p := setFields fs { value := {} }
    match p.fault with
    | some f => .error f
    | none => .ok p.value
  | _ => .error .malformed

def isAboutKeys : DecodeFault → Bool
  | .unknownKeys _ => true
  | _ => false

/-- Whether reading fields one by one finds a value of the wrong kind. -/
def hasWrongKind (fs : List (Text × Datum)) : Bool :=
  fs.any fun f => match f.2 with
    | .record inner =>
      (setFields [f] { value := {} }).fault.any (!isAboutKeys ·) ||
        (fieldName? fieldNames f.1 == some (text "defaults") &&
          inner.any fun g => (setDefaults [g] { value := {} }).fault.any (!isAboutKeys ·))
    | _ => (setFields [f] { value := {} }).fault.any (!isAboutKeys ·)

/-- The layer that a text in TOML stands for: a value of the wrong kind comes before unknown keys, which are all
named, in order. -/
def decodeToml (t : Text) : Except DecodeFault Configuration :=
  match Toml.read? t with
  | some (.record fs, keys) =>
    if hasWrongKind fs then .error .malformed
    else
      let p := setFields fs { value := {} }
      let known := p.known.map Toml.renderKey
      match (keys.map Toml.renderKey).filter fun k => !known.contains k with
      | [] => .ok p.value
      | unknown => .error (.unknownKeys (text "unknown configuration keys: " ++ Text.join ", " (Text.sort unknown)))
  | _ => .error .malformed

end DataLayer

end DocAccessors
