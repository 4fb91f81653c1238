import DocAccessors.Configuration.Basic
import DocAccessors.Data.Yaml.Node
import DocAccessors.Text.Base64
import DocAccessors.Text.Quoted

/-!
# Layers in YAML

A layer is a mapping with a key for each field. Values of the wrong kind and keys that are not known are all reported,
while a tag that does not fit its scalar ends the reading.

* `Decoding` collects the reports;
* `leaf` reads a scalar for a field, `texts` a list;
* `record` reads a mapping with known keys; the key `<<` takes in the pairs of other mappings, where the mapping does
  not have them itself;
* `decode`: the layer that a text stands for.
-/

namespace DocAccessors.YamlLayer

open Yaml (Node Kind Document)

/-- Reads values, with the faults found so far; there is no result when the text is malformed. -/
abbrev Decoding := StateT (List Text) Option

def report (fault : Text) : Decoding Unit := modify (· ++ [fault])

/-- What is said about a line. -/
def onLine (line : Nat) (what : Text) : Text := text "line " ++ Text.ofNat line ++ text ": " ++ what

/-! ## References -/

/-- A document, and the references that are being followed. -/
structure Context where
  document : Document
  followed : List Nat := []

/-- The node that a reference stands for. A node must not refer to itself. -/
def Context.follow (ctx : Context) (n : Node) : Decoding (Node × Context) :=
  match n with
  | .alias _ number _ target =>
    if ctx.followed.contains number then failure
    else match ctx.document.named.lookup target with
      | some m => return (m, { ctx with followed := number :: ctx.followed })
      | none => failure
  | n => return (n, ctx)

/-! ## Scalars -/

/-- The tags that say what a scalar must look like. -/
def lookTags : List Text := ["!!bool", "!!int", "!!float", "!!null", "!!timestamp"]

/-- What a scalar with a tag stands for, and its text. An integer can be tagged as a number. -/
def resolveTagged (tag value : Text) : Decoding (Kind × Text) := do
  if tag == text "!!binary" then
    match Text.ofBase64? value with
    | some bytes => return (.text, bytes)
    | none => failure
  else if lookTags.contains tag then
    let kind := Yaml.resolve value
    if kind.tag == tag then return (kind, value)
    else match tag == text "!!float", kind with
      | true, .int n =>
        if n < twoTo 63 then return (.float (.finite ((BinaryFormat.double.round? n).getD 0)), value) else failure
      | _, _ => failure
  else return (.text, value)

/-- How much of a value is shown in full. -/
def shownLength : Nat := 10

/-- What is said about a node of the wrong kind. -/
def wrongKind (n : Node) (type : Text) : Text :=
  let v := n.value
  let shown := if shownLength < v.length then v.take 7 ++ text "..." else v
  let value := if n.tag == Yaml.seqTag || n.tag == Yaml.mapTag then v else text " \x60" ++ shown ++ text "\x60"
  onLine n.line (text "cannot unmarshal " ++ n.tag ++ value ++ text " into " ++ type)

/-- What is said about keys that stand twice. -/
def repeatedKeys : List (Node × Node) → List Text
  | [] => []
  | (k, _) :: rest =>
    (rest.filterMap fun (l, _) =>
      if k.isLike l && k.value == l.value then
        some (onLine l.line (text "mapping key " ++ Text.quote l.value ++ text " already defined at line " ++
          Text.ofNat k.line))
      else none) ++ repeatedKeys rest

/-- Reports keys that stand twice, and tells whether there are none. -/
def hasDistinctKeys (pairs : List (Node × Node)) : Decoding Bool := do
  let faults := repeatedKeys pairs
  faults.forM report
  return faults.isEmpty

/-- Reports a node of the wrong kind; in a mapping, keys that stand twice come first. -/
def reject (n : Node) (type : Text) : Decoding Unit := do
  match n with
  | .map _ _ pairs => if ← hasDistinctKeys pairs then report (wrongKind n type)
  | n => report (wrongKind n type)

/-- How the type of an optional field is called: a collection that is tagged as nothing is not taken apart. -/
def optionalType (n : Node) (type : Text) : Text := if n.tag == Kind.null.tag then text "*" ++ type else type

/-- A scalar of some kind; nothing stands for no value. -/
def leaf (type : Text) (isOptional : Bool) (read : Kind → Text → Option α) (ctx : Context) (n : Node) :
    Decoding (Option α) := do
  let (n, _) ← ctx.follow n
  match n with
  | .scalar _ tag value =>
    let (kind, value) ← resolveTagged tag value
    if kind == .null then return none
    else match read kind value with
      | some a => return some a
      | none => report (wrongKind n type); return none
  | n =>
    reject n (if isOptional then optionalType n type else type)
    return none

def ofText (type : Text) (isOptional : Bool) : Context → Node → Decoding (Option Text) :=
  leaf type isOptional fun _ v => some v

def leastInteger : Int := -(twoTo 63 : Int)

/-- The integer for a number: it loses its fraction, and a number out of the range comes to the least integer. -/
def ofFloat? : Yaml.FloatValue → Option Int
  | .finite q =>
    let n := q.num.tdiv q.den
    if (twoTo 63 : Rat) < q then none else if leastInteger ≤ n && n < twoTo 63 then some n else some leastInteger
  | .infinite isNegative => if isNegative then some leastInteger else none
  | .notANumber => none

def ofInt : Context → Node → Decoding (Option Int) :=
  leaf "int" true fun k _ => match k with
    | .int n => if n < twoTo 63 then some n else none
    | .float v => ofFloat? v
    | _ => none

/-- A truth value, also in the words of older versions. -/
def ofBool : Context → Node → Decoding (Option Bool) :=
  leaf "bool" true fun k v => match k with
    | .bool b => some b
    | .text =>
      if Yaml.oldTrueWords.contains v then some true
      else if Yaml.oldFalseWords.contains v then some false
      else none
    | _ => none

/-! ## Collections -/

/-- A list of texts; items that hold nothing are left out. -/
def texts (ctx : Context) (n : Node) : Decoding (List Text) := do
  let (n, ctx) ← ctx.follow n
  match n with
  | .seq _ _ items => return (← items.mapM (ofText "string" false ctx)).filterMap id
  | .scalar _ tag value =>
    let (kind, _) ← resolveTagged tag value
    if kind != .null then report (wrongKind n "[]string")
    return []
  | n => reject n "[]string"; return []

/-- Whether a key takes in other mappings. -/
def isMerge : Node → Bool
  | .scalar _ tag value => value == text "<<" && tag == Yaml.mergeTag
  | _ => false

/-- The texts among the keys of a mapping; a collection cannot be one of them. -/
def keyTexts (ctx : Context) (pairs : List (Node × Node)) : Decoding (List Text) := do
  let keys ← pairs.mapM fun (k, _) => do
    match (← ctx.follow k).1 with
    | .scalar _ tag value =>
      let (kind, value) ← resolveTagged tag value
      return if kind == .text then some value else none
    | _ => failure
  return keys.filterMap id

/-- The fields of a type: how a value is put into the field with a name. -/
abbrev Fields (α : Type) := Text → Option (Context → Node → α → Decoding α)

/-- A record that is being read: its value, the fields set from the mapping at hand, and the keys that mappings taken in
no longer count for, if this is one of them. -/
structure Progress (α : Type) where
  value : α
  done : List Text := []
  taken : Option (List Text) := none

def pair (type : Text) (fields : Fields α) (ctx : Context) (k v : Node) (p : Progress α) : Decoding (Progress α) := do
  if isMerge k then return p
  else match ← ofText "string" false ctx k with
    | none => return p
    | some name =>
      if p.taken.any (·.contains name) then return p
      else
        let p := { p with taken := p.taken.map (name :: ·) }
        match fields name with
        | none => report (onLine k.line (text "field " ++ name ++ text " not found in type " ++ type)); return p
        | some set =>
          if p.done.contains name then
            report (onLine k.line (text "field " ++ name ++ text " already set in type " ++ type)); return p
          else return { p with done := name :: p.done, value := ← set ctx v p.value }

def isMapping (ctx : Context) : Node → Bool
  | .map .. => true
  | .alias _ _ _ target => match ctx.document.named.lookup target with
    | some (.map ..) => true
    | _ => false
  | _ => false

mutual

/-- Reads the pairs of a mapping, and then those of the mappings that it takes in. -/
def pairs (type : Text) (fields : Fields α) :
    Nat → Context → List (Node × Node) → α → Option (List Text) → Decoding (α × Option (List Text))
  | 0, _, _, _, _ => failure
  | fuel + 1, ctx, ps, a, taken => do
    if !(← hasDistinctKeys ps) then return (a, taken)
    else
      let p ← ps.foldlM (fun p (k, v) => pair type fields ctx k v p) { value := a, taken := taken : Progress α }
      match (ps.filter fun (k, _) => isMerge k).getLast? with
      | none => return (p.value, p.taken)
      | some (_, source) =>
        let known ← match p.taken with
          | some known => pure known
          | none => keyTexts ctx ps
        let sources := match source with
          | .seq _ _ items => items
          | n => [n]
        let (a, known) ← mergeAll type fields fuel ctx sources p.value known
        return (a, p.taken.map fun _ => known)

/-- Takes in mappings, one after the other. -/
def mergeAll (type : Text) (fields : Fields α) :
    Nat → Context → List Node → α → List Text → Decoding (α × List Text)
  | 0, _, _, _, _ => failure
  | _ + 1, _, [], a, known => return (a, known)
  | fuel + 1, ctx, n :: ns, a, known => do
    if !isMapping ctx n then failure
    else
      let (m, inner) ← ctx.follow n
      match m with
      | .map _ _ ps =>
        let (a, known') ← pairs type fields fuel inner ps a (some known)
        mergeAll type fields fuel ctx ns a (known'.getD known)
      | _ => failure

end

/-- How many steps reading a mapping of a document can take: every mapping taken in on the way is a different
reference, or stands inside the one before. -/
def stepLimit (d : Document) : Nat := (d.size + 2) * (d.size + 2)

/-- A record, unless it holds nothing or something else. -/
def record (type : Text) (isOptional : Bool) (fields : Fields α) (ctx : Context) (n : Node) (a : α) :
    Decoding (Option α) := do
  let (m, inner) ← ctx.follow n
  match m with
  | .map _ tag ps =>
    if isOptional && tag == Kind.null.tag then reject m (optionalType m type); return none
    else return some (← pairs type fields (stepLimit ctx.document) inner ps a none).1
  | .seq .. => reject m (if isOptional then optionalType m type else type); return none
  | .scalar _ tag value =>
    let (kind, _) ← resolveTagged tag value
    if kind != .null then report (wrongKind m type)
    return none
  | .alias .. => failure

/-! ## Configurations -/

def defaultFields : Fields Defaults := fun name =>
  if name == text "trim" then some fun ctx n d => return { d with trim := ← ofBool ctx n }
  else if name == text "rename_all" then some fun ctx n d => return { d with renameAll := ← ofText "string" true ctx n }
  else if name == text "default" then some fun ctx n d => return { d with default := ← ofText "string" true ctx n }
  else none

def configurationFields : Fields Configuration := fun name =>
  if name == text "packages" then some fun ctx n c => return { c with packages := ← texts ctx n }
  else if name == text "output" then some fun ctx n c => return { c with output := ← ofText "string" true ctx n }
  else if name == text "prefix" then some fun ctx n c => return { c with space := ← ofText "string" true ctx n }
  else if name == text "log_level" then
    some fun ctx n c => return { c with logLevel := ← ofText "logger.LogLevel" true ctx n }
  else if name == text "max_diagnostics" then some fun ctx n c => return { c with maxDiagnostics := ← ofInt ctx n }
  else if name == text "jobs" then some fun ctx n c => return { c with jobs := ← ofInt ctx n }
  else if name == text "color" then some fun ctx n c => return { c with color := ← ofText "string" true ctx n }
  else if name == text "defaults" then
    some fun ctx n c => return { c with defaults := ← record "config.Defaults" true defaultFields ctx n {} }
  else none

/-- The layer that a text stands for. -/
def decode (t : Text) : Except DecodeFault Configuration :=
  match Yaml.read? t with
  | none => .error .malformed
  | some none => .ok {}
  | some (some d) =>
    match (record "config.Config" false configurationFields { document := d } d.root {}).run [] with
    | none => .error .malformed
    | some (c, []) => .ok (c.getD {})
    | some (_, faults) => .error (.mismatch faults)

end DocAccessors.YamlLayer
