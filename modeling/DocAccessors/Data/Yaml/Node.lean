import DocAccessors.Data.Yaml.Token

/-!
# The nodes of YAML

Tokens are put together to nodes: scalars, lists, mappings, and references to nodes that have a name. Every node has a
tag, which says what it stands for; a plain scalar without one has the tag of what it looks like.

* `Node`: a node with the line that it starts on;
* `Document`: a node together with the named nodes inside it;
* `read?`: the first document of a text.
-/

namespace DocAccessors.Yaml

/-! ## Tags -/

/-- The tags of the nodes that need none. -/
def strTag : Text := "!!str"

def seqTag : Text := "!!seq"

def mapTag : Text := "!!map"

/-- The tag of the key that takes in the pairs of another mapping. -/
def mergeTag : Text := "!!merge"

/-- The tag of what a plain scalar stands for. -/
def Kind.tag : Kind → Text
  | .null => "!!null"
  | .bool _ => "!!bool"
  | .int _ => "!!int"
  | .float _ => "!!float"
  | .date => "!!timestamp"
  | .text => strTag

def shortTag (t : Text) : Text :=
  match Text.dropStart? t "tag:yaml.org,2002:" with
  | some r => text "!!" ++ r
  | none => t

/-! ## Nodes -/

/-- A node of a document. -/
inductive Node where
  | scalar (line : Nat) (tag value : Text)
  | seq (line : Nat) (tag : Text) (items : List Node)
  | map (line : Nat) (tag : Text) (pairs : List (Node × Node))
  /-- The `number`-th reference of the document, to the named node with the number `target`. -/
  | alias (line number : Nat) (name : Text) (target : Nat)

instance : Inhabited Node := ⟨.scalar 0 [] []⟩

namespace Node

/-- The line that a node starts on. -/
def line : Node → Nat
  | .scalar l _ _ | .seq l _ _ | .map l _ _ | .alias l _ _ _ => l

def tag : Node → Text
  | .scalar _ t _ | .seq _ t _ | .map _ t _ => t
  | .alias .. => []

/-- The text of a scalar or the name of a reference; collections have none. -/
def value : Node → Text
  | .scalar _ _ v => v
  | .alias _ _ n _ => n
  | _ => []

/-- A scalar without a text. -/
def empty (line : Nat) : Node := .scalar line Kind.null.tag []

/-- Whether two nodes are of one sort. -/
def isLike : Node → Node → Bool
  | .scalar .., .scalar .. | .seq .., .seq .. | .map .., .map .. | .alias .., .alias .. => true
  | _, _ => false

end Node

/-- A document: its node, and the nodes with names by their numbers. -/
structure Document where
  root : Node
  named : List (Nat × Node) := []
  /-- The number of characters of the text, which no count of nodes exceeds. -/
  size : Nat

/-! ## Reading -/

/-- What is known while tokens are read. -/
structure NodeReader where
  scanner : Scanner
  /-- What the handles of tags stand for. -/
  handles : List (Text × Text) := []
  /-- The numbers of the latest nodes with a name. -/
  names : List (Text × Nat) := []
  named : List (Nat × Node) := []
  nameCount : Nat := 0
  aliasCount : Nat := 0

/-- Reads nodes; there is no result when the tokens do not fit. -/
abbrev Reading := StateT NodeReader Option

namespace Reading

def peek : Reading Token := fun r => do
  let (t, s) ← r.scanner.peek?
  return (t, { r with scanner := s })

/-- Takes the next token. -/
def take : Reading Unit := modify fun r => { r with scanner := r.scanner.take }

def kind : Reading TokenKind := return (← peek).kind

/-- Takes a token, which must be the next one. -/
def expect (k : TokenKind) : Reading Unit := do
  if (← kind) == k then take else failure

/-! ### Properties -/

/-- The name and the tag in front of a node, in any order. -/
def properties : Reading (Option Text × Option WrittenTag) := do
  match ← kind with
  | .anchor a =>
    take
    match ← kind with
    | .tag t => take; return (some a, some t)
    | _ => return (some a, none)
  | .tag t =>
    take
    match ← kind with
    | .anchor a => take; return (some a, some t)
    | _ => return (none, some t)
  | _ => return (none, none)

/-- The tag that is meant by a written one: its handle must be known. -/
def tagOf (t : WrittenTag) : Reading Text := do
  if t.handle.isEmpty then return t.suffix
  else match (← get).handles.lookup t.handle with
    | some start => return start ++ t.suffix
    | none => failure

/-- The tag of a node: the one that is written, unless it is a mere mark, or another one. -/
def tagOr (written : Text) (other : Text) : Text :=
  if written.isEmpty || written == text "!" then other else shortTag written

def scalarTag (written : Text) (isPlain : Bool) (value : Text) : Text :=
  tagOr written (if !isPlain then strTag else if value == text "<<" then mergeTag else (resolve value).tag)

/-- Gives a node its number before it is read. -/
def openName (name : Option Text) : Reading (Option Nat) := do
  match name with
  | none => return none
  | some a =>
    let r ← get
    set { r with names := (a, r.nameCount) :: r.names, nameCount := r.nameCount + 1 }
    return some r.nameCount

def closeName (number : Option Nat) (n : Node) : Reading Node := do
  if let some k := number then modify fun r => { r with named := (k, n) :: r.named }
  return n

def aliasNode (line : Nat) (name : Text) : Reading Node := do
  let r ← get
  match r.names.lookup name with
  | none => failure
  | some target =>
    set { r with aliasCount := r.aliasCount + 1 }
    return .alias line r.aliasCount name target

/-! ### Collections -/

mutual

/-- A node. In a block it may be a block itself, and after a key a list that is as deep as the key. -/
def node : Nat → Bool → Bool → Reading Node
  | 0, _, _ => failure
  | fuel + 1, inBlock, afterKey => do
    let t ← peek
    match t.kind with
    | .alias name => take; aliasNode t.line name
    | _ =>
      let (name, written) ← properties
      let tag ← match written with
        | some w => tagOf w
        | none => pure []
      let number ← openName name
      let line := t.line
      let k ← kind
      let n ← match k, inBlock, afterKey with
        | .blockEntry, _, true => do pure (Node.seq line (tagOr tag seqTag) (← bareItems fuel))
        | .scalar isPlain value, _, _ => do take; pure (Node.scalar line (scalarTag tag isPlain value) value)
        | .flowSeqStart, _, _ => do take; pure (Node.seq line (tagOr tag seqTag) (← flowItems fuel true))
        | .flowMapStart, _, _ => do take; pure (Node.map line (tagOr tag mapTag) (← flowPairs fuel true))
        | .blockSeqStart, true, _ => do take; pure (Node.seq line (tagOr tag seqTag) (← blockItems fuel))
        | .blockMapStart, true, _ => do take; pure (Node.map line (tagOr tag mapTag) (← blockPairs fuel))
        | _, _, _ =>
          if name.isSome || !tag.isEmpty then pure (Node.scalar line (scalarTag tag true []) []) else failure
      closeName number n

/-- The items of a list that is deeper than what is around it. -/
def blockItems : Nat → Reading (List Node)
  | 0 => failure
  | fuel + 1 => do
    let t ← peek
    match t.kind with
    | .blockEntry =>
      take
      let k ← kind
      let n ← if k == .blockEntry || k == .blockEnd then pure (Node.empty t.line) else node fuel true false
      return n :: (← blockItems fuel)
    | .blockEnd => take; return []
    | _ => failure

/-- The items of a list that is as deep as the key before it. -/
def bareItems : Nat → Reading (List Node)
  | 0 => failure
  | fuel + 1 => do
    let t ← peek
    match t.kind with
    | .blockEntry =>
      take
      let k ← kind
      let n ←
        if [.blockEntry, .key, .value, .blockEnd].contains k then pure (Node.empty t.line) else node fuel true false
      return n :: (← bareItems fuel)
    | _ => return []

def blockPairs : Nat → Reading (List (Node × Node))
  | 0 => failure
  | fuel + 1 => do
    let t ← peek
    match t.kind with
    | .key =>
      take
      let k ← blockPart fuel t.line
      let v ← blockValue fuel
      return (k, v) :: (← blockPairs fuel)
    | .blockEnd => take; return []
    | _ => failure

def blockPart : Nat → Nat → Reading Node
  | 0, _ => failure
  | fuel + 1, line => do
    if [.key, .value, .blockEnd].contains (← kind) then return Node.empty line else node fuel true true

def blockValue : Nat → Reading Node
  | 0 => failure
  | fuel + 1 => do
    let t ← peek
    match t.kind with
    | .value => take; blockPart fuel t.line
    | _ => return Node.empty t.line

def flowItems : Nat → Bool → Reading (List Node)
  | 0, _ => failure
  | fuel + 1, isFirst => do
    let t ← peek
    if t.kind == .flowSeqEnd then do take; return []
    else
      if !isFirst then expect .flowEntry
      let t ← peek
      match t.kind with
      | .flowSeqEnd => take; return []
      | .key =>
        take
        let pair ← flowItemPair fuel
        return .map t.line mapTag [pair] :: (← flowItems fuel false)
      | _ =>
        let n ← node fuel false false
        return n :: (← flowItems fuel false)

/-- A pair that is an item of a list in brackets; without a key, the token after the mark is passed. -/
def flowItemPair : Nat → Reading (Node × Node)
  | 0 => failure
  | fuel + 1 => do
    let t ← peek
    let k ←
      if [.value, .flowEntry, .flowSeqEnd].contains t.kind then do take; pure (Node.empty t.line)
      else node fuel false false
    let t ← peek
    if t.kind == .value then
      take
      let u ← peek
      if [.flowEntry, .flowSeqEnd].contains u.kind then return (k, Node.empty u.line)
      else return (k, ← node fuel false false)
    else return (k, Node.empty t.line)

/-- The pairs of a mapping in brackets; a comma stands in front of all but the first. -/
def flowPairs : Nat → Bool → Reading (List (Node × Node))
  | 0, _ => failure
  | fuel + 1, isFirst => do
    let t ← peek
    if t.kind == .flowMapEnd then do take; return []
    else
      if !isFirst then expect .flowEntry
      match ← kind with
      | .flowMapEnd => take; return []
      | .key =>
        take
        let t ← peek
        let k ←
          if [.value, .flowEntry, .flowMapEnd].contains t.kind then pure (Node.empty t.line) else node fuel false false
        let v ← flowValue fuel
        return (k, v) :: (← flowPairs fuel false)
      | _ =>
        let k ← node fuel false false
        let t ← peek
        return (k, Node.empty t.line) :: (← flowPairs fuel false)

/-- The value after a key in brackets. -/
def flowValue : Nat → Reading Node
  | 0 => failure
  | fuel + 1 => do
    let t ← peek
    if t.kind == .value then
      take
      let u ← peek
      if [.flowEntry, .flowMapEnd].contains u.kind then return Node.empty u.line else node fuel false false
    else return Node.empty t.line

end

/-! ### Documents -/

/-- The handles that are known without a directive. -/
def knownHandles : List (Text × Text) := [("!", "!"), ("!!", "tag:yaml.org,2002:")]

/-- Reads directives: a version must be the known one, and nothing is said twice. -/
def directives : Nat → Bool → List (Text × Text) → Reading (List (Text × Text))
  | 0, _, _ => failure
  | fuel + 1, versioned, handles => do
    match ← kind with
    | .directive (.version major minor) =>
      if versioned || major != 1 || minor != 1 then failure
      else take; directives fuel true handles
    | .directive (.tag handle start) =>
      if (handles.lookup handle).isSome then failure
      else take; directives fuel versioned ((handle, start) :: handles)
    | _ => return handles

/-- Whether a token cannot start the node of a document. -/
def endsDocument : TokenKind → Bool
  | .directive _ | .documentStart | .documentEnd | .streamEnd => true
  | _ => false

/-- The node of the first document, if there is a document. -/
def document (fuel : Nat) : Reading (Option Node) := do
  expect .streamStart
  match ← kind with
  | .streamEnd => return none
  | .directive _ | .documentStart =>
    let handles ← directives fuel false []
    modify fun r => { r with handles := handles ++ knownHandles }
    expect .documentStart
    let t ← peek
    let n ← if endsDocument t.kind then pure (Node.empty t.line) else node fuel true false
    let _ ← peek
    return some n
  | _ =>
    modify fun r => { r with handles := knownHandles }
    let n ← node fuel true false
    let _ ← peek
    return some n

end Reading

/-- The first document of a text: nothing at all when the text has none, and a failure when it is malformed. -/
def read? (t : Text) : Option (Option Document) := do
  let cs ← decode? t
  let (root, r) ← (Reading.document (8 * cs.length + 40)).run { scanner := Scanner.ofChars cs }
  return root.map fun n => { root := n, named := r.named, size := cs.length }

end DocAccessors.Yaml
