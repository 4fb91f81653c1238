import DocAccessors.Data.Yaml.Lexeme

/-!
# The tokens of YAML

Depth and the colons after keys become tokens of their own: a collection in a block has a token for its start and one
for its end, and a key has one in front of it. That a scalar is a key shows only at the colon after it, so tokens are
kept in a queue until no key can be put in front of the first one.

* `Token`: what a text is cut into;
* `KeyCandidate`: a place where a key may have started;
* `Scanner`: a place in the text with the depths around it and the queue;
* `Scanner.fetch?` reads one token, `Scanner.peek?` is the first token of the queue once it is settled.
-/

namespace DocAccessors.Yaml

/-- What a token stands for. -/
inductive TokenKind where
  | streamStart | streamEnd
  | directive (d : Directive)
  | documentStart | documentEnd
  | blockSeqStart | blockMapStart | blockEnd
  | flowSeqStart | flowSeqEnd | flowMapStart | flowMapEnd
  | blockEntry | flowEntry | key | value
  | alias (name : Text)
  | anchor (name : Text)
  | tag (t : WrittenTag)
  | scalar (isPlain : Bool) (value : Text)
  deriving DecidableEq

/-- A token and the line that it starts on. -/
structure Token where
  kind : TokenKind
  line : Nat
  deriving DecidableEq

/-- A place where a key may have started. -/
structure KeyCandidate where
  /-- Whether the place can still turn out to start a key. -/
  isPossible : Bool := false
  /-- Whether nothing but a key can stand there. -/
  isRequired : Bool := false
  /-- How many tokens come before it. -/
  number : Nat := 0
  line : Nat := 1
  column : Nat := 0
  index : Nat := 0

/-- A place in a text with all that decides about the next tokens. -/
structure Scanner where
  cursor : Cursor
  /-- The depth of the block around, less than zero outside of all blocks. -/
  indent : Int := -1
  /-- The depths of the blocks around that one. -/
  indents : List Int := []
  /-- How many brackets are open. -/
  flow : Nat := 0
  /-- Whether a key can start here. -/
  keyAllowed : Bool := true
  /-- The candidates inside each pair of brackets, the innermost first. -/
  candidates : List KeyCandidate := [{}]
  /-- The tokens that wait for a key in front of them, with the level of their candidates, counted from outside. -/
  waiting : List (Nat × Nat) := []
  /-- The tokens read and not taken. -/
  queue : List Token := [⟨.streamStart, 1⟩]
  /-- How many tokens were taken. -/
  taken : Nat := 0

namespace Scanner

/-- How deeply brackets and blocks may be nested. -/
def depthLimit : Nat := 10000

def candidate (s : Scanner) : KeyCandidate := s.candidates.headD {}

/-- Replaces the innermost candidate. -/
def setCandidate (k : KeyCandidate) (s : Scanner) : Scanner := { s with candidates := k :: s.candidates.drop 1 }

/-- How many tokens have been read. -/
def total (s : Scanner) : Nat := s.taken + s.queue.length

/-- Puts a token at the end of the queue. -/
def push (k : TokenKind) (line : Nat) (s : Scanner) : Scanner := { s with queue := s.queue ++ [⟨k, line⟩] }

/-- Puts a token in front of the one with a number, or at the end when that one has been taken. -/
def insert (number : Nat) (k : TokenKind) (line : Nat) (s : Scanner) : Scanner :=
  if number < s.taken then s.push k line
  else
    let n := number - s.taken
    { s with queue := s.queue.take n ++ ⟨k, line⟩ :: s.queue.drop n }

/-- No longer waits for a key in front of a token. -/
def settle (number : Nat) (s : Scanner) : Scanner :=
  { s with waiting := s.waiting.filter fun (n, _) => n != number }

/-! ## Keys -/

/-- How far after its start the colon of a key can stand. -/
def keyReach : Nat := 1024

/-- Whether a key can no longer start at a candidate, because its line has ended or is too long. -/
def isStale (s : Scanner) (k : KeyCandidate) : Bool := k.line < s.cursor.line || k.index + keyReach < s.cursor.index

/-- Gives up the innermost candidate; a required one must not be given up. -/
def dropCandidate? (s : Scanner) : Option Scanner :=
  let k := s.candidate
  if !k.isPossible then some s
  else if k.isRequired then none
  else some ((s.setCandidate { k with isPossible := false }).settle k.number)

/-- Notes that a key may start here. -/
def saveCandidate? (s : Scanner) : Option Scanner :=
  if !s.keyAllowed then some s
  else do
    let k : KeyCandidate :=
      { isPossible := true, isRequired := s.flow == 0 && s.indent == s.cursor.column, number := s.total
        line := s.cursor.line, column := s.cursor.column, index := s.cursor.index }
    let s ← s.dropCandidate?
    let s := s.setCandidate k
    return { s with waiting := (k.number, s.candidates.length - 1) :: s.waiting.filter fun (n, _) => n != k.number }

/-! ## Depth -/

/-- Starts a block when a column is deeper than the block around. The token for it is put in front of the token with
the number, or at the end. -/
def deepen? (column : Nat) (number : Option Nat) (k : TokenKind) (line : Nat) (s : Scanner) : Option Scanner :=
  if s.flow == 0 && s.indent < column then
    if depthLimit ≤ s.indents.length then none
    else
      let s := { s with indents := s.indent :: s.indents, indent := column }
      some (match number with
        | some n => s.insert n k line
        | none => s.push k line)
  else some s

/-- Ends the blocks that are deeper than a column. -/
def endBlocks (column : Int) (line : Nat) : List Int → Scanner → Scanner
  | [], s => s
  | i :: is, s =>
    if s.flow == 0 && column < s.indent then
      endBlocks column line is ({ s with indent := i, indents := is }.push .blockEnd line)
    else s

/-- Ends the blocks that are deeper than a column. -/
def unwind (column : Int) (line : Nat) (s : Scanner) : Scanner := endBlocks column line s.indents s

/-! ## Tokens -/

/-- Passes blanks, comments and line breaks. Tabs are blanks only where no key can start. -/
def toToken : Nat → Scanner → Scanner
  | 0, s => s
  | fuel + 1, s =>
    let c := s.cursor
    let c := if c.column == 0 && c.peek == some Text.byteOrderMark then c.next else c
    let tabs := 0 < s.flow || !s.keyAllowed
    let c := c.skipWhile fun x => x == ' ' || (tabs && x == '\t')
    let c := if c.peek == some '#' then skipComments c.rest.length c else c
    if c.peek.any isBreak then
      toToken fuel { s with cursor := c.skipBreak, keyAllowed := s.keyAllowed || s.flow == 0 }
    else { s with cursor := c }

/-- The end of the text ends all blocks. -/
def fetchStreamEnd? (s : Scanner) : Option Scanner := do
  let c := s.cursor
  let s := if c.column == 0 then s else { s with cursor := { c with column := 0, line := c.line + 1 } }
  let s ← (s.unwind (-1) s.cursor.line).dropCandidate?
  return { s with keyAllowed := false }.push .streamEnd s.cursor.line

def fetchDirective? (s : Scanner) : Option Scanner := do
  let line := s.cursor.line
  let s ← (s.unwind (-1) line).dropCandidate?
  let (d, c) ← directive? s.cursor
  return { s with cursor := c, keyAllowed := false }.push (.directive d) line

def fetchDocumentMark? (k : TokenKind) (s : Scanner) : Option Scanner := do
  let line := s.cursor.line
  let s ← (s.unwind (-1) line).dropCandidate?
  return { s with cursor := s.cursor.skip 3, keyAllowed := false }.push k line

def pushMark (k : TokenKind) (s : Scanner) : Scanner := { s with cursor := s.cursor.next }.push k s.cursor.line

def fetchOpening? (k : TokenKind) (s : Scanner) : Option Scanner := do
  let s ← s.saveCandidate?
  if depthLimit ≤ s.flow then none
  else
    let inner : KeyCandidate := { number := s.total }
    return { s with candidates := inner :: s.candidates, flow := s.flow + 1, keyAllowed := true }.pushMark k

def leaveBrackets (s : Scanner) : Scanner :=
  if s.flow == 0 then s
  else ({ s with flow := s.flow - 1, candidates := s.candidates.drop 1 }).settle s.candidate.number

def fetchClosing? (k : TokenKind) (s : Scanner) : Option Scanner := do
  let s ← s.dropCandidate?
  return { s.leaveBrackets with keyAllowed := false }.pushMark k

/-- A comma between brackets. -/
def fetchComma? (s : Scanner) : Option Scanner := do
  let s ← s.dropCandidate?
  return { s with keyAllowed := true }.pushMark .flowEntry

/-- A dash in front of an item. -/
def fetchDash? (s : Scanner) : Option Scanner := do
  if s.flow == 0 && !s.keyAllowed then none
  else
    let s ← s.deepen? s.cursor.column none .blockSeqStart s.cursor.line
    let s ← s.dropCandidate?
    return { s with keyAllowed := true }.pushMark .blockEntry

/-- A question mark in front of a key. -/
def fetchKey? (s : Scanner) : Option Scanner := do
  if s.flow == 0 && !s.keyAllowed then none
  else
    let s ← s.deepen? s.cursor.column none .blockMapStart s.cursor.line
    let s ← s.dropCandidate?
    return { s with keyAllowed := s.flow == 0 }.pushMark .key

/-- A colon in front of a value: the innermost candidate, if it can be one, is its key. -/
def fetchValue? (s : Scanner) : Option Scanner := do
  let k := s.candidate
  let stale := k.isPossible && s.isStale k
  if stale && k.isRequired then none
  else if k.isPossible && !stale then
    let s := s.insert k.number .key k.line
    let s ← s.deepen? k.column (some k.number) .blockMapStart k.line
    let s := (s.setCandidate { k with isPossible := false }).settle k.number
    return { s with keyAllowed := false }.pushMark .value
  else
    let s := s.setCandidate { k with isPossible := false }
    if s.flow == 0 && !s.keyAllowed then none
    else
      let s ← s.deepen? s.cursor.column none .blockMapStart s.cursor.line
      return { s with keyAllowed := s.flow == 0 }.pushMark .value

/-- A token that may be a key or stand in front of one. -/
def fetchLexeme? (read? : Cursor → Option (TokenKind × Cursor)) (s : Scanner) : Option Scanner := do
  let s ← s.saveCandidate?
  let (k, c) ← read? s.cursor
  return { s with cursor := c, keyAllowed := false }.push k s.cursor.line

/-- A plain scalar; a key can follow when it ends with a line. -/
def fetchPlain? (s : Scanner) : Option Scanner := do
  let s ← s.saveCandidate?
  let (t, broken, c) ← plain? (0 < s.flow) (s.indent + 1).toNat s.cursor
  return { s with cursor := c, keyAllowed := broken }.push (.scalar true (Text.ofChars t)) s.cursor.line

def fetchBlock? (literal : Bool) (s : Scanner) : Option Scanner := do
  let s ← s.dropCandidate?
  let (t, c) ← block? literal s.indent s.cursor
  return { s with cursor := c, keyAllowed := true }.push (.scalar false (Text.ofChars t)) s.cursor.line

def fetchQuoted? (q : Char) (s : Scanner) : Option Scanner :=
  s.fetchLexeme? fun c => (quoted? q c).map fun (t, d) => (.scalar false (Text.ofChars t), d)

/-- Whether a plain scalar can start with a character that nothing else starts with. -/
def startsPlain (inFlow : Bool) : List Char → Bool
  | [] => false
  | x :: r =>
    if x == '-' then !r.head?.any isBlank
    else if x == '?' || x == ':' then !inFlow && !Cursor.endsWord r
    else !(isBlank x || isBreak x || ",[]\x7b\x7d#&*!|>'\"%@\x60".toList.contains x)

/-- The token that starts with a character. -/
def fetchFrom? (x : Char) (after : List Char) (s : Scanner) : Option Scanner :=
  let inFlow := 0 < s.flow
  if x == '[' then s.fetchOpening? .flowSeqStart
  else if x == '\x7b' then s.fetchOpening? .flowMapStart
  else if x == ']' then s.fetchClosing? .flowSeqEnd
  else if x == '\x7d' then s.fetchClosing? .flowMapEnd
  else if x == ',' then s.fetchComma?
  else if x == '-' && Cursor.endsWord after then s.fetchDash?
  else if x == '?' && (inFlow || Cursor.endsWord after) then s.fetchKey?
  else if x == ':' && (inFlow || Cursor.endsWord after) then s.fetchValue?
  else if x == '*' then s.fetchLexeme? fun c => (anchorName? c).map fun (n, d) => (.alias (Text.ofChars n), d)
  else if x == '&' then s.fetchLexeme? fun c => (anchorName? c).map fun (n, d) => (.anchor (Text.ofChars n), d)
  else if x == '!' then s.fetchLexeme? fun c => (tag? c).map fun (t, d) => (.tag t, d)
  else if x == '|' && !inFlow then s.fetchBlock? true
  else if x == '>' && !inFlow then s.fetchBlock? false
  else if x == '\'' || x == '"' then s.fetchQuoted? x
  else if startsPlain inFlow (x :: after) then s.fetchPlain?
  else none

/-- Reads a token. After it a comment on its line is passed, unless it is a dash. -/
def fetch? (s : Scanner) : Option Scanner := do
  let before := s.cursor.line
  let s := s.toToken (s.cursor.rest.length + 1)
  let s := s.unwind s.cursor.column before
  match s.cursor.rest with
  | [] => s.fetchStreamEnd?
  | x :: after =>
    if s.cursor.column == 0 && x == '%' then s.fetchDirective?
    else if s.cursor.atMark '-' then s.fetchDocumentMark? .documentStart
    else if s.cursor.atMark '.' then s.fetchDocumentMark? .documentEnd
    else
      let s ← s.fetchFrom? x after
      if (s.queue.getLast?.map Token.kind) == some .blockEntry then return s
      else return { s with cursor := skipLineComment s.cursor }

/-! ## The queue -/

/-- Whether the first token of the queue waits for a key; a required key that cannot come any more is a failure. -/
def isWaiting? (s : Scanner) : Option Bool :=
  match s.waiting.lookup s.taken with
  | none => some false
  | some level =>
    match s.candidates.reverse[level]? with
    | none => some false
    | some k =>
      if !k.isPossible then some false
      else if s.isStale k then (if k.isRequired then none else some false)
      else some true

/-- How many tokens must be known before the first one is taken. -/
def queueReach : Nat := 3

/-- Reads tokens until the first one is settled. -/
def fill? : Nat → Scanner → Option Scanner
  | 0, _ => none
  | fuel + 1, s => do
    let settled ← if s.queue.length < queueReach then some false else (s.isWaiting?).map (!·)
    if settled then return s else fill? fuel (← s.fetch?)

/-- The first token that has not been taken. -/
def peek? (s : Scanner) : Option (Token × Scanner) := do
  let s ← s.fill? (s.cursor.rest.length + queueReach + 1)
  let t ← s.queue.head?
  return (t, s)

/-- Takes the first token. -/
def take (s : Scanner) : Scanner := { s with queue := s.queue.drop 1, taken := s.taken + 1 }

/-- A scanner at the start of a list of characters. -/
def ofChars (cs : List Char) : Scanner := { cursor := { rest := cs } }

end Scanner

end DocAccessors.Yaml
