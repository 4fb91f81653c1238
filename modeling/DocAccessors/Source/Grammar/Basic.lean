import DocAccessors.Source.Item

/-!
# Reading items

The state of reading a file by its grammar, and the steps that all rules are made of.

* `State` holds the items left, the faults found, and three switches of the rules;
* `Parse` reads items; it stops early when too many faults have come up;
* `expect`, `expectSemi`, `atComma`, `advance`: asking for a token, and going on when it is not there.

Unless all faults are asked for, at most one is reported for a line, and reading stops at the twelfth.
-/

namespace DocAccessors.Source

/-- A fault of a source file at a place. -/
structure SyntaxFault where
  place : Place
  message : Text
  deriving DecidableEq, Repr

namespace Grammar

/-- What is left to read and what has been found. -/
structure State where
  /-- The file, for the places of faults. -/
  file : SourceFile
  /-- The items left; the first one is the current one. -/
  items : List Item
  /-- The faults found, last first. -/
  faults : List SyntaxFault := []
  /-- Below zero in the header of a control statement, where a brace opens the body. -/
  level : Int := 0
  /-- Whether an assignment token reads as an equality by mistake. -/
  inRhs : Bool := false
  /-- Where reading was taken up last after a fault, and how often without progress. -/
  syncOffset : Nat := 0
  syncCount : Nat := 0
  /-- Whether all faults are reported. -/
  keepsAll : Bool := false

/-- Reads items. Stopping early keeps the faults. -/
abbrev Parse := StateT State (Except (List SyntaxFault))

/-- The current item; at the end, the end of file. -/
def current : Parse Item := do
  return (← get).items.head?.getD { offset := (← get).file.size, token := .eof, lit := [] }

def token : Parse Token := return (← current).token

/-- The offset of the current token. -/
def offset : Parse Nat := return (← current).offset

/-- Whether the current token is a given one. -/
def isAt (t : Token) : Parse Bool := return (← token) == t

/-- Whether the current token is one of those given. -/
def isAtAny (ts : List Token) : Parse Bool := return ts.contains (← token)

/-- Whether a line break stands for the current semicolon. -/
def Item.isLineBreak (i : Item) : Bool := i.token == .semicolon && i.lit == text "\n"

/-- The faults of a lexeme at their places, as far as line directives were known. -/
def placed (file : SourceFile) (fs : List LexFault) : List SyntaxFault :=
  fs.map fun f => ⟨{ file with marks := file.marks.take f.known }.place f.offset, f.message⟩

/-- Goes on to the next item; the end of file stays. -/
def next : Parse Unit := modify fun s =>
  match s.items with
  | _ :: i :: is => { s with items := i :: is, faults := (placed s.file i.faults).reverse ++ s.faults }
  | _ => s

/-- Reports a fault at an offset, unless one was reported for its line just before and that is enough. -/
def fault (offset : Nat) (message : Text) : Parse Unit := do
  let s ← get
  let place := s.file.place offset
  match s.faults with
  | f :: _ =>
    if !s.keepsAll && f.place.line == place.line then return
    if !s.keepsAll && 10 < s.faults.length then throw s.faults
    set { s with faults := ⟨place, message⟩ :: s.faults }
  | [] => set { s with faults := [⟨place, message⟩] }

/-- What the current item is called in a message. -/
def Item.found (i : Item) : Text :=
  if Item.isLineBreak i then "newline"
  else if i.token.isLiteral then i.lit
  else text "'" ++ i.token.spelling ++ text "'"

/-- Reports that something was expected at an offset. -/
def faultExpected (offset : Nat) (what : Text) : Parse Unit := do
  let i ← current
  let message := text "expected " ++ what
  fault offset (if offset == i.offset then message ++ text ", found " ++ Item.found i else message)

/-- A token as it is named in a message. -/
def named (t : Token) : Text := text "'" ++ t.spelling ++ text "'"

/-- Passes a token, complaining if it is another one; its offset. -/
def expect (t : Token) : Parse Nat := do
  let i ← current
  if i.token != t then faultExpected i.offset (named t)
  next
  return i.offset

/-- Passes a token, complaining if it is another one; its offset if it was there. -/
def expect? (t : Token) : Parse (Option Nat) := do
  let i ← current
  if i.token != t then faultExpected i.offset (named t)
  next
  return if i.token == t then some i.offset else none

/-- Passes a closing bracket; a line break before it lacks a comma. -/
def expectClosing (t : Token) (inside : Text) : Parse Nat := do
  let i ← current
  if i.token != t && Item.isLineBreak i then
    fault i.offset (text "missing ',' before newline in " ++ inside)
    next
  expect t

/-- Whether a list goes on; a missing comma is reported and taken as given. -/
def atComma (inside : Text) (closing : Token) : Parse Bool := do
  let i ← current
  if i.token == .comma then return true
  if i.token != closing then
    let lacking := if Item.isLineBreak i then text "missing ',' before newline in " else text "missing ',' in "
    fault i.offset (lacking ++ inside)
    return true
  return false

/-- Goes on to a token of a set. Every stop must lie behind the last one, or be among the first ten at it;
`fuel` bounds the steps. -/
def advanceTo (targets : List Token) : Nat → Parse Unit
  | 0 => return
  | fuel + 1 => do
    let i ← current
    if i.token == .eof then return
    let s ← get
    if targets.contains i.token then
      if i.offset == s.syncOffset && s.syncCount < 10 then
        set { s with syncCount := s.syncCount + 1 }
        return
      if s.syncOffset < i.offset then
        set { s with syncOffset := i.offset, syncCount := 0 }
        return
    next
    advanceTo targets fuel

/-- Goes on to a token of a set, or to the end. -/
def advance (targets : List Token) : Parse Unit := do advanceTo targets ((← get).items.length + 1)

/-- What a statement can start with, for taking up reading after a fault. -/
def stmtStart : List Token :=
  [.kBreak, .kConst, .kContinue, .kDefer, .kFallthrough, .kFor, .kGo, .kGoto, .kIf, .kReturn, .kSelect, .kSwitch,
    .kType, .kVar]

def declStart : List Token := [.kImport, .kConst, .kType, .kVar]

def exprEnd : List Token := [.comma, .colon, .rparen, .rbrack, .rbrace, .semicolon]

/-- Passes the end of a statement; the comment behind it. -/
def expectSemi : Parse (Option CommentGroup) := do
  let i ← current
  match i.token with
  | .rparen | .rbrace => return none
  | .comma | .semicolon =>
    if i.token == .comma then faultExpected i.offset "';'"
    if i.lit == text ";" then
      next
      return (← current).behind
    else
      next
      return i.behind
  | _ =>
    faultExpected i.offset "';'"
    advance stmtStart
    return none

/-- A name; `_` when there is none. -/
def ident : Parse Ident := do
  let i ← current
  if i.token == .ident then
    next
    return ⟨i.offset, i.lit⟩
  else
    let _ ← expect .ident
    return ⟨i.offset, "_"⟩

/-- Runs a rule with another level, and restores it. -/
def withLevel (f : Int → Int) (p : Parse α) : Parse α := do
  let old := (← get).level
  modify fun s => { s with level := f s.level }
  let a ← p
  modify fun s => { s with level := old }
  return a

/-- Runs a rule inside brackets, where braces belong to literals. -/
def nested (p : Parse α) : Parse α := withLevel (· + 1) p

/-- Runs a rule on the left or right of an assignment. -/
def withRhs (rhs : Bool) (p : Parse α) : Parse α := do
  let old := (← get).inRhs
  modify fun s => { s with inRhs := rhs }
  let a ← p
  modify fun s => { s with inRhs := old }
  return a

/-- Repeats a rule as long as a condition holds; `fuel` bounds the repetitions. -/
def manyWhile (cond : Parse Bool) (p : Parse α) : Nat → Parse (List α)
  | 0 => return []
  | fuel + 1 => do
    if ← cond then
      let a ← p
      return a :: (← manyWhile cond p fuel)
    else return []

/-- The elements of a list with commas, up to the closing token. -/
def listUntil (inside : Text) (closing : Token) (p : Parse α) : Nat → Parse (List α)
  | 0 => return []
  | fuel + 1 => do
    if (← isAt closing) || (← isAt .eof) then return []
    let a ← p
    if ← atComma inside closing then
      next
      return a :: (← listUntil inside closing p fuel)
    else return [a]

end Grammar

end DocAccessors.Source
