import DocAccessors.Text.Class

/-!
# Build constraints

A source file can be meant for some systems only: its name says so, or a line before its package clause.

* `tagHolds`: the tags of the system at hand;
* `Condition`: a condition over tags, and `Condition.parse` reads one; `oldHolds` decides one in the older form;
* `Condition.version?`: the language version that a condition asks for;
* `Header` is what the lines before the package clause say;
* `admits` decides whether a file is part of a package.
-/

namespace DocAccessors.Constraint

/-- Operating systems that file names can end in. -/
def systems : List Text := ["aix", "android", "darwin", "dragonfly", "freebsd", "hurd", "illumos", "ios", "js",
  "linux", "nacl", "netbsd", "openbsd", "plan9", "solaris", "wasip1", "windows", "zos"]

/-- Processors that file names can end in. -/
def processors : List Text := ["386", "amd64", "amd64p32", "arm", "armbe", "arm64", "arm64be", "loong64", "mips",
  "mipsle", "mips64", "mips64le", "mips64p32", "mips64p32le", "ppc", "ppc64", "ppc64le", "riscv", "riscv64", "s390",
  "s390x", "sparc", "sparc64", "wasm"]

/-- The tags that hold beside those of language versions. -/
def given : List Text := ["linux", "amd64", "unix", "gc", "amd64.v1"]

/-- The newest language version that has a tag. -/
def newestVersion : Nat := 27

def tagHolds (t : Text) : Bool :=
  given.contains t || ((List.range newestVersion).map fun n => text "go1." ++ Text.ofNat (n + 1)).contains t

/-- Whether a code point can be part of a tag. -/
def isTagChar (c : Char) : Bool := Text.isLetter c || Text.isDigit c || c == '_' || c == '.'

/-! ## Conditions -/

/-- What is wrong with the constraints of a file. -/
inductive Fault where
  /-- There is more than one condition. -/
  | several
  /-- A code point cannot stand in a condition. -/
  | invalid (c : Char)
  | unexpected (word : Text)
  | unfinished
  | unclosed
  | doubleNegation
  | tooLarge
  deriving DecidableEq, Repr

def Fault.message : Fault → Text
  | .several => "multiple //go:build comments"
  | .invalid c => condition (text "invalid syntax at " ++ Text.ofChar c)
  | .unexpected w => condition (text "unexpected token " ++ w)
  | .unfinished => condition "unexpected end of expression"
  | .unclosed => condition "missing close paren"
  | .doubleNegation => condition "double negation not allowed"
  | .tooLarge => condition "build expression too large"
where
  /-- What is said about a condition. -/
  condition (what : Text) : Text := text "parsing //go:build line: " ++ what

/-- A word of a condition. -/
inductive Word where
  | tag (t : Text)
  | and | or | not | opening | closing
  | ending
  deriving DecidableEq

def Word.spelling : Word → Text
  | .tag t => t
  | .and => "&&"
  | .or => "||"
  | .not => "!"
  | .opening => "("
  | .closing => ")"
  | .ending => []

/-- A place in a condition: the word at hand, what follows it, and how many operands came before. -/
structure Place where
  word : Word
  rest : Text
  size : Nat := 0

/-- The place after the word at hand. -/
def Place.next (p : Place) : Except Fault Place :=
  let t := p.rest.dropWhile fun b => b == 32 || b == 9
  let go (w : Word) (n : Nat) : Except Fault Place := .ok { p with word := w, rest := t.drop n }
  match t with
  | [] => go .ending 0
  | b :: r =>
    if b == 40 then go .opening 1
    else if b == 41 then go .closing 1
    else if b == 33 then go .not 1
    else if b == 38 then (if r.head? == some 38 then go .and 2 else .error (.invalid '&'))
    else if b == 124 then (if r.head? == some 124 then go .or 2 else .error (.invalid '|'))
    else
      let tag := Text.ofGlyphs ((Text.glyphs t).takeWhile fun g => isTagChar g.char)
      if tag.isEmpty then .error (.invalid (((Text.firstGlyph? t).map Text.Glyph.char).getD Text.replacement))
      else go (.tag tag) tag.length

/-- How many operands a condition can have. -/
def sizeLimit : Nat := 1000

/-- A condition over tags. -/
inductive Condition where
  | tag (t : Text)
  | not (c : Condition)
  | and (c d : Condition)
  | or (c d : Condition)

mutual

/-- Reads conditions with *or* between them; the place is before the first word. -/
def either : Nat → Place → Except Fault (Condition × Place)
  | 0, _ => .error .tooLarge
  | fuel + 1, p => do
    let (a, p) ← both fuel p
    eitherMore fuel a p

def eitherMore : Nat → Condition → Place → Except Fault (Condition × Place)
  | 0, _, _ => .error .tooLarge
  | fuel + 1, a, p =>
    if p.word == .or then do
      let (b, p) ← both fuel p
      eitherMore fuel (.or a b) p
    else .ok (a, p)

def both : Nat → Place → Except Fault (Condition × Place)
  | 0, _ => .error .tooLarge
  | fuel + 1, p => do
    let (a, p) ← negated fuel p
    bothMore fuel a p

/-- Goes on after conditions with *and* between them. -/
def bothMore : Nat → Condition → Place → Except Fault (Condition × Place)
  | 0, _, _ => .error .tooLarge
  | fuel + 1, a, p =>
    if p.word == .and then do
      let (b, p) ← negated fuel p
      bothMore fuel (.and a b) p
    else .ok (a, p)

/-- Reads a condition that may be negated. -/
def negated : Nat → Place → Except Fault (Condition × Place)
  | 0, _ => .error .tooLarge
  | fuel + 1, p => do
    if sizeLimit ≤ p.size then throw .tooLarge
    let p ← { p with size := p.size + 1 }.next
    if p.word == .not then
      let p ← p.next
      if p.word == .not then throw .doubleNegation
      let (a, p) ← single fuel p
      return (.not a, p)
    else single fuel p

/-- Reads a tag or a condition in brackets; the place is at its first word. -/
def single : Nat → Place → Except Fault (Condition × Place)
  | 0, _ => .error .tooLarge
  | fuel + 1, p =>
    match p.word with
    | .tag t => do return (.tag t, ← p.next)
    | .opening =>
      match either fuel p with
      | .error .unfinished => .error .unclosed
      | .error f => .error f
      | .ok (a, p) => do
        if p.word != .closing then throw .unclosed
        return (a, ← p.next)
    | .ending => .error .unfinished
    | w => .error (.unexpected w.spelling)

end

namespace Condition

def parse (condition : Text) : Except Fault Condition := do
  let (a, p) ← either (8 * condition.length + 10) { word := .ending, rest := condition }
  if p.word != .ending then throw (.unexpected p.word.spelling)
  return a

def holds : Condition → Bool
  | .tag t => tagHolds t
  | .not c => !c.holds
  | .and c d => c.holds && d.holds
  | .or c d => c.holds || d.holds

/-- What follows the mark of a language version in a tag. -/
def afterMark? : Text → Option Text
  | [] => none
  | b :: r =>
    match Text.dropStart? (b :: r) "go1." with
    | some n => some n
    | none => afterMark? r

/-- The language version that a tag is for. -/
def tagVersion? (t : Text) : Option Nat :=
  if t == text "go1" then some 0 else (afterMark? t).bind Text.toNat?

def greater? : Option Nat → Option Nat → Option Nat
  | some m, some n => some (max m n)
  | some m, none => some m
  | none, n => n

def lesser? : Option Nat → Option Nat → Option Nat
  | some m, some n => some (min m n)
  | _, _ => none

/-- The least language version with which a condition, or with `negated` its negation, can hold; there is none where
the version does not matter. -/
def version? (negated : Bool) : Condition → Option Nat
  | .tag t => if negated then none else tagVersion? t
  | .not c => c.version? !negated
  | .and c d => (if negated then lesser? else greater?) (c.version? negated) (d.version? negated)
  | .or c d => (if negated then greater? else lesser?) (c.version? negated) (d.version? negated)

end Condition

def holds (condition : Text) : Except Fault Bool := do return (← Condition.parse condition).holds

/-- Whether one part of an older condition holds; what is no tag does not. -/
def oldTagHolds (t : Text) : Bool :=
  let plain (t : Text) : Bool := !t.isEmpty && (Text.chars t).all isTagChar && tagHolds t
  match t with
  | 33 :: r => if r.isEmpty || r.head? == some 33 then false else !plain r
  | _ => plain t

/-- How many operators an older condition can have. -/
def oldSizeLimit : Nat := 100

/-- Whether an older condition holds: one of its words, that is all parts of it; too large a one always holds. -/
def oldHolds (condition : Text) : Bool :=
  let clauses := (Text.fields condition).map (Text.split 44)
  oldSizeLimit < clauses.flatten.length - 1 || clauses.any (·.all oldTagHolds)

/-! ## Headers -/

/-- What the lines before the package clause say. -/
structure Header where
  /-- The conditions. -/
  conditions : List Text := []
  /-- The lines that may hold older conditions: those before the last blank line. -/
  early : List Text := []
  /-- The lines since then. -/
  late : List Text := []
  /-- Whether something else than blank lines and comments to the end of a line came up. -/
  ended : Bool := false
  /-- Whether a comment goes on. -/
  inComment : Bool := false

def condition? (line : Text) : Option Text := do
  let r ← Text.dropStart? line "//go:build"
  let t := Text.trim r
  if r.isEmpty || t.length < r.length then some t else none

def oldCondition? (line : Text) : Option Text := do
  let r ← Text.dropStart? (Text.trim (← Text.dropStart? line "//")) "+build"
  let t := Text.trim r
  if r.isEmpty || t.length < r.length then some t else none

/-- Whether a line, or what is left of it, ends inside a comment; none when there is other text on it. -/
def commentAfter? : Nat → Bool → Text → Option Bool
  | 0, inComment, _ => some inComment
  | _, inComment, [] => some inComment
  | fuel + 1, true, b :: r =>
    match Text.dropStart? (b :: r) "*/" with
    | some r => commentAfter? fuel false (Text.trim r)
    | none => commentAfter? fuel true r
  | fuel + 1, false, t =>
    if Text.startsWith t "//" then some false
    else match Text.dropStart? t "/*" with
      | some r => commentAfter? fuel true (Text.trim r)
      | none => none

/-- Reads lines as long as they belong to the header. -/
def Header.read : List Text → Header → Header
  | [], h => h
  | l :: ls, h =>
    let line := Text.trim l
    if line.isEmpty && !h.ended then Header.read ls { h with early := h.early ++ h.late, late := [] }
    else
      let h := { h with
        ended := h.ended || !Text.startsWith line "//"
        late := if h.ended then h.late else h.late ++ [line]
        conditions := if h.inComment then h.conditions else h.conditions ++ (condition? line).toList }
      match commentAfter? (line.length + 1) h.inComment line with
      | none => h
      | some inComment => Header.read ls { h with inComment }

def Header.ofSource (src : Text) : Header :=
  Header.read (Text.lines (Text.dropStart src (Text.ofChar Text.byteOrderMark))) {}

/-- Whether a header admits its file; with a condition, older ones do not count. -/
def Header.admits (h : Header) : Except Fault Bool :=
  match h.conditions with
  | [] => .ok ((h.early.filterMap oldCondition?).all oldHolds)
  | [c] => holds c
  | _ => .error .several

/-- The language version that the comments before a package clause ask for: the last condition among them counts. -/
def languageVersion? (comments : List Text) : Option Nat :=
  let conditions := comments.filterMap fun c => (condition? (Text.trim c)).bind fun t => (Condition.parse t).toOption
  conditions.getLast?.bind (·.version? false)

/-! ## Files -/

/-- Whether the name of a file admits it: endings after underscores can name a system, a processor or both. -/
def nameAdmits (name : Text) : Bool :=
  let stem := name.takeWhile (· != 46)
  let parts := ((Text.split 95 stem).drop 1).reverse
  let parts := if parts.head? == some (text "test") then parts.drop 1 else parts
  match parts with
  | p :: s :: _ =>
    if processors.contains p && systems.contains s then tagHolds p && tagHolds s
    else if processors.contains p || systems.contains p then tagHolds p else true
  | [p] => if processors.contains p || systems.contains p then tagHolds p else true
  | [] => true

/-- Whether a file is left out without a look at it. -/
def isHiddenFile (name : Text) : Bool := name.head? == some 95 || name.head? == some 46

/-- Whether a file is part of its package. -/
def admits (name src : Text) : Except Fault Bool :=
  if isHiddenFile name || !nameAdmits name then .ok false else (Header.ofSource src).admits

end DocAccessors.Constraint
