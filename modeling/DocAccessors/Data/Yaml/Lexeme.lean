import DocAccessors.Data.Yaml.Stream

/-!
# The lexemes of YAML

Each function reads one lexeme that starts at a cursor and returns it with the cursor after it; there is none when the
lexeme is malformed.

* `Gap` is what stands between two words of a scalar, `Gap.folded` what it comes to;
* `plain?`, `quoted?` and `block?` read scalars;
* `anchorName?`, `tag?` and `directive?` read properties and directives;
* `skipComments` and `skipLineComment` pass comments.
-/

namespace DocAccessors.Yaml

/-! ## Gaps -/

/-- The line breaks in a run of blanks and breaks; most of them come to a line feed. -/
def breaksIn : List Char → List Char
  | [] => []
  | '\r' :: '\n' :: r => '\n' :: breaksIn r
  | x :: r =>
    if x == '\u2028' || x == '\u2029' then x :: breaksIn r
    else if isBreak x then '\n' :: breaksIn r
    else breaksIn r

/-- What stands between two words of a scalar. -/
structure Gap where
  blanks : List Char
  breaks : List Char

namespace Gap

/-- The gap that a run of blanks and line breaks makes. -/
def ofRun (run : List Char) : Gap := ⟨run.takeWhile isBlank, breaksIn run⟩

/-- What a gap comes to: blanks are kept within a line; the first line feed is a blank when it stands alone, and
otherwise stands for those after it. -/
def folded (g : Gap) : List Char :=
  match g.breaks with
  | [] => g.blanks
  | '\n' :: [] => [' ']
  | '\n' :: bs => bs
  | bs => bs

end Gap

def gap (c : Cursor) : List Char × Cursor := c.run fun x => isBlank x || isBreak x

/-- Whether a line after the first one of a run has a tab among its first columns. -/
def hasTabWithin (columns : Nat) (run : List Char) : Bool :=
  let rec go : Nat → List Char → Bool
    | _, [] => false
    | column, x :: r =>
      if isBreak x then go 0 r else (x == '\t' && column < columns) || go (column + 1) r
  go 0 (run.dropWhile isBlank)

/-! ## Plain scalars -/

/-- Whether a character delimits collections in brackets. -/
def isFlowMark (c : Char) : Bool := ",[]\x7b\x7d".toList.contains c

def endsPlain (inFlow : Bool) : List Char → Bool
  | [] => true
  | x :: r =>
    isBlank x || isBreak x || (x == ':' && Cursor.endsWord r) ||
      (inFlow && (isFlowMark x || (x == '?' && (Cursor.endsLine r || r.head? == some ' '))))

def plainWord (inFlow : Bool) : List Char → List Char
  | [] => []
  | x :: r => if endsPlain inFlow (x :: r) then [] else x :: plainWord inFlow r

/-- A plain scalar whose lines after the first are at least `indent` deep, and whether line breaks follow it. Each
round reads a word and the gap after it; `before` is the gap before the word. -/
def plainFrom? (inFlow : Bool) (indent : Nat) : Nat → Gap → Cursor → Option (List Char × Bool × Cursor)
  | 0, _, _ => none
  | fuel + 1, before, c =>
    if c.atDocumentMark || c.peek == some '#' then some ([], !before.breaks.isEmpty, c)
    else
      let word := plainWord inFlow c.rest
      let own := if word.isEmpty then [] else before.folded ++ word
      let between : Gap := if word.isEmpty then before else ⟨[], []⟩
      let d := c.skip word.length
      let (run, e) := gap d
      if run.isEmpty then some (own, !between.breaks.isEmpty, d)
      else
        let after := Gap.ofRun run
        if hasTabWithin indent run then none
        else if !inFlow && e.column < indent then some (own, !after.breaks.isEmpty, e)
        else do
          let (more, broken, f) ← plainFrom? inFlow indent fuel after e
          return (own ++ more, broken, f)

def plain? (inFlow : Bool) (indent : Nat) (c : Cursor) : Option (List Char × Bool × Cursor) :=
  plainFrom? inFlow indent (c.rest.length + 1) ⟨[], []⟩ c

/-! ## Quoted scalars -/

/-- What a letter after a backslash stands for, or how many hexadecimal digits follow it. -/
def escapeOf? (c : Char) : Option (Char ⊕ Nat) :=
  match c with
  | '0' => some (.inl '\x00')
  | 'a' => some (.inl '\x07')
  | 'b' => some (.inl '\x08')
  | 't' | '\t' => some (.inl '\t')
  | 'n' => some (.inl '\n')
  | 'v' => some (.inl '\x0b')
  | 'f' => some (.inl '\x0c')
  | 'r' => some (.inl '\r')
  | 'e' => some (.inl '\x1b')
  | ' ' | '"' | '\'' | '\\' => some (.inl c)
  | 'N' => some (.inl '\u0085')
  | '_' => some (.inl '\u00a0')
  | 'L' => some (.inl '\u2028')
  | 'P' => some (.inl '\u2029')
  | 'x' => some (.inr 2)
  | 'u' => some (.inr 4)
  | 'U' => some (.inr 8)
  | _ => none

/-- The code point that exactly some hexadecimal digits stand for. -/
def codePoint? (n : Nat) (digits : List Char) : Option Char := do
  let code ← Text.toNatBase? 16 (Text.ofChars digits)
  if digits.length == n && !(0xD800 ≤ code && code < 0xE000) && code ≤ 0x10FFFF then some (Char.ofNat code) else none

/-- An escape: the character after its backslash is at the head. -/
def escape? : List Char → Option (Char × Nat)
  | [] => none
  | x :: r => do
    match ← escapeOf? x with
    | .inl c => return (c, 2)
    | .inr n => return (← codePoint? n (r.take n), n + 2)

/-- The text of a quoted scalar up to its closing quote, and the place after the quote. A break after a backslash
joins two lines. -/
def quotedFrom? (q : Char) : Nat → Cursor → Option (List Char × Cursor)
  | 0, _ => none
  | fuel + 1, c =>
    if c.atDocumentMark then none
    else match c.rest with
      | [] => none
      | x :: r =>
        if isBlank x || isBreak x then do
          let (run, d) := gap c
          let (t, e) ← quotedFrom? q fuel d
          return ((Gap.ofRun run).folded ++ t, e)
        else if x == q then
          if q == '\'' && r.head? == some '\'' then do
            let (t, d) ← quotedFrom? q fuel (c.skip 2)
            return ('\'' :: t, d)
          else some ([], c.next)
        else if q == '"' && x == '\\' then
          if r.head?.any isBreak then do
            let (run, d) := gap c.next.skipBreak
            let (t, e) ← quotedFrom? q fuel d
            return (breaksIn run ++ t, e)
          else do
            let (y, n) ← escape? r
            let (t, d) ← quotedFrom? q fuel (c.skip n)
            return (y :: t, d)
        else do
          let (t, d) ← quotedFrom? q fuel c.next
          return (x :: t, d)

def quoted? (q : Char) (c : Cursor) : Option (List Char × Cursor) := quotedFrom? q (c.rest.length + 1) c.next

/-! ## Blocks of lines -/

/-- What happens to the line breaks at the end of a block. -/
inductive Chomping where
  | clip | strip | keep
  deriving DecidableEq

/-- The marks after the first character of a block: chomping and depth, in any order. -/
def blockMarks? (c : Cursor) : Option (Chomping × Option Nat × Cursor) :=
  let chomping (c : Cursor) : Chomping × Cursor :=
    match c.peek with
    | some '+' => (.keep, c.next)
    | some '-' => (.strip, c.next)
    | _ => (.clip, c)
  let depth? (c : Cursor) : Option (Option Nat × Cursor) :=
    match c.peek with
    | some x =>
      if x == '0' then none
      else if x.isDigit then some (some (x.toNat - 48), c.next)
      else some (none, c)
    | none => some (none, c)
  match chomping c with
  | (.clip, _) => do
    let (n, d) ← depth? c
    if n.isSome then
      let (k, e) := chomping d
      return (k, n, e)
    else return (.clip, none, d)
  | (k, d) => do
    let (n, e) ← depth? d
    return (k, n, e)

/-- Passes blank lines and the blanks in front of a line. `depth` is zero as long as it is not known; the deepest
column is found on the way. A tab must not stand among the blanks. -/
def blockGap? (depth : Nat) : Nat → List Char → Nat → Cursor → Option (List Char × Nat × Cursor)
  | 0, _, _, _ => none
  | fuel + 1, breaks, deepest, c =>
    let blanks := c.rest.takeWhile (· == ' ')
    let blanks := if depth == 0 then blanks else blanks.take (depth - c.column)
    let d := c.skip blanks.length
    let deepest := max deepest d.column
    match d.peek with
    | some x =>
      if x == '\t' && (depth == 0 || d.column < depth) then none
      else if isBreak x then blockGap? depth fuel (breaks ++ breaksIn (d.rest.take 1)) deepest d.skipBreak
      else some (breaks, deepest, d)
    | none => some (breaks, deepest, d)

/-- The lines of a block that is `depth` deep. `brk` is the line break before a line, `more` the blank lines after it, and
`wasDeep` tells whether the line before started with a blank. The result is the text, and the breaks at its end. -/
def blockLines? (literal : Bool) (depth : Nat) :
    Nat → Bool → List Char → List Char → Cursor → Option (List Char × List Char × List Char × Cursor)
  | 0, _, _, _, _ => none
  | fuel + 1, wasDeep, brk, more, c =>
    if c.column != depth || c.rest.isEmpty then some ([], brk, more, c)
    else
      let isDeep := c.rest.head?.any isBlank
      let joint :=
        if !literal && !wasDeep && !isDeep && brk.head? == some '\n' then (if more.isEmpty then [' '] else []) else brk
      let (line, d) := c.run fun x => !isBreak x
      do
        let (more', _, e) ← blockGap? depth (d.rest.length + 1) [] 0 d.skipBreak
        let (t, brk'', more'', f) ← blockLines? literal depth fuel isDeep (breaksIn (d.rest.take 1)) more' e
        return (joint ++ more ++ line ++ t, brk'', more'', f)

/-- A block of lines inside something that is `around` deep. -/
def block? (literal : Bool) (around : Int) (c : Cursor) : Option (List Char × Cursor) := do
  let (chomping, marked, d) ← blockMarks? c.next
  let d := d.skipBlanks
  let d := if d.peek == some '#' then d.skipToBreak else d
  if !Cursor.endsLine d.rest then none
  else
    let d := d.skipBreak
    let depth := match marked with
      | some n => (max around 0).toNat + n
      | none => 0
    let (more, deepest, e) ← blockGap? depth (d.rest.length + 1) [] 0 d
    let depth := if depth == 0 then max (max deepest (around + 1).toNat) 1 else depth
    let (t, brk, more, f) ← blockLines? literal depth (e.rest.length + 1) false [] more e
    let tail := match chomping with
      | .strip => []
      | .clip => brk
      | .keep => brk ++ more
    return (t ++ tail, f)

/-! ## Properties and directives -/

/-- Whether a character can stand in the names of anchors and directives. -/
def isNameChar (c : Char) : Bool := c.isAlphanum || c == '_' || c == '-'

/-- The name after the mark of an anchor or an alias. -/
def anchorName? (c : Cursor) : Option (List Char × Cursor) :=
  let (name, d) := c.next.run isNameChar
  let ends := Cursor.endsWord d.rest || d.rest.head?.any fun x => "?:,]\x7d%@\x60".toList.contains x
  if !name.isEmpty && ends then some (name, d) else none

/-- Whether a character can stand in a tag. -/
def isTagChar (c : Char) : Bool := isNameChar c || ";/?:@&=+$,.!~*'()[]%".toList.contains c

/-- The number of bytes that a byte starts a code point of. -/
def leadWidth? (b : UInt8) : Option Nat :=
  if b < 0x80 then some 1
  else if 0xC0 ≤ b && b < 0xE0 then some 2
  else if 0xE0 ≤ b && b < 0xF0 then some 3
  else if 0xF0 ≤ b && b < 0xF8 then some 4
  else none

/-- The byte of an escape, a percent sign with two hexadecimal digits. -/
def escapedByte? : List Char → Option UInt8
  | '%' :: a :: b :: _ => (Text.toNatBase? 16 (Text.ofChars [a, b])).map UInt8.ofNat
  | _ => none

/-- The bytes of escapes that together spell one code point. -/
def escapedBytes? : Nat → Cursor → Option (Text × Cursor)
  | 0, c => some ([], c)
  | n + 1, c => do
    let b ← escapedByte? c.rest
    if !Text.isContinuation b then none
    else
      let (t, d) ← escapedBytes? n (c.skip 3)
      return (b :: t, d)

def tagChars? : Nat → Cursor → Option (Text × Cursor)
  | 0, _ => none
  | fuel + 1, c =>
    match c.peek with
    | some '%' => do
      let b ← escapedByte? c.rest
      let (t, d) ← escapedBytes? ((← leadWidth? b) - 1) (c.skip 3)
      let (more, e) ← tagChars? fuel d
      return (b :: t ++ more, e)
    | some x =>
      if isTagChar x then do
        let (t, d) ← tagChars? fuel c.next
        return (Text.ofChar x ++ t, d)
      else some ([], c)
    | none => some ([], c)

/-- The characters of a tag, of which there must be some. -/
def tagUri? (c : Cursor) : Option (Text × Cursor) :=
  (tagChars? (c.rest.length + 1) c).filter fun (t, _) => !t.isEmpty

/-- The handle of a tag: an exclamation mark, and a name with another one after it, if there is one. -/
def tagHandle? (c : Cursor) : Option (Text × Cursor) :=
  if c.peek != some '!' then none
  else
    let (name, d) := c.next.run isNameChar
    if d.peek == some '!' then some (Text.ofChars ('!' :: name ++ ['!']), d.next)
    else some (Text.ofChars ('!' :: name), d)

/-- A tag as it is written: a handle, which a directive may explain, and what follows it. -/
structure WrittenTag where
  handle : Text
  suffix : Text
  deriving DecidableEq

def tag? (c : Cursor) : Option (WrittenTag × Cursor) := do
  let (t, d) ← match c.rest with
    | '!' :: '<' :: _ => do
      let (uri, d) ← tagUri? (c.skip 2)
      if d.peek == some '>' then some (WrittenTag.mk [] uri, d.next) else none
    | _ => do
      let (handle, d) ← tagHandle? c
      if 1 < handle.length && handle.getLast? == some 33 then
        let (uri, e) ← tagUri? d
        pure (WrittenTag.mk handle uri, e)
      else
        let (more, e) ← tagChars? (d.rest.length + 1) d
        let suffix := handle.drop 1 ++ more
        pure (if suffix.isEmpty then WrittenTag.mk [] handle else WrittenTag.mk "!" suffix, e)
  if Cursor.endsWord d.rest then some (t, d) else none

/-- What a directive says. -/
inductive Directive where
  | version (major minor : Nat)
  | tag (handle start : Text)
  deriving DecidableEq

/-- A number of a version: one or two digits. -/
def versionNumber? (c : Cursor) : Option (Nat × Cursor) :=
  let (digits, d) := c.run Char.isDigit
  if digits.length ≤ 2 then (Text.toNat? (Text.ofChars digits)).map fun n => (n, d) else none

def versionDirective? (c : Cursor) : Option (Directive × Cursor) := do
  let (major, d) ← versionNumber? c.skipBlanks
  if d.peek != some '.' then none
  else
    let (minor, e) ← versionNumber? d.next
    return (.version major minor, e)

def tagDirective? (c : Cursor) : Option (Directive × Cursor) := do
  let (handle, d) ← tagHandle? c.skipBlanks
  let isWhole := handle == text "!" || (1 < handle.length && handle.getLast? == some 33)
  if !isWhole || !d.peek.any isBlank then none
  else
    let (start, e) ← tagUri? d.skipBlanks
    if Cursor.endsWord e.rest then some (.tag handle start, e) else none

/-- A directive, to the end of its line. -/
def directive? (c : Cursor) : Option (Directive × Cursor) := do
  let (name, d) := c.next.run isNameChar
  if !Cursor.endsWord d.rest then none
  else
    let (value, e) ←
      if name == "YAML".toList then versionDirective? d
      else if name == "TAG".toList then tagDirective? d
      else none
    let e := e.skipBlanks
    let e := if e.peek == some '#' then e.skipToBreak else e
    if Cursor.endsLine e.rest then some (value, e.skipBreak) else none

/-! ## Comments -/

/-- How far comments are looked for. -/
def commentReach : Nat := 512

/-- Passes a comment and those on the lines below it, also with blank lines in between. The cursor is at the mark of
the first comment, and afterwards at the end of a line. -/
def skipComments : Nat → Cursor → Cursor
  | 0, c => c
  | fuel + 1, c =>
    let d := c.skipToBreak
    let between := (d.rest.drop 1).takeWhile fun x => isBlank x || isBreak x
    if between.length + 1 < commentReach && (d.rest.drop (between.length + 1)).head? == some '#' then
      skipComments fuel (d.skip (between.length + 1))
    else d

/-- Passes a comment on the line of a token. -/
def skipLineComment (c : Cursor) : Cursor :=
  let blanks := c.rest.takeWhile isBlank
  if c.breaks == 0 && blanks.length < commentReach && (c.rest.drop blanks.length).head? == some '#' then
    c.skipToBreak
  else c

end DocAccessors.Yaml
