import DocAccessors.Layout.Columns
import DocAccessors.Layout.DocComment
import DocAccessors.Number.Basic
import DocAccessors.Source.Item

/-!
# Printing tokens

The state of writing a syntax tree in its canonical layout. Tokens are written one after the other; white space
between them is held back until the next token, so that comments of the source can be put in at the right place.
Line breaks follow the source: a blank line is kept, more than one becomes one.

* `Print` writes; `State` is what has been written and what is held back;
* `token`, `name`, `literal` write an item, `space` holds white space back;
* `flush` writes what is held back, with the comments that stand before a place of the source.
-/

namespace DocAccessors.Layout

open DocAccessors.Source (Token Comment CommentGroup)

/-- White space that is held back. -/
inductive Space where
  | ignore | blank | softTab | newline | formFeed | indent | unindent
  deriving DecidableEq, Repr

/-- A place in the source; line `0` is no place. -/
structure Cursor where
  offset : Nat := 0
  line : Nat := 0
  column : Nat := 0
  deriving DecidableEq, Repr, Inhabited

/-- Whether the cursor is at a place. -/
def Cursor.isValid (c : Cursor) : Bool := 0 < c.line

/-- What has been written and what is held back. -/
structure State where
  file : SourceFile
  /-- Whether numbers are written in their canonical spelling. -/
  canonicalNumbers : Bool
  /-- The output, last piece first. -/
  out : List Piece := []
  outLine : Nat := 1
  outColumn : Nat := 1
  indent : Nat := 0
  /-- The nesting of composite literals. -/
  level : Nat := 0
  noExtraBlank : Bool := false
  noExtraLinebreak : Bool := false
  /-- Whether alignment ends with this line. -/
  endAlignment : Bool := false
  /-- Whether a line break would end a statement here. -/
  impliedSemi : Bool := false
  /-- The last token; none after white space. -/
  lastToken : Option Token := none
  /-- The opening bracket before the last token. -/
  prevOpen : Option Token := none
  /-- The white space held back, in order. -/
  held : List Space := []
  /-- Where the next item stands in the source. -/
  pos : Cursor := ⟨0, 1, 1⟩
  /-- Where the last item ended in the source. -/
  last : Cursor := {}
  /-- The comments not written yet. -/
  comments : List CommentGroup := []
  /-- Whether the line of the next token is to be noted, and the line noted. -/
  marking : Bool := false
  mark : Option Nat := none

/-- Writes to the output. -/
abbrev Print := StateM State

def State.cursor (s : State) (offset : Nat) : Cursor :=
  let (line, column) := s.file.physical offset
  ⟨offset, line, column⟩

def State.lineOf (s : State) (offset : Nat) : Nat := s.file.lineOf offset

def lineOf (offset : Nat) : Print Nat := return (← get).lineOf offset

def cursor (offset : Nat) : Print Cursor := return (← get).cursor offset

/-! ## Bytes -/

/-- Writes white space `n` times. Where alignment has ended, it no longer aligns. -/
def writeSpace (p : Piece) (n : Nat) : Print Unit := modify fun s =>
  let isBreak := p == .newline || p == .formFeed
  let piece := if s.endAlignment then
      (if isBreak then .formFeed else .blank)
    else p
  let s := { s with
    out := List.replicate n piece ++ s.out
    endAlignment := s.endAlignment && !isBreak
    pos := { s.pos with offset := s.pos.offset + n } }
  if isBreak then
    { s with
      outLine := s.outLine + n
      outColumn := 1
      pos := { s.pos with line := s.pos.line + n, column := 1 } }
  else
    { s with outColumn := s.outColumn + n, pos := { s.pos with column := s.pos.column + n } }

def State.writeIndent (s : State) : State :=
  { s with
    out := List.replicate s.indent .tab ++ s.out
    outColumn := s.outColumn + s.indent
    pos := { s.pos with offset := s.pos.offset + s.indent, column := s.pos.column + s.indent } }

def Cursor.after (c : Cursor) (t : Text) : Cursor :=
  let breaks := t.count 10
  if breaks = 0 then { c with offset := c.offset + t.length, column := c.column + t.length }
  else
    let tail := t.length - ((Text.lastIndexOf? t 10).getD 0)
    ⟨c.offset + t.length, c.line + breaks, tail⟩

/-- Writes a text that stands at a place. -/
def writeText (at' : Cursor) (t : Text) : Print Unit := modify fun s =>
  let s := if s.outColumn = 1 then s.writeIndent else s
  let start := if at'.isValid then at' else s.pos
  let breaks := t.count 10
  let stop := start.after t
  { s with
    out := .text t :: s.out
    pos := stop
    last := stop
    endAlignment := s.endAlignment || 0 < breaks
    outLine := s.outLine + breaks
    outColumn := if breaks = 0 then s.outColumn + t.length else stop.column }

/-- Writes one piece of held white space. -/
def writeHeldOne : Space → Print Unit
  | .ignore => pure ()
  | .indent => modify fun s => { s with indent := s.indent + 1 }
  | .unindent => modify fun s => { s with indent := s.indent - 1 }
  | .blank => writeSpace .blank 1
  | .softTab => writeSpace .softTab 1
  | .newline => writeSpace .newline 1
  | .formFeed => writeSpace .formFeed 1

/-- Writes white space in order. An unindent behind a line break comes before it and ends the section. -/
def writeSpaces : List Space → Print Unit
  | [] => pure ()
  | [w] => writeHeldOne w
  | w :: v :: ws => do
    if (w == .newline || w == .formFeed) && v == .unindent then
      writeHeldOne .unindent
      writeSpaces (.formFeed :: ws)
    else
      writeHeldOne w
      writeSpaces (v :: ws)
  termination_by ws => ws.length

/-- Writes the first `n` pieces of the white space held back. -/
def writeHeld (n : Nat) : Print Unit := do
  let held := (← get).held
  writeSpaces (held.take n)
  modify fun s => { s with held := held.drop n }

/-! ## Comments -/

/-- Whether a comment is one that ends with its line. -/
def isLineComment (t : Text) : Bool := t[1]? == some 47

/-- The offset of the next comment, if there is one. -/
def State.commentOffset? (s : State) : Option Nat := s.comments.head?.bind fun g => g.head?.map (·.offset)

/-- Whether a comment group takes up more than its line. -/
def State.hasNewline (s : State) (g : CommentGroup) : Bool :=
  match g with
  | [] => false
  | c :: _ =>
    g.any fun d => s.lineOf d.offset != s.lineOf c.offset || isLineComment d.text || d.text.any (· == 10)

/-- Whether the next comment stands before a place and can be written there without ending a statement. `none` is
the end of the file. -/
def State.commentBefore (s : State) (next : Option Cursor) : Bool :=
  match s.comments.head?, s.commentOffset? with
  | some g, some o => next.all (o < ·.offset) && !(s.impliedSemi && s.hasNewline g)
  | _, _ => false

/-- The number of bytes of the comments before a place. -/
def State.commentSize (s : State) (next : Cursor) : List CommentGroup → Nat
  | [] => 0
  | g :: gs =>
    if { s with comments := g :: gs }.commentBefore (some next) then
      total (g.map (·.text.length)) + s.commentSize next gs
    else 0

/-- At most one blank line. -/
def breakLimit (n : Nat) : Nat := min n 2

/-- What is done with the white space held back before a comment: what is kept, which of it is written first, and
what was seen. -/
structure Prefixed where
  held : List Space
  count : Nat
  seen : Bool

/-- Before a comment on the line of the last item: blanks are dropped, and tabs are noted. -/
def sameLinePrefix : List Space → List Space → Bool → Prefixed
  | done, [], seen => ⟨done.reverse, 0, seen⟩
  | done, w :: ws, seen =>
    match w with
    | .blank => sameLinePrefix (.ignore :: done) ws seen
    | .softTab => sameLinePrefix (w :: done) ws true
    | .indent => sameLinePrefix (w :: done) ws seen
    | _ => ⟨done.reverse ++ w :: ws, done.length, seen⟩

/-- Before a comment on another line: horizontal white space is dropped; an unindent is kept for what comes after
the comment unless the comment is aligned with it; the first line break is dropped, and noted. -/
def otherLinePrefix (aligned : Bool) : List Space → List Space → Prefixed
  | done, [] => ⟨done.reverse, 0, false⟩
  | done, w :: ws =>
    match w with
    | .blank | .softTab => otherLinePrefix aligned (.ignore :: done) ws
    | .indent => otherLinePrefix aligned (w :: done) ws
    | .unindent =>
      if ws.head? == some .unindent || aligned then otherLinePrefix aligned (w :: done) ws
      else ⟨done.reverse ++ w :: ws, done.length, false⟩
    | .newline | .formFeed => ⟨done.reverse ++ .ignore :: ws, done.length, true⟩
    | .ignore => ⟨done.reverse ++ w :: ws, done.length, false⟩

/-- Writes the white space before a comment. `next` is the place of the item after the comments, `prev` the comment
written before, `tok` the next token; none of them at the end of the file. -/
def writeCommentPrefix (at' : Cursor) (next : Option Cursor) (prev : Option Comment) (tok : Option Token) :
    Print Unit := do
  let s ← get
  if s.out.isEmpty then return
  let afterLineComment := prev.any fun c => isLineComment c.text
  if at'.line == s.last.line && !afterLineComment then
    let mut hasTab := false
    if prev.isNone then
      let p := sameLinePrefix [] s.held false
      hasTab := p.seen
      modify fun s => { s with held := p.held }
      writeHeld p.count
    if !hasTab then
      writeSpace (if next.any fun n => n.line == at'.line then .blank else .tab) 1
  else
    let aligned := tok != some .rbrace && next.any fun n => n.column == at'.column
    let p := otherLinePrefix aligned [] s.held
    modify fun s => { s with held := p.held }
    writeHeld p.count
    let s ← get
    let n := if s.last.isValid then at'.line - s.last.line else 0
    let n := if s.indent = 0 && p.seen && prev.isNone then n + 1 else n
    let n := if n = 0 && afterLineComment then 1 else n
    if 0 < n then writeSpace .formFeed (breakLimit n)

def isBlankByte (b : UInt8) : Bool := b ≤ 32

/-- What two texts start with in common, up to the first byte that is neither white space nor a star. -/
def commonStart : Text → Text → Text
  | a :: s, b :: t => if a == b && (isBlankByte a || a == 42) then a :: commonStart s t else []
  | _, _ => []

/-- The text without the white space at its end. -/
def trimRight (t : Text) : Text := Text.trimEnd t

/-- The white space after the opening of a block comment, as it is expected before the text of later lines. -/
def openingSuffix (first : Text) : Text :=
  let gap := (first.drop 2).takeWhile isBlankByte
  if gap.head? == some 9 then gap else text "  " ++ gap

/-- The start of lines without up to three blanks, or one tab, at its end. -/
def dropOpening (start : Text) : Text :=
  let blanks := min 3 (start.reverse.takeWhile (· == 32)).length
  if 0 < blanks then start.take (start.length - blanks) else Text.dropEnd start "\t"

/-- The white space that the lines of a block comment after the first have in common, and whether the lines start
with stars. -/
def commonIndent (first : Text) (inner : List Text) (last : Text) : Text × Bool :=
  let start := match inner.filter fun l => !l.all isBlankByte with
    | [] => commonStart last last
    | l :: ls => ls.foldl commonStart (commonStart l l)
  match Text.indexOf? start 42 with
  | some i => (Text.dropEnd (start.take i) " ", true)
  | none =>
    if (first.drop 2).all isBlankByte then (dropOpening start, false)
    else (Text.dropEnd start (openingSuffix first), false)

/-- The lines of a block comment with their common indentation removed. -/
def stripIndent (lines : List Text) : List Text :=
  match lines with
  | [] => []
  | [l] => [l]
  | first :: rest =>
    let last := rest.getLast?.getD []
    let inner := rest.dropLast.map fun l => if l.all isBlankByte then [] else l
    let (start, stars) := commonIndent first inner last
    let closesOnly := last.dropLast.dropLast.all isBlankByte
    let (start, last) :=
      if closesOnly then (start, start ++ (if stars then text " */" else text "*/"))
      else (commonStart start last, last)
    first :: ((inner ++ [last]).map fun l => if l.isEmpty then l else l.drop start.length)

def writeCommentLines (at' : Cursor) : List Text → Print Unit
  | [] => pure ()
  | l :: ls => do
    if !l.isEmpty then writeText at' (trimRight l)
    if !ls.isEmpty then writeSpace .formFeed 1
    writeCommentLines (← get).pos ls

def writeComment (c : Comment) : Print Unit := do
  let s ← get
  let at' := s.cursor c.offset
  if isLineComment c.text then
    if Text.startsWith c.text "//line " && at'.column == 1 then
      modify fun s => { s with indent := 0 }
      writeText at' (trimRight c.text)
      modify fun t => { t with indent := s.indent }
    else writeText at' (trimRight c.text)
  else
    let lines := Text.lines c.text
    let lines := match lines with
      | [] => []
      | l :: ls => l :: (if at'.column == 1 && 0 < s.indent then ls.map (text "   " ++ ·) else ls)
    writeCommentLines at' (stripIndent lines)

/-- The white space held back after comments: horizontal space is dropped, and so are line breaks, apart from one
if a break is needed. With it: whether a break is still needed, and whether a form feed was dropped. -/
def suffixSpaces : Bool → List Space → List Space × Bool × Bool
  | needs, [] => ([], needs, false)
  | needs, w :: ws =>
    match w with
    | .newline | .formFeed =>
      if needs then
        let (r, n, d) := suffixSpaces false ws
        (w :: r, n, d)
      else
        let (r, n, d) := suffixSpaces false ws
        (r, n, d || w == .formFeed)
    | .indent | .unindent =>
      let (r, n, d) := suffixSpaces needs ws
      (w :: r, n, d)
    | _ => suffixSpaces needs ws

/-- Writes what is held back after comments; whether a line break was written, and whether a form feed was
dropped. -/
def writeCommentSuffix (needs : Bool) : Print (Bool × Bool) := do
  let (held, missing, dropped) := suffixSpaces needs (← get).held
  modify fun s => { s with held }
  writeHeld held.length
  if missing then writeSpace .newline 1
  return (needs, dropped)

def writeGroup (next : Option Cursor) (tok : Option Token) : Option Comment → List Comment → Print (Option Comment)
  | last, [] => return last
  | last, c :: cs => do
    writeCommentPrefix ((← get).cursor c.offset) next last tok
    writeComment c
    writeGroup next tok (some c) cs

/-- A keyword that starts a declaration which may be documented. -/
def isDocumentable : Token → Bool
  | .kConst | .kFunc | .kType | .kVar => true
  | _ => false

/-- Whether a group of comments is the documentation of the declaration at the next place: it starts in the first
column and ends right before it. -/
def State.documents (s : State) (g : CommentGroup) (next : Option Cursor) (tok : Option Token) : Bool :=
  match g.head?, g.getLast? with
  | some first, some last =>
    tok.any isDocumentable && (s.cursor first.offset).column == 1 &&
      next == some (s.cursor (last.offset + last.text.length + 1))
  | _, _ => false

/-- The comments of a group as they are written: documentation is in canonical layout. Whether they have changed is
told with them. -/
def State.groupLayout (s : State) (g : CommentGroup) (next : Option Cursor) (tok : Option Token) :
    CommentGroup × Bool :=
  if s.documents g next tok then
    match g.head?, DocComment.format (g.map (·.text)) with
    | some first, some texts => (texts.map fun t => { first with text := t }, true)
    | _, _ => (g, true)
  else (g, false)

/-- Takes up writing where a group of comments ends in the source. -/
def resumeAfter (g : CommentGroup) : Print Unit := modify fun s =>
  match g.getLast? with
  | some c =>
    let stop := s.cursor (c.offset + c.text.length)
    { s with pos := stop, last := stop }
  | none => s

/-- Writes the comments before a place, at most `fuel` groups of them; the last comment, and whether a group came to
nothing. -/
def writeCommentsBefore (next : Option Cursor) (tok : Option Token) :
    Nat → Option Comment → Print (Option Comment × Bool)
  | 0, last => return (last, false)
  | fuel + 1, last => do
    let s ← get
    match s.comments with
    | g :: gs =>
      if s.commentBefore next then
        let (written, changed) := s.groupLayout g next tok
        match written, g, next with
        | [], c :: _, some next =>
          writeCommentPrefix (s.cursor c.offset) (some next) last tok
          modify fun s => { s with comments := gs, pos := next, last := next }
          return (last, true)
        | _, _, _ =>
          let last' ← writeGroup next tok last written
          if changed then resumeAfter g
          modify fun s => { s with comments := gs }
          writeCommentsBefore next tok fuel (if changed then g.getLast? else last')
      else return (last, false)
    | [] => return (last, false)

/-- Writes the comments before a place together with the white space held back. -/
def intersperse (next : Option Cursor) (tok : Option Token) : Print (Bool × Bool) := do
  match ← writeCommentsBefore next tok (← get).comments.length none with
  | (_, true) => writeCommentSuffix false
  | (none, false) => return (false, false)
  | (some last, false) =>
    let s ← get
    let isLine := isLineComment last.text
    let breaks := s.held.any fun w => w == .newline || w == .formFeed
    let separates := !s.noExtraBlank && !isLine && next.any (fun n => n.line == s.lineOf last.offset) &&
      tok != some .comma && (tok != some .rparen || s.prevOpen == some .lparen) &&
      (tok != some .rbrack || s.prevOpen == some .lbrack)
    let breaksHere := separates && breaks && !s.noExtraLinebreak && s.level = 0
    if separates && !breaksHere then writeSpace .blank 1
    writeCommentSuffix
      (breaksHere || isLine || tok.isNone || (tok == some .rbrace && !s.noExtraLinebreak))

/-- Writes all that is held back before an item; whether a line break was written, and whether a form feed was
dropped. -/
def flush (next : Option Cursor) (tok : Option Token) : Print (Bool × Bool) := do
  let s ← get
  if s.commentBefore next then intersperse next tok
  else
    writeHeld s.held.length
    return (false, false)

/-! ## Items -/

/-- Notes an opening bracket before the next item. -/
def noteOpen : Print Unit := modify fun s =>
  match s.lastToken with
  | none => s
  | some .lparen => { s with prevOpen := some .lparen }
  | some .lbrack => { s with prevOpen := some .lbrack }
  | some _ => { s with prevOpen := none }

/-- Holds white space back. -/
def space (w : Space) : Print Unit := do
  noteOpen
  if w == .ignore then return
  modify fun s => { s with
    held := s.held ++ [w]
    impliedSemi := s.impliedSemi && !(w == .newline || w == .formFeed)
    lastToken := none }

def writeItem (tok : Token) (t : Text) (impliedSemi : Bool) : Print Unit := do
  modify fun s => { s with lastToken := some tok }
  let next := (← get).pos
  let (wrote, dropped) ← flush (some next) (some tok)
  let s ← get
  let n := if s.impliedSemi then 0 else breakLimit (next.line - s.pos.line)
  let n := if wrote && n == 2 then 1 else n
  if 0 < n then writeSpace (if dropped then .formFeed else .newline) n
  modify fun s => if s.marking then { s with marking := false, mark := some s.outLine } else s
  writeText next t
  modify fun s => { s with impliedSemi := impliedSemi && n = 0 }

/-- Whether a token and the one before it would read as another token. -/
def mayCombine (before : Option Token) (t : Text) : Bool :=
  match before, t.head? with
  | some .int, some 46 => true
  | some .add, some 43 => true
  | some .sub, some 45 => true
  | some .quo, some 42 => true
  | some .lss, some 45 | some .lss, some 60 => true
  | some .and, some 38 | some .and, some 94 => true
  | _, _ => false

/-- Whether a line break after a token ends a statement. -/
def endsLine : Token → Bool
  | .kBreak | .kContinue | .kFallthrough | .kReturn | .inc | .dec | .rparen | .rbrack | .rbrace => true
  | _ => false

/-- Writes an operator or a keyword. -/
def token (t : Token) : Print Unit := do
  noteOpen
  if mayCombine (← get).lastToken t.spelling then modify fun s => { s with held := [.blank] }
  writeItem t t.spelling (endsLine t)

def name (t : Text) : Print Unit := do
  noteOpen
  writeItem .ident t true

def literal (kind : Token) (t : Text) : Print Unit := do
  noteOpen
  writeItem kind t true

/-- Sets the place of the next item. -/
def setPos (offset : Nat) : Print Unit := modify fun s => { s with pos := s.cursor offset }

/-- Sets the place of the next item, if it is written in the source. -/
def setPos? : Option Nat → Print Unit
  | some o => setPos o
  | none => pure ()

/-- Writes an operator or a keyword that stands at an offset. -/
def tokenAt (offset : Nat) (t : Token) : Print Unit := do
  setPos offset
  token t

/-- Holds back the line breaks up to a line, at least `least` of them. The first one ends the section if `newSection`
is set. The number of breaks, more for a section. -/
def linebreak (line least : Nat) (w : Space) (newSection : Bool) : Print Nat := do
  let n := max (breakLimit (line - (← get).pos.line)) least
  if n = 0 then return 0
  space w
  if newSection then
    space .formFeed
    for _ in List.range (n - 1) do space .newline
    return n + 1
  else
    for _ in List.range n do space .newline
    return n

/-- Holds back the line breaks up to a line; whether there are any. -/
def breaksLine (line least : Nat) (w : Space) (newSection : Bool) : Print Bool := do
  let n ← linebreak line least w newSection
  return 0 < n

/-- Runs a step and tells on which line of the output its first token stands. -/
def withMark (p : Print Unit) : Print (Option Nat) := do
  let saved := (← get).mark
  modify fun s => { s with marking := true, mark := none }
  p
  let line := (← get).mark
  modify fun s => { s with marking := false, mark := saved }
  return line

/-- Whether output lines have been written since a line. -/
def linesSince (line : Nat) : Print Bool := return line < (← get).outLine

/-- Whether anything has been written. -/
def hasOutput : Print Bool := return !(← get).out.isEmpty

/-- Runs a step with a new nesting of composite literals. -/
def withLevel (f : Nat → Nat) (p : Print Unit) : Print Unit := do
  let old := (← get).level
  modify fun s => { s with level := f s.level }
  p
  modify fun s => { s with level := old }

/-- Writes the closing brace of a composite literal or a short function body, where no white space is put in behind
comments. -/
def closeBrace (noExtraBlank : Bool) (offset : Nat) : Print Unit := do
  let toggle : Print Unit := modify fun s => { s with
    noExtraLinebreak := !s.noExtraLinebreak, noExtraBlank := s.noExtraBlank != noExtraBlank }
  noteOpen
  toggle
  tokenAt offset .rbrace
  noteOpen
  toggle

/-- The output of a step that starts from nothing. -/
def outputOf (file : SourceFile) (canonicalNumbers : Bool) (indent : Nat) (comments : List CommentGroup)
    (p : Print Unit) : List Piece :=
  let run : Print Unit := do
    p
    modify fun s => { s with impliedSemi := false }
    let _ ← flush none none
  ((run.run { file, canonicalNumbers, indent, comments }).2).out.reverse

/-- The number of bytes that a step writes by itself; one more than `limit` if it writes more or breaks the line. -/
def sizeOf (limit indent : Nat) (p : Print Unit) : Print Nat := do
  let ps := trimLine (outputOf (← get).file false indent [] p)
  let n := (ps.flatMap Piece.bytes).length
  return if n ≤ limit && !(ps.flatMap Piece.bytes).any (· == 10) then n else limit + 1

end DocAccessors.Layout
