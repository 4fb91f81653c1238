import DocAccessors.Number.Basic
import DocAccessors.Position.Path

/-!
# Positions

All files of a run share one line of integer positions: each file occupies the positions from its base to its
base plus its size, and the next file starts one further. Position zero is no position.

* `Span` is a half-open range of positions;
* `SourceFile` knows where its lines start and where line directives renumber them;
* `FileSet` finds the file of a position; `Place` is the answer in words of file, line and column.
-/

namespace DocAccessors

/-- A position; `0` is none. -/
abbrev Pos := Int

/-- A half-open range of positions. -/
structure Span where
  pos : Pos := 0
  stop : Pos := 0
  deriving DecidableEq, Repr, Inhabited

namespace Span

/-- The span of `n` bytes from `pos` on. -/
def ofLength (pos : Pos) (n : Nat) : Span := ⟨pos, pos + n⟩

/-- Whether the span points somewhere. -/
def isValid (s : Span) : Bool := s.pos != 0

/-- The number of positions covered; negative when the ends are reversed. -/
def length (s : Span) : Int := s.stop - s.pos

end Span

/-- A line directive: from `offset` on, lines are numbered from `line` in the file `name`. Directives may number
lines below zero. -/
structure LineMark where
  offset : Nat
  name : Text
  line : Int
  column : Int
  deriving DecidableEq, Repr

/-- A file in a file set. -/
structure SourceFile where
  name : Text
  base : Nat
  size : Nat
  /-- The offsets at which lines start, in increasing order; the first is `0`, if there is one. -/
  lineStarts : List Nat
  marks : List LineMark := []
  deriving DecidableEq, Repr

/-- A position as people read it. A line below one is an unknown line, column `0` an unknown column. -/
structure Place where
  file : Text := []
  offset : Nat := 0
  line : Int := 0
  column : Int := 0
  deriving DecidableEq, Repr, Inhabited

def Place.isKnown (p : Place) : Bool := 0 < p.line

/-- `file:line:column`, leaving out what is unknown. -/
def Place.render (p : Place) : Text :=
  let s :=
    if p.isKnown then
      (if p.file.isEmpty then [] else p.file ++ text ":") ++ Text.ofInt p.line ++
        (if p.column = 0 then [] else text ":" ++ Text.ofInt p.column)
    else p.file
  if s.isEmpty then "-" else s

/-- Where the lines of a text start; a line break at the very end starts none. -/
def Text.lineStartsFrom (offset : Nat) : Text → List Nat
  | [] => []
  | [_] => []
  | b :: r => if b == 10 then (offset + 1) :: lineStartsFrom (offset + 1) r else lineStartsFrom (offset + 1) r

/-- Where the lines of a text start; the empty text has no line. -/
def Text.lineStarts (t : Text) : List Nat := if t.isEmpty then [] else 0 :: Text.lineStartsFrom 0 t

namespace SourceFile

def ofText (name : Text) (base : Nat) (contents : Text) : SourceFile :=
  ⟨name, base, contents.length, Text.lineStarts contents, []⟩

def pos (f : SourceFile) (offset : Nat) : Pos := (f.base + offset : Nat)

/-- The lines that start at or before an offset. -/
def linesUpTo (f : SourceFile) (offset : Nat) : List Nat := f.lineStarts.takeWhile (· ≤ offset)

/-- The physical line of an offset, counted from one. -/
def lineOf (f : SourceFile) (offset : Nat) : Nat := (f.linesUpTo offset).length

/-- The physical line of an offset and its column, both counted from one; zero when there is no line. -/
def physical (f : SourceFile) (offset : Nat) : Nat × Nat :=
  let starts := f.linesUpTo offset
  match starts.getLast? with
  | some start => (starts.length, offset - start + 1)
  | none => (0, 0)

/-- The line and column of an offset after line directives. They are words; a file without lines has none to number
anew. -/
def place (f : SourceFile) (offset : Nat) : Place :=
  let offset := min offset f.size
  let (line, column) := f.physical offset
  match (f.marks.takeWhile (·.offset ≤ offset)).getLast? with
  | none => ⟨f.name, offset, line, column⟩
  | some m =>
    let marked := f.lineOf m.offset
    if marked = 0 then ⟨m.name, offset, line, column⟩
    else
      let d := line - marked
      { file := m.name
        offset := offset
        line := word (m.line + d)
        column :=
          if m.column = 0 then 0 else if d = 0 then word (m.column + (offset - m.offset : Nat)) else column }

end SourceFile

/-- The files of a run, in increasing order of their bases. -/
structure FileSet where
  files : List SourceFile := []
  deriving Inhabited

namespace FileSet

def nextBase (s : FileSet) : Nat :=
  match s.files.getLast? with
  | some f => f.base + f.size + 1
  | none => 1

/-- The file set with one more file. -/
def add (s : FileSet) (f : SourceFile) : FileSet := ⟨s.files ++ [f]⟩

/-- The file that holds a position. -/
def file? (s : FileSet) (p : Pos) : Option SourceFile :=
  if p = 0 then none else s.files.find? fun f => (f.base : Int) ≤ p && p ≤ (f.base + f.size : Nat)

/-- The place of a position; the empty place when no file holds it. -/
def place (s : FileSet) (p : Pos) : Place :=
  match s.file? p with
  | some f => f.place (p - f.base).toNat
  | none => {}

end FileSet

end DocAccessors
