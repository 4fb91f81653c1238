import DocAccessors.Number.Basic
import DocAccessors.Text.Basic

/-!
# Columns

Output is a list of pieces: texts, blanks, cell ends and line ends. Consecutive lines that have a cell in the same
column are aligned there; a form feed, or a line of a single cell, ends a section, and nothing is aligned across
sections.

* `Piece` is an item of output;
* `Line` is a line cut into cells, `sections` the groups of lines that are aligned together;
* `render` aligns, pads with blanks (leading empty cells with tabs), and drops white space at the ends of lines.
-/

namespace DocAccessors.Layout

/-- An item of output. -/
inductive Piece where
  /-- A text that stays as it is, line breaks included. -/
  | text (t : Text)
  | blank
  /-- The end of a cell that keeps its column even if the column is empty. -/
  | tab
  /-- The end of a cell whose column vanishes if it is empty. -/
  | softTab
  | newline
  /-- The end of a line and of its section. -/
  | formFeed
  deriving DecidableEq, Repr

/-- The number of code points of a text. -/
def runeCount (t : Text) : Nat := (Text.glyphs t).length

namespace Piece

/-- The number of columns that a piece takes up. -/
def width : Piece → Nat
  | .text t => runeCount t
  | .blank => 1
  | _ => 0

/-- Whether a piece is white space that does not count at the end of a line. -/
def isSpace : Piece → Bool
  | .blank | .tab | .softTab => true
  | _ => false

def bytes : Piece → Text
  | .text t => t
  | .blank => " "
  | .tab | .softTab => "\t"
  | .newline | .formFeed => "\n"

end Piece

/-- A cell of a line: what stands in it, and whether its column is kept when empty. -/
structure Cell where
  content : List Piece
  kept : Bool

namespace Cell

/-- The number of columns of a cell. -/
def width (c : Cell) : Nat := total (c.content.map Piece.width)

end Cell

/-- A line: the cells that have ended, and what stands after the last of them. -/
structure Line where
  cells : List Cell
  rest : List Piece

/-- A line as it is read: the cells that have ended and the content of the open one, both last first. -/
structure OpenLine where
  cells : List Cell := []
  content : List Piece := []

/-- The line with nothing more to come. -/
def OpenLine.close (l : OpenLine) : Line := ⟨l.cells.reverse, l.content.reverse⟩

/-- The open line after the end of a cell. -/
def OpenLine.endCell (l : OpenLine) (kept : Bool) : OpenLine := ⟨⟨l.content.reverse, kept⟩ :: l.cells, []⟩

/-- The sections of output: each is a list of lines. `done` holds the lines of the open section, last first. -/
def sectionsFrom (done : List Line) (l : OpenLine) : List Piece → List (List Line)
  | [] => [(l.close :: done).reverse]
  | .newline :: ps =>
    if l.cells.isEmpty then (l.close :: done).reverse :: sectionsFrom [] {} ps
    else sectionsFrom (l.close :: done) {} ps
  | .formFeed :: ps => (l.close :: done).reverse :: sectionsFrom [] {} ps
  | .tab :: ps => sectionsFrom done (l.endCell true) ps
  | .softTab :: ps => sectionsFrom done (l.endCell false) ps
  | p :: ps => sectionsFrom done { l with content := p :: l.content } ps

def sections (ps : List Piece) : List (List Line) := sectionsFrom [] {} ps

/-! ## Alignment -/

/-- How many columns a tab stands for. -/
def tabWidth : Nat := 8

/-- The blanks, or tabs before the first content of a line, that fill a cell up to a width. -/
def padding (width cellWidth : Nat) (leading : Bool) : List Piece :=
  if leading then List.replicate ((cellWidth + tabWidth - 1) / tabWidth) .tab
  else List.replicate (cellWidth - width) .blank

/-- The cells of a line, padded to the widths of their columns as far as these are known; `leading` holds until
the first cell with content. -/
def padCells (leading : Bool) : List Nat → List Cell → List Piece
  | _, [] => []
  | [], c :: cs => c.content ++ padCells (leading && c.content.isEmpty) [] cs
  | w :: ws, c :: cs =>
    if c.content.isEmpty then padding 0 w leading ++ padCells leading ws cs
    else c.content ++ padding c.width w false ++ padCells false ws cs

/-- A line with its cells padded. -/
def Line.pad (widths : List Nat) (l : Line) : List Piece := padCells true widths l.cells ++ l.rest

/-- The width of a column: one more than its widest cell; an empty column that is not kept has none. -/
def columnWidth (cells : List Cell) : Nat :=
  if cells.all fun c => c.width == 0 && !c.kept then 0 else (cells.map fun c => c.width + 1).foldl max 0

/-- The lines at the front that have a cell in a column. -/
def block (column : Nat) (ls : List Line) : List Line := ls.takeWhile fun l => column < l.cells.length

/-- Aligns lines from a column on; `widths` are those of the columns before it. `fuel` bounds the number of steps. -/
def align : Nat → List Nat → List Line → List (List Piece)
  | 0, widths, ls => ls.map (Line.pad widths)
  | _, _, [] => []
  | fuel + 1, widths, l :: ls =>
    let column := widths.length
    match block column (l :: ls) with
    | [] => l.pad widths :: align fuel widths ls
    | b =>
      let width := columnWidth (b.filterMap fun l => l.cells[column]?)
      align fuel (widths ++ [width]) b ++ align fuel widths ((l :: ls).drop b.length)

def alignSection (ls : List Line) : List (List Piece) :=
  align (ls.length + (ls.map fun l => l.cells.length).foldl max 0 + 1) [] ls

/-- A line without the white space at its end. -/
def trimLine (ps : List Piece) : List Piece := (ps.reverse.dropWhile Piece.isSpace).reverse

/-- The bytes of output. -/
def render (ps : List Piece) : Text :=
  Text.join "\n" (((sections ps).flatMap alignSection).map fun l => (trimLine l).flatMap Piece.bytes)

end DocAccessors.Layout
