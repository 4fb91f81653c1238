import DocAccessors.Diagnostic.Bag
import DocAccessors.Text.Width

/-!
# Reports

Diagnostics as people read them: the place, the severity and code, the message, and below it the source line
with the text in question marked. Notes follow, indented.

* `Report.Style` colours severities, notes and marks, or leaves them plain;
* `Report.Context` is what a report needs to know: the file set and the contents of files;
* `Report.diagnostic` and `Report.bag` write one diagnostic and a whole bag.

Cutting a line at a column that it does not have is a fault: `Report.Fault`.
-/

namespace DocAccessors.Report

/-- A part of a report that can be coloured. -/
inductive Part where
  | severity (s : Severity)
  | note
  | mark

/-- The numbers that switch the colour of a part on and off. -/
def Part.codes : Part → Text × Text
  | .severity .error => ("31;1", "0;22")
  | .severity .warning => ("33;1", "0;22")
  | .severity .info => ("36", "0")
  | .note => ("34;1", "0;22")
  | .mark => ("32;1", "0;22")

/-- A text in the colour of a part. -/
def paint (colored : Bool) (p : Part) (t : Text) : Text :=
  if colored then
    let (on, off) := p.codes
    text "\x1b[" ++ on ++ text "m" ++ t ++ text "\x1b[" ++ off ++ text "m"
  else t

/-- What a report needs to know. -/
structure Context where
  files : Option FileSet
  source? : Text → Option Text
  colored : Bool := false

/-- Why a report cannot be written. -/
inductive Fault where
  /-- A line was to be cut where it has no byte. -/
  | outOfRange
  deriving DecidableEq, Repr

/-- The bytes of a text from `lo` up to `hi`; the ends must lie in the text, in order. -/
def slice (t : Text) (lo hi : Int) : Except Fault Text :=
  if 0 ≤ lo ∧ lo ≤ hi ∧ hi ≤ t.length then .ok ((t.drop lo.toNat).take (hi - lo).toNat)
  else .error .outOfRange

def Context.place (c : Context) (p : Pos) : Text :=
  match c.files with
  | some s => if p = 0 then "-" else (s.place p).render
  | none => "-"

/-- A line of a file, without the carriage returns at its end. -/
def Context.line? (c : Context) (file : Text) (n : Int) : Option Text := do
  let src ← c.source? file
  if n < 1 then none
  let line ← (Text.lines src)[n.toNat - 1]?
  return Text.dropEndWhile (· == 13) line

/-- Blanks of the width of each code point of a text; tabs are kept. -/
def pad [Text.Widths] (t : Text) : Text :=
  (Text.chars t).flatMap fun c => if c == '\t' then text "\t" else List.replicate (Text.Widths.ofChar c) 32

/-- Where the marked text of a line starts and ends: columns counted from zero. -/
structure Extent where
  col : Int
  stop : Int

/-- The extent of a span in a line of `length` bytes, given the column of the place of the span. The end of the span
may lie anywhere; where the text ends is a word. -/
def extent (length : Nat) (column : Int) (s : Span) : Extent :=
  let col := min (column - 1) length
  ⟨col, if s.pos < s.stop then min (word (col + (s.stop - s.pos))) length else col⟩

/-- The number of columns to mark. -/
def markWidth [Text.Widths] (line : Text) (s : Span) (e : Extent) : Except Fault Nat := do
  if s.pos < s.stop then
    let w := Text.Widths.ofText (← slice line e.col e.stop)
    return if 0 < w then w else 1
  else return 1

/-- The source line of a span with the span marked below it; nothing when the line is not known. -/
def Context.snippet [Text.Widths] (c : Context) (s : Span) (indent : Text) : Except Fault Text := do
  let some files := c.files | return []
  if !s.isValid then return []
  let start := files.place s.pos
  let some line := c.line? start.file start.line | return []
  let e := extent line.length start.column s
  let width ← markWidth line s e
  let before ← slice line 0 e.col
  return indent ++ line ++ text "\n" ++ indent ++ pad before ++
    paint c.colored .mark (text "^" ++ List.replicate (width - 1) 126) ++ text "\n"

def Context.note [Text.Widths] (c : Context) (n : Note) : Except Fault Text := do
  return text "  " ++ c.place n.span.pos ++ text ": " ++ paint c.colored .note "note" ++ text ": " ++ n.message ++
    text "\n" ++ (← c.snippet n.span "      ")

/-- A diagnostic with its source line and its notes. -/
def Context.diagnostic [Text.Widths] (c : Context) (d : Diagnostic) : Except Fault Text := do
  let head := c.place d.span.pos ++ text ": " ++
    paint c.colored (.severity d.severity) (d.severity.name ++ text "[" ++ d.code.name ++ text "]") ++
    text ": " ++ d.message ++ text "\n"
  let snippet ← c.snippet d.span "    "
  let notes ← d.notes.mapM c.note
  return head ++ snippet ++ notes.flatten

/-- All diagnostics of a bag, and how many were left out. -/
def Context.bag [Text.Widths] (c : Context) (b : Bag) : Except Fault Text := do
  let items ← b.items.mapM c.diagnostic
  let rest :=
    if b.omitted = 0 then []
    else paint c.colored .note "note" ++ text ": " ++ Text.ofNat b.omitted ++ text " more diagnostics omitted\n"
  return items.flatten ++ rest

end DocAccessors.Report
