import DocAccessors.Text.Class

/-!
# Documentation comments in canonical layout

The text of a documentation comment is made of paragraphs, headings, lists, indented code and definitions of links.
`DocComment.format` reads the comments of a group as such a text and writes it again: blocks are divided by one
blank line, list items and code have a fixed indentation, two backquotes or two apostrophes become quotation marks,
directives go to the end, and definitions of links behind the text.

* `Block` is a part of a text; `spans` cuts lines into spans, `blocksOf` makes blocks of them;
* `write` writes blocks and links;
* `format` is the whole, from the comments of a group to theirs in canonical layout.
-/

namespace DocAccessors.Layout.DocComment

/-! ## Lines -/

/-- Whether a line starts with a blank or a tab. -/
def isIndented (l : Text) : Bool := l.head?.any fun b => b == 32 || b == 9

/-- The blanks and tabs that a line starts with. -/
def leading (l : Text) : Text := l.takeWhile fun b => b == 32 || b == 9

/-- What two texts start with in common. -/
def common : Text → Text → Text
  | a :: s, b :: t => if a == b then a :: common s t else []
  | _, _ => []

/-- The lines without empty lines at both ends. -/
def dropEmptyEnds (ls : List Text) : List Text :=
  ((ls.dropWhile List.isEmpty).reverse.dropWhile List.isEmpty).reverse

/-- The lines without the indentation that they have in common; lines of white space become empty. -/
def unindent (ls : List Text) : List Text :=
  match dropEmptyEnds ls with
  | [] => []
  | l :: rest =>
    let start := (rest.filter fun x => !x.isEmpty).foldl (fun s x => common s (leading x)) (leading l)
    let cut := (l :: rest).map fun x =>
      let x := Text.dropStart x start
      if (Text.trim x).isEmpty then [] else x
    dropEmptyEnds cut

/-- The marks that an item of a list without numbers may start with. -/
def bullets : List Char := ['•', '*', '+', '-']

/-- The mark at the start of an item of a list, and what stands behind it. The mark is the number of the item; it
is empty in a list without numbers. -/
def marker? (l : Text) : Option (Text × Text) := do
  let l := Text.trim l
  let first ← Text.firstGlyph? l
  let (number, rest) ←
    if bullets.contains first.char then some ([], l.drop first.width)
    else
      let digits := l.takeWhile Text.isDigitByte
      match l.drop digits.length with
      | b :: r => if !digits.isEmpty && (b == 46 || b == 41) then some (digits, r) else none
      | [] => none
  if isIndented rest && !(Text.trim rest).isEmpty then some (number, rest) else none

/-- Whether a line starts with the mark of an item. -/
def isItem (l : Text) : Bool := (marker? l).isSome

/-! ## Headings -/

/-- A line that is marked as a heading. -/
def isHeading (l : Text) : Bool :=
  match l with
  | 35 :: b :: _ => (b == 32 || b == 9) && Text.trim l != "#"
  | _ => false

/-- The bytes of characters that a heading without a mark does not have. -/
def excluded : List Char := (";:!?+*/=[]_^°&§~%#@<\">\\").toList ++ ['\x7b', '\x7d']

/-- Whether every apostrophe belongs to a final `'s`, and every point has something behind it. -/
def punctuated : Text → Bool
  | [] => true
  | 39 :: r => (r == "s" || Text.startsWith r "s ") && punctuated r
  | 46 :: r => !r.isEmpty && r.head? != some 32 && punctuated r
  | _ :: r => punctuated r

/-- A line that reads as a heading without being marked: it starts with an upper case letter, ends with a letter or
a digit, and has little punctuation. -/
def looksLikeHeading (l : Text) : Bool :=
  let l := Text.trim l
  let cs := Text.chars l
  cs.head?.any (fun c => Text.isLetter c && Text.isUpper c) &&
    cs.getLast?.any (fun c => Text.isLetter c || Text.isDigit c) &&
    !cs.any (fun c => excluded.contains c) && punctuated l

/-! ## Spans -/

/-- What a span of lines is. -/
inductive Kind where
  | list | code | heading | bareHeading | paragraph
  deriving DecidableEq, Repr

/-- Lines that belong together. `apart` says whether an empty line stands before them. -/
structure Span where
  kind : Kind
  lines : List Text
  apart : Bool
  deriving DecidableEq, Repr

/-- How many lines go on with an indented span: empty ones, indented ones, the first `forced`, and the items of a
list that is not indented up to the first empty line. -/
def indentedRun : Nat → Bool → List Text → Nat
  | _, _, [] => 0
  | forced, items, l :: ls =>
    if l.isEmpty || 0 < forced || isIndented l || (items && isItem l) then
      1 + indentedRun (forced - 1) (items && !l.isEmpty) ls
    else 0

/-- The number of lines of an indented span that starts with the given lines. A line with a closing brace right
behind the span belongs to it. -/
def indentedLength (forced : Nat) (l : Text) (ls : List Text) : Nat :=
  let run := 1 + indentedRun (forced - 1) (isItem l && 0 < forced) ls
  let length := max 1 (((l :: ls).take run).reverse.dropWhile List.isEmpty).length
  if ((l :: ls)[length]?).any fun x => Text.startsWith x "\x7d" then length + 1 else length

/-- How many of the lines of a span that is not indented are left to the indented span right behind it: items of a
list, or a line that opens code. -/
def leftOver (ls : List Text) : Nat :=
  match ls.reverse with
  | l :: _ =>
    if isItem l then (ls.reverse.takeWhile isItem).length
    else if Text.endsWith l "\x7b" || Text.endsWith l "\\" then 1 else 0
  | [] => 0

/-- Cuts lines into spans, at most `fuel` of them. The first `forced` lines count as indented. -/
def spans : Nat → Nat → List Text → List Span
  | 0, _, _ => []
  | fuel + 1, forced, lines =>
    let skipped := (lines.takeWhile List.isEmpty).length
    let apart := 0 < skipped
    let forced := forced - skipped
    match lines.drop skipped with
    | [] => []
    | l :: ls =>
      if 0 < forced || isIndented l then
        let n := indentedLength forced l ls
        ⟨if isItem l then .list else .code, (l :: ls).take n, apart⟩ :: spans fuel (forced - n) ((l :: ls).drop n)
      else
        let run := l :: ls.takeWhile fun x => !x.isEmpty && !isIndented x
        let after := (l :: ls).drop run.length
        let left := if after.head?.any fun x => !x.isEmpty && !isItem x then leftOver run else 0
        let n := run.length - left
        if n = 0 then spans fuel run.length (l :: ls)
        else
          let bare := apart && looksLikeHeading l && (ls.head?.any List.isEmpty) &&
            (ls.drop 1).head?.any fun x => !isIndented x
          let kind := if 1 < n then Kind.paragraph
            else if isHeading l then .heading else if bare then .bareHeading else .paragraph
          ⟨kind, run.take n, apart⟩ :: spans fuel left ((l :: ls).drop n)

/-! ## Links -/

/-- A definition of a link. -/
structure Link where
  name : Text
  target : Text
  deriving DecidableEq, Repr

/-- The schemes that a link may start with. -/
def schemes : List Text := ["file", "ftp", "gopher", "http", "https", "mailto", "nntp"]

/-- The link that a line defines: `[name]: target`. -/
def link? (l : Text) : Option Link :=
  match l with
  | 91 :: r =>
    match (List.range r.length).find? fun i => Text.startsWith (r.drop i) "]:" with
    | none => none
    | some i =>
      let rest := r.drop (i + 2)
      let target := Text.trim (rest.drop 1)
      let scheme := target.takeWhile (· != 58)
      if isIndented rest && 1 < rest.length && schemes.contains scheme &&
          Text.startsWith (target.drop scheme.length) "://" then
        some ⟨r.take i, target⟩
      else none
  | _ => none

/-- The links that lines define, if each of them defines one. -/
def links? (ls : List Text) : Option (List Link) := ls.mapM link?

/-! ## Blocks -/

/-- An item of a list: its number, and its paragraphs. -/
structure Item where
  number : Text
  paragraphs : List Text
  deriving DecidableEq, Repr

/-- A part of a text. -/
inductive Block where
  | paragraph (t : Text)
  | heading (t : Text)
  | code (lines : List Text)
  /-- A list; whether an empty line stands before it, and whether one stands between the items. -/
  | list (apart loose : Bool) (items : List Item)
  deriving DecidableEq, Repr

/-- A paragraph, or the links that it defines. -/
def paragraphOf (ls : List Text) : List Text × List Link :=
  match links? ls with
  | some links => ([], links)
  | none => ([Text.join "\n" ls], [])

/-- What has been read of a list: the items, the last of them first; the lines of the paragraph that is being
read, the last of them first; the links defined, and whether an empty line was seen. -/
structure ListReading where
  items : List Item := []
  lines : List Text := []
  links : List Link := []
  loose : Bool := false

/-- Ends the paragraph that is being read. -/
def ListReading.endParagraph (s : ListReading) : ListReading :=
  match s.items with
  | [] => { s with lines := [] }
  | item :: items =>
    let (paragraphs, links) := paragraphOf s.lines.reverse
    let paragraphs := if s.lines.isEmpty then [] else paragraphs
    { s with
      items := { item with paragraphs := item.paragraphs ++ paragraphs } :: items
      lines := []
      links := s.links ++ links }

/-- Reads a line of a list. Only a mark of the same kind as the first starts an item. -/
def ListReading.next (numbered : Bool) (s : ListReading) (l : Text) : ListReading :=
  let (s, l) := match marker? l with
    | some (number, rest) =>
      if !number.isEmpty == numbered then
        let s := s.endParagraph
        ({ s with items := ⟨number, []⟩ :: s.items }, rest)
      else (s, l)
    | none => (s, l)
  let l := Text.trim l
  if l.isEmpty then { s.endParagraph with loose := true }
  else { s with lines := l :: s.lines }

/-- The list that lines spell, and the links that its items define. -/
def listOf (apart : Bool) (ls : List Text) : Block × List Link :=
  let numbered := (ls.head?.bind marker?).any fun m => !m.1.isEmpty
  let s := (ls.foldl (ListReading.next numbered) {}).endParagraph
  let items := s.items.reverse
  let loose := s.loose || items.any fun i => i.paragraphs.length != 1
  (.list (apart || loose) loose items, s.links)

/-- The blocks of a span, and the links that it defines. -/
def blockOf (s : Span) : List Block × List Link :=
  match s.kind with
  | .list =>
    let (b, links) := listOf s.apart s.lines
    ([b], links)
  | .code => ([.code (unindent s.lines)], [])
  | .heading => ([.heading (Text.trim ((s.lines.headD []).drop 1))], [])
  | .bareHeading => ([.heading (Text.trim (s.lines.headD []))], [])
  | .paragraph =>
    let (ts, links) := paragraphOf s.lines
    (ts.map .paragraph, links)

/-- The blocks of lines, and the links that they define. -/
def blocksOf (lines : List Text) : List Block × List Link :=
  let lines := unindent lines
  let parts := (spans (2 * lines.length) 0 lines).map blockOf
  (parts.flatMap (·.1), parts.flatMap (·.2))

/-! ## Text of a paragraph -/

/-- A byte that may stand in an address but not at its end. -/
def isPause (b : UInt8) : Bool := List.elem b ".,:;?!"

/-- A byte that may stand in the host of an address. -/
def isHost (b : UInt8) : Bool :=
  Text.isDigitByte b || Text.isLowerByte b || Text.isUpperByte b || List.elem b "_@-.[]:"

/-- A byte that may stand anywhere in the path of an address. -/
def isPath (b : UInt8) : Bool :=
  Text.isDigitByte b || Text.isLowerByte b || Text.isUpperByte b ||
    List.elem b "$'()*+&#=@~_/-[]\x7b\x7d%"

def closing? : UInt8 → Option UInt8
  | 40 => some 41
  | 91 => some 93
  | 123 => some 125
  | _ => none

/-- How far the path of an address goes: brackets are balanced, and it does not end with a pause. `n` bytes were
read, and `best` of them belong to the path. -/
def pathLength : List UInt8 → Nat → Nat → Text → Nat
  | _, _, best, [] => best
  | open', n, best, b :: r =>
    if isPause b then pathLength open' (n + 1) best r
    else if !isPath b then best
    else match closing? b with
      | some c => pathLength (c :: open') (n + 1) best r
      | none =>
        if b == 41 || b == 93 || b == 125 then
          match open' with
          | c :: rest => if c == b then pathLength rest (n + 1) (if rest.isEmpty then n + 1 else best) r else best
          | [] => best
        else pathLength open' (n + 1) (if open'.isEmpty then n + 1 else best) r

/-- The length of the address that a text starts with; `0` when it starts with none. -/
def addressLength (t : Text) : Nat :=
  let scheme := t.takeWhile Text.isLowerByte
  let rest := t.drop (scheme.length + 3)
  let host := rest.takeWhile isHost
  let host := (host.reverse.dropWhile isPause).reverse
  if schemes.contains scheme && Text.startsWith (t.drop scheme.length) "://" && rest.head?.any (fun b => !isPause b) &&
      !host.isEmpty then
    let n := scheme.length + 3 + host.length
    n + pathLength [] 0 0 (t.drop n)
  else 0

/-- The length of the name that a text starts with. -/
def nameLength (t : Text) : Nat :=
  match Text.firstGlyph? t with
  | some g =>
    if Text.isIdentStart g.char then
      let gs := (Text.glyphs t).takeWhile fun g =>
        Text.isIdentStart g.char || (g.char < '\x80' && g.char.isDigit)
      (Text.ofGlyphs gs).length
    else 0
  | none => 0

/-- A text with quotation marks for two backquotes and for two apostrophes, at most `fuel` steps of it. Three or
more backquotes stay, and so does an address if there can be one. -/
def withQuotes (addresses : Bool) : Nat → Text → Text
  | 0, t => t
  | _ + 1, [] => []
  | fuel + 1, b :: r =>
    let t := b :: r
    let keep := if addresses then (if 0 < addressLength t then addressLength t else nameLength t) else 0
    if 0 < keep then t.take keep ++ withQuotes addresses fuel (t.drop keep)
    else match t with
      | 96 :: 96 :: 96 :: _ =>
        let run := t.takeWhile (· == 96)
        run ++ withQuotes addresses fuel (t.drop run.length)
      | 96 :: 96 :: r => text "“" ++ withQuotes addresses fuel r
      | 39 :: 39 :: r => text "”" ++ withQuotes addresses fuel r
      | b :: r => b :: withQuotes addresses fuel r
      | [] => []

def quoted (addresses : Bool) (t : Text) : Text := withQuotes addresses t.length t

/-- The name that the text between brackets refers to: tabs and line breaks are blanks. -/
def referenceName (t : Text) : Text := t.map fun b => if b == 10 || b == 9 then 32 else b

/-- The written form of a text, and the names of the defined links that it refers to. `plain` is what was read
since the last reference, and `inside` what was read since the last opening bracket, the last byte first. -/
def writeReferences (defined : List Text) : Text → Option Text → Text → Text × List Text
  | plain, inside, [] => (quoted true (plain.reverse ++ (inside.map fun s => 91 :: s.reverse).getD []), [])
  | plain, none, b :: r =>
    if b == 91 then writeReferences defined plain (some []) r
    else writeReferences defined (b :: plain) none r
  | plain, some s, b :: r =>
    if b == 91 then writeReferences defined (s ++ 91 :: plain) (some []) r
    else if b == 93 then
      let name := referenceName s.reverse
      if defined.contains name then
        let (t, used) := writeReferences defined [] none r
        (quoted true plain.reverse ++ (91 :: quoted false s.reverse ++ (93 :: t)), name :: used)
      else writeReferences defined (93 :: s ++ 91 :: plain) none r
    else writeReferences defined plain (some (b :: s)) r

/-- The lines of the written form of a text, and the names of the defined links that it refers to. -/
def linesOf (defined : List Text) (t : Text) : List Text × List Text :=
  let (t, used) := writeReferences defined [] none t
  (Text.lines t, used)

/-! ## Writing -/

/-- The indentation of the lines of an item after the first. -/
def hanging : Text := "    "

def writeItem (defined : List Text) (i : Item) : List Text × List Text :=
  let mark := if i.number.isEmpty then text "  - " else text " " ++ i.number ++ text ". "
  let parts := i.paragraphs.map (linesOf defined)
  let lines := (parts.map fun p => p.1.map (hanging ++ ·)).intersperse [[]] |>.flatten
  let lines := match lines with
    | [] => [mark]
    | l :: ls => (mark ++ l.drop hanging.length) :: ls
  (lines, parts.flatMap (·.2))

/-- The lines of a block, and the names of the defined links that it refers to. -/
def writeBlock (defined : List Text) : Block → List Text × List Text
  | .paragraph t => linesOf defined t
  | .heading t => ([text "# " ++ t], [])
  | .code ls => (ls.map fun l => if l.isEmpty then l else 9 :: l, [])
  | .list _ loose items =>
    let parts := items.map (writeItem defined)
    let divider : List Text := if loose then [[]] else []
    (((parts.map (·.1)).intersperse divider).flatten, parts.flatMap (·.2))

/-- Whether an empty line stands before a block that is not the first. -/
def Block.apart : Block → Bool
  | .list apart _ _ => apart
  | _ => true

/-- The lines of links, with an empty line before them. -/
def writeLinks (links : List Link) : List Text :=
  if links.isEmpty then [] else [] :: links.map fun l => 91 :: l.name ++ text "]: " ++ l.target

/-- Blocks and links in canonical layout. The links that are referred to come first. Of two links of one name, the
first is meant. -/
def write (blocks : List Block) (links : List Link) : List Text :=
  let defined := links.map (·.name)
  let parts := blocks.map fun b => (b, writeBlock defined b)
  let used := parts.flatMap (·.2.2)
  let body := match parts with
    | [] => []
    | p :: ps => p.2.1 ++ ps.flatMap fun q => if q.1.apart then [] :: q.2.1 else q.2.1
  let marked := links.mapIdx fun i l => (l, used.contains l.name && !(defined.take i).contains l.name)
  body ++ writeLinks ((marked.filter (·.2)).map (·.1)) ++ writeLinks ((marked.filter (!·.2)).map (·.1))

/-! ## Comments -/

/-- A directive: `line `, `extern ` or `export `, or two words of lower case letters and digits around a colon. -/
def isDirective (t : Text) : Bool :=
  let isWordByte := fun b => Text.isLowerByte b || Text.isDigitByte b
  let word := t.takeWhile isWordByte
  let rest := t.drop word.length
  Text.startsWith t "line " || Text.startsWith t "extern " || Text.startsWith t "export " ||
    (!word.isEmpty && rest.head? == some 58 && (rest.drop 1).head?.any isWordByte)

/-- Whether each line of a comment after the first starts with a star. -/
def allStars (t : Text) : Bool :=
  ((Text.lines t).drop 1).all fun l => ((l.drop (leading l).length).head?.getD 42) == 42

def commentLine (l : Text) : Text :=
  if l.isEmpty then text "//" else if l.head? == some 9 then text "//" ++ l else text "// " ++ l

/-- The comments of a group that are lines, in canonical layout. -/
def formatLines (comments : List Text) : Option (List Text) := do
  let texts ← comments.mapM fun c => Text.dropStart? c "//"
  let directives := texts.filter isDirective
  let lines := (texts.filter fun t => !isDirective t).map fun t => Text.dropStart t " "
  if lines.isEmpty then none
  else
    let (blocks, links) := blocksOf lines
    let body := (write blocks links).map commentLine
    let tail := if directives.isEmpty then [] else text "//" :: directives.map (text "//" ++ ·)
    some (body ++ tail)

/-- The comments of a group in canonical layout; none when they stay as they are. A comment with stars at the
starts of its lines stays, and so does one on a single line. -/
def format (comments : List Text) : Option (List Text) :=
  match comments with
  | [] => none
  | c :: cs =>
    if Text.startsWith c "/*" then
      if !cs.isEmpty || !c.any (· == 10) || allStars c then none
      else
        let (blocks, links) := blocksOf (Text.lines ((c.drop 2).dropLast.dropLast))
        some [Text.join "\n" (text "/*" :: write blocks links ++ [text "*/"])]
    else formatLines comments

end DocAccessors.Layout.DocComment
