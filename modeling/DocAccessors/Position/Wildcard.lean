import DocAccessors.Text.Basic

/-!
# Wildcards

A pattern for paths: `*` stands for any bytes but slashes, `?` for one code point but a slash, brackets for one
code point out of a set, and a backslash takes the next byte as it is.

* `Wildcard.parse?` reads a pattern: pieces that may stand further right, after a star, than where they are
  looked for;
* `Wildcard.matches` decides whether a name follows a pattern. A piece is taken where it first fits.
-/

namespace DocAccessors.Wildcard

/-- What stands for one byte or code point. -/
inductive Atom where
  | byte (b : UInt8)
  /-- Any code point but a slash. -/
  | any
  /-- A code point in one of the ranges, or in none of them. -/
  | oneOf (negated : Bool) (ranges : List (Char × Char))
  deriving DecidableEq, Repr

/-- A run of atoms, and whether a star stands before it. -/
structure Piece where
  star : Bool
  atoms : List Atom
  deriving DecidableEq, Repr

/-! ## Reading patterns -/

/-- A code point in brackets, and the rest, which must not be empty. -/
def readMember? : Text → Option (Char × Text)
  | [] => none
  | b :: r =>
    if b == 45 || b == 93 then none
    else do
      let g ← Text.firstGlyph? (if b == 92 then r else b :: r)
      if g.isInvalid then none
      let rest := (if b == 92 then r else b :: r).drop g.width
      if rest.isEmpty then none else some (g.char, rest)

/-- The ranges up to the closing bracket, and the rest after it; there must be at least one. -/
def readRanges? : Nat → List (Char × Char) → Text → Option (List (Char × Char) × Text)
  | 0, _, _ => none
  | fuel + 1, seen, t =>
    if !seen.isEmpty && t.head? == some 93 then some (seen.reverse, t.drop 1)
    else do
      let (lo, r) ← readMember? t
      if r.head? == some 45 then
        let (hi, r) ← readMember? (r.drop 1)
        readRanges? fuel ((lo, hi) :: seen) r
      else readRanges? fuel ((lo, lo) :: seen) r

/-- A pattern element: an atom, or a star. -/
inductive Element where
  | star
  | atom (a : Atom)

/-- The elements of a pattern; none if it is malformed. -/
def readElements? : Nat → Text → Option (List Element)
  | 0, t => if t.isEmpty then some [] else none
  | _, [] => some []
  | fuel + 1, b :: r =>
    if b == 42 then (.star :: ·) <$> readElements? fuel r
    else if b == 63 then (.atom .any :: ·) <$> readElements? fuel r
    else if b == 92 then
      match r with
      | [] => none
      | c :: r => (.atom (.byte c) :: ·) <$> readElements? fuel r
    else if b == 91 then do
      let negated := r.head? == some 94
      let (ranges, r) ← readRanges? (r.length + 1) [] (if negated then r.drop 1 else r)
      (.atom (.oneOf negated ranges) :: ·) <$> readElements? fuel r
    else (.atom (.byte b) :: ·) <$> readElements? fuel r

def pieces : List Element → List Piece
  | [] => []
  | .star :: es =>
    match pieces es with
    | [] => [⟨true, []⟩]
    | p :: ps => ⟨true, p.atoms⟩ :: ps
  | .atom a :: es =>
    match pieces es with
    | [] => [⟨false, [a]⟩]
    | p :: ps => if p.star then ⟨false, [a]⟩ :: p :: ps else ⟨false, a :: p.atoms⟩ :: ps

/-- The pieces of a pattern; none if it is malformed. -/
def parse? (pattern : Text) : Option (List Piece) := pieces <$> readElements? pattern.length pattern

/-! ## Matching -/

/-- What is left of a text after an atom. -/
def Atom.take? (a : Atom) (t : Text) : Option Text :=
  match t with
  | [] => none
  | b :: r =>
    match a with
    | .byte c => if b == c then some r else none
    | .any => if b == 47 then none else (Text.firstGlyph? t).map fun g => t.drop g.width
    | .oneOf negated ranges =>
      (Text.firstGlyph? t).bind fun g =>
        if (ranges.any fun (lo, hi) => lo ≤ g.char && g.char ≤ hi) == negated then none else some (t.drop g.width)

/-- What is left of a text after a run of atoms. -/
def takeAtoms? (as : List Atom) (t : Text) : Option Text := as.foldlM (fun t a => a.take? t) t

/-- What is left of a text after a piece that stands somewhere in it: bytes before it are skipped up to a slash.
The last piece has to use the text up. -/
def seek? (last : Bool) (as : List Atom) : Text → Option Text
  | [] => (takeAtoms? as []).filter fun r => !last || r.isEmpty
  | b :: t =>
    match (takeAtoms? as (b :: t)).filter fun r => !last || r.isEmpty with
    | some r => some r
    | none => if b == 47 then none else seek? last as t

/-- Whether a name follows a list of pieces. -/
def follows : List Piece → Text → Bool
  | [], t => t.isEmpty
  | p :: ps, t =>
    if p.star && p.atoms.isEmpty then t.all (· != 47)
    else
      let rest := if p.star then seek? ps.isEmpty p.atoms t
        else (takeAtoms? p.atoms t).filter fun r => !ps.isEmpty || r.isEmpty
      match rest with
      | some r => follows ps r
      | none => false

/-- Whether a name follows a pattern; none if the pattern is malformed. -/
def matches? (pattern name : Text) : Option Bool := (parse? pattern).map fun ps => follows ps name

/-- Whether a text holds a byte that is special in patterns. -/
def isPattern (t : Text) : Bool := t.any fun b => b == 42 || b == 63 || b == 91 || b == 92

end DocAccessors.Wildcard
