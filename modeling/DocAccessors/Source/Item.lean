import DocAccessors.Source.Lexeme
import DocAccessors.Source.Tree

/-!
# Items

The lexemes of a file as its grammar sees them: comments are taken out and gathered into groups, and each token
knows the group that leads it and the group behind the token before it.

A group *leads* a token when it ends on the line before the token. A group stands *behind* a token when it
starts on the line of that token and nothing else follows on the line where it ends. Lines are counted as line
directives number them.
-/

namespace DocAccessors.Source

/-- A token with the comments around it and the faults found while it was read. -/
structure Item where
  offset : Nat
  token : Token
  lit : Text
  lead : Option CommentGroup := none
  behind : Option CommentGroup := none
  faults : List LexFault := []
  deriving Inhabited

namespace Item

/-- The number of line breaks in a block comment. -/
def lineBreaks (t : Text) : Nat := if t[1]? == some 42 then t.count 10 else 0

/-- Takes the comments off the front that follow each other with at most `gap` line breaks between them, the
last one having ended on line `endLine`; with them the line on which the group ends and all faults. -/
def takeGroup (lineOf : Nat → Int) (gap : Nat) :
    Int → List Lexeme → List Comment × Int × List LexFault × List Lexeme
  | endLine, [] => ([], endLine, [], [])
  | endLine, l :: ls =>
    if l.token == .comment && lineOf l.offset ≤ endLine + gap then
      let (cs, endLine, fs, rest) := takeGroup lineOf gap (lineOf l.offset + lineBreaks l.lit) ls
      (⟨l.offset, l.lit⟩ :: cs, endLine, l.faults ++ fs, rest)
    else ([], endLine, [], l :: ls)

/-- Takes all comments off the front, as groups; with them the line on which the last group ends. -/
def takeGroups (lineOf : Nat → Int) :
    Nat → List Lexeme → List CommentGroup × Option Int × List LexFault × List Lexeme
  | 0, ls => ([], none, [], ls)
  | fuel + 1, ls =>
    match ls with
    | l :: _ =>
      if l.token == .comment then
        let (cs, endLine, fs, rest) := takeGroup lineOf 1 (lineOf l.offset) ls
        let (gs, lastLine, fs', rest) := takeGroups lineOf fuel rest
        (cs :: gs, lastLine.or (some endLine), fs ++ fs', rest)
      else ([], none, [], ls)
    | [] => ([], none, [], [])

/-- The next item after a token on line `prevLine`, the groups passed over, and the lexemes after it. -/
def take? (lineOf : Nat → Int) (prevLine : Int) (ls : List Lexeme) :
    Option (Item × List CommentGroup × List Lexeme) :=
  match ls with
  | [] => none
  | l :: rest =>
    if l.token != .comment then some (⟨l.offset, l.token, l.lit, none, none, l.faults⟩, [], rest)
    else
      -- a group on the line of the token before
      let (first, endLine, fs, ls) :=
        if lineOf l.offset == prevLine then takeGroup lineOf 0 (lineOf l.offset) ls else ([], 0, [], ls)
      let sameLine := if first.isEmpty then none else some first
      let behind := sameLine.filter fun _ => match ls with
        | n :: _ => lineOf n.offset != endLine || n.token == .semicolon || n.token == .eof
        | [] => true
      let (groups, lastLine, fs', ls) := takeGroups lineOf ls.length ls
      match ls with
      | [] => none
      | t :: rest =>
        let lead := match lastLine with
          | some line => if line + 1 == lineOf t.offset then groups.getLast? else none
          | none => none
        some (⟨t.offset, t.token, t.lit, lead, behind, fs ++ fs' ++ t.faults⟩, sameLine.toList ++ groups, rest)

/-- The items of the lexemes after a token on line `prevLine`, and all comment groups; `fuel` bounds their
number. -/
def ofLexemesFrom (lineOf : Nat → Int) : Nat → Int → List Lexeme → List Item × List CommentGroup
  | 0, _, _ => ([], [])
  | fuel + 1, prevLine, ls =>
    match take? lineOf prevLine ls with
    | none => ([], [])
    | some (i, groups, rest) =>
      let (is, gs) := ofLexemesFrom lineOf fuel (lineOf i.offset) rest
      (i :: is, groups ++ gs)

/-- The items of the lexemes of a file and all its comment groups. -/
def ofLexemes (lineOf : Nat → Int) (ls : List Lexeme) : List Item × List CommentGroup :=
  ofLexemesFrom lineOf ls.length 0 ls

/-- Leaves comments out; their faults go to the token after them. -/
def dropComments (pending : List LexFault) : List Lexeme → List Item
  | [] => []
  | l :: ls =>
    if l.token == .comment then dropComments (pending ++ l.faults) ls
    else ⟨l.offset, l.token, l.lit, none, none, pending ++ l.faults⟩ :: dropComments [] ls

end Item

end DocAccessors.Source
