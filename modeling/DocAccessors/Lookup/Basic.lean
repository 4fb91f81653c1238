import DocAccessors.Diagnostic.Failure
import DocAccessors.Text.Quoted

/-!
# Look-up tables

* `LookupTable.compile` builds the table from names to indices, provided that no name occurs twice;
* `Access` is what generated code does with such a table: it finds the documentation of a member by name.
-/

namespace DocAccessors

/-- A named member at its index. -/
structure LookupEntry where
  index : Int
  name : Text
  span : Span
  deriving DecidableEq, Repr

/-- A table from names to indices. -/
structure LookupTable where
  entries : List LookupEntry
  deriving DecidableEq, Repr

namespace LookupTable

def firstWith? (n : Text) (es : List LookupEntry) : Option LookupEntry := es.find? fun e => e.name == n

/-- What is said about an entry whose name an earlier one has. -/
def collision (first e : LookupEntry) : Diagnostic :=
  (Diagnostic.error .duplicateLookupKey e.span
    (text "members " ++ Text.ofInt first.index ++ text " and " ++ Text.ofInt e.index ++
      text " both resolve to the name " ++ Text.quote e.name)).withNote first.span
    (Text.quote e.name ++ text " first used here")

/-- One diagnostic for each entry whose name occurred before; `seen` holds the entries before, in order. -/
def collisions (seen : List LookupEntry) : List LookupEntry → List Diagnostic
  | [] => []
  | e :: es =>
    match firstWith? e.name seen with
    | some first => collision first e :: collisions seen es
    | none => collisions (seen ++ [e]) es

/-- The table of a list of entries; a failure if a name occurs twice. -/
def compile (es : List LookupEntry) : Except Failure LookupTable :=
  match collisions [] es with
  | [] => .ok ⟨es⟩
  | ds => .error (.diagnosed ds)

/-- The index of a name. -/
def get? (t : LookupTable) (n : Text) : Option Int := (firstWith? n t.entries).map (·.index)

/-- The number of names. -/
def size (t : LookupTable) : Nat := t.entries.length

/-- The names in the order of the entries. -/
def keys (t : LookupTable) : List Text := t.entries.map (·.name)

end LookupTable

/-! ## Access at run time -/

namespace Access

/-- Why a look-up finds nothing. -/
inductive Miss where
  | noSuchField
  | noDocComments
  deriving DecidableEq, Repr

def Miss.reason : Miss → Text
  | .noSuchField => "no such field"
  | .noDocComments => "no doc comments"

/-- The words for a failed look-up of a name. -/
def Miss.message (m : Miss) (name : Text) : Text := m.reason ++ text ": " ++ Text.quote name

/-- An index into a list, if it is in range. -/
def atIndex? (docs : List α) (i : Int) : Option α := if i < 0 then none else docs[i.toNat]?

/-- The element of a list that a name leads to through an index. -/
def find (docs : List α) (index : List (Text × Int)) (name : Text) : Except Miss α :=
  match (index.lookup name).bind (atIndex? docs) with
  | some d => .ok d
  | none => .error .noSuchField

/-- The documentation of the member with a name. -/
def lookup (docs : List Text) (index : List (Text × Int)) (name : Text) : Except Miss Text := find docs index name

/-- The documentation of the member with a name, where documentation may be absent. -/
def lookupOptional (docs : List (Option Text)) (index : List (Text × Int)) (name : Text) : Except Miss Text := do
  match ← find docs index name with
  | some d => .ok d
  | none => .error .noDocComments

end Access

end DocAccessors
