import DocAccessors.Text.Class

/-!
# Documentation

From the fragments of comments to the documentation of an item.

* `normalize` joins fragments line by line, trimming each line if asked to;
* `DocValue`: text, an expression that stands in for it, or nothing;
* `DocMode.substitute` decides what an undocumented item gets.
-/

namespace DocAccessors

/-- The text of fragments; none when there are no fragments. With `trim`, the white space at both ends of each
line is dropped. -/
def normalize (fragments : List Text) (trim : Bool) : Option Text :=
  if fragments.isEmpty then none
  else if trim then some (Text.join "\n" (fragments.flatMap fun f => (Text.lines f).map Text.trim))
  else some (Text.join "\n" fragments)

/-- The documentation of an item. -/
inductive DocValue where
  | absent
  | text (t : Text)
  /-- The source of an expression that is emitted as it is. -/
  | default (source : Text)
  deriving DecidableEq, Repr, Inhabited

namespace DocValue

def source : DocValue → Text
  | .absent => "absent"
  | .text _ => "text"
  | .default _ => "default"

def isPresent : DocValue → Bool
  | .absent => false
  | _ => true

/-- The names of the sources, by number. -/
def sourceOfNumber : Nat → Text
  | 1 => "text"
  | 2 => "default"
  | _ => "absent"

end DocValue

/-- Whether documentation is required. -/
inductive DocMode where
  | strict | optional
  deriving DecidableEq, Repr

namespace DocMode

def ofOptional (optional : Bool) : DocMode := if optional then .optional else .strict

/-- What is said when required documentation is absent. -/
def missing : Text := "missing doc comments"

/-- The documentation of an item: its text, else its default, else nothing; none when documentation is required
and there is neither. -/
def substitute? (m : DocMode) (text : Option Text) (default : Option Text) : Option DocValue :=
  match text, default, m with
  | some t, _, _ => some (.text t)
  | none, some e, _ => some (.default e)
  | none, none, .optional => some .absent
  | none, none, .strict => none

end DocMode

end DocAccessors
