import DocAccessors.Diagnostic.Failure
import DocAccessors.Text.Quoted

/-!
# Options

An option is a pair `key = value` in the argument list of a directive.

* `OptionKind`: the keys; `OptionValue`: the values, each belonging to one key;
* `Visibility` and `CaseConvention`: the values that are words;
* `ReadOption` is a value with the spans of its key and its value;
* `OptionValue.render` prints a value, `OptionValue.assignment` an option; `renderOptions` prints a list;
* `ensureUnique` reports the keys that occur more than once in a list.
-/

namespace DocAccessors

/-- The key of an option. -/
inductive OptionKind where
  /-- Whether a generated name is exported. -/
  | vis
  /-- A name to use instead. -/
  | rename
  /-- A convention to write names in. -/
  | renameAll
  /-- An expression that stands in for absent documentation. -/
  | default
  /-- Whether lines are trimmed. -/
  | trim
  deriving DecidableEq, Repr

namespace OptionKind

/-- All keys, in the order in which they are listed. -/
def all : List OptionKind := [.vis, .rename, .renameAll, .default, .trim]

def name : OptionKind → Text
  | .vis => "vis"
  | .rename => "rename"
  | .renameAll => "rename_all"
  | .default => "default"
  | .trim => "trim"

/-- The key with a spelling. -/
def ofName? (t : Text) : Option OptionKind := all.find? fun k => k.name == t

/-- The number of a key, counted from one. -/
def number : OptionKind → Nat
  | .vis => 1
  | .rename => 2
  | .renameAll => 3
  | .default => 4
  | .trim => 5

def ofNumber? (n : Nat) : Option OptionKind := all.find? fun k => k.number == n

/-- The spelling of the key with a number; a number without a key is shown as it is. -/
def nameOfNumber (n : Nat) : Text :=
  match ofNumber? n with
  | some k => k.name
  | none => text "OptionKind(" ++ Text.ofNat n ++ text ")"

/-- The current spelling of a key that has been renamed. -/
def replacement? (t : Text) : Option Text := if t == text "name" then some (name .rename) else none

end OptionKind

/-- A set of keys, in the order in which it is shown. -/
abbrev KeySet := List OptionKind

/-- Names between back quotes, with commas between them. -/
def tickedList (names : List Text) : Text :=
  Text.join ", " (names.map fun n => text "`" ++ n ++ text "`")

/-- The keys of a set as they are listed in a message. -/
def KeySet.render (ks : KeySet) : Text := tickedList (ks.map OptionKind.name)

/-- Whether a generated name is exported. -/
inductive Visibility where
  | exported | unexported
  deriving DecidableEq, Repr

namespace Visibility

def name : Visibility → Text
  | .exported => "exported"
  | .unexported => "unexported"

def ofName? (t : Text) : Option Visibility := [exported, unexported].find? fun v => v.name == t

/-- The number of a visibility, counted from one. -/
def number : Visibility → Nat
  | .exported => 1
  | .unexported => 2

/-- The word for the visibility with a number. -/
def nameOfNumber (n : Nat) : Text :=
  ((([exported, unexported].find? fun v => v.number == n).map name).getD "invalid")

end Visibility

/-- A convention for writing names. -/
inductive CaseConvention where
  | lower | upper | pascal | camel | snake | screamingSnake | kebab | screamingKebab
  deriving DecidableEq, Repr

namespace CaseConvention

/-- All conventions, in the order in which they are listed. -/
def all : List CaseConvention :=
  [.lower, .upper, .pascal, .camel, .snake, .screamingSnake, .kebab, .screamingKebab]

/-- The name of a convention, written in that convention. -/
def name : CaseConvention → Text
  | .lower => "lowercase"
  | .upper => "UPPERCASE"
  | .pascal => "PascalCase"
  | .camel => "camelCase"
  | .snake => "snake_case"
  | .screamingSnake => "SCREAMING_SNAKE_CASE"
  | .kebab => "kebab-case"
  | .screamingKebab => "SCREAMING-KEBAB-CASE"

def ofName? (t : Text) : Option CaseConvention := all.find? fun c => c.name == t

/-- The number of a convention, counted from one. -/
def number (c : CaseConvention) : Nat := all.idxOf c + 1

def nameOfNumber (n : Nat) : Text := if n = 0 then "invalid" else (all[n - 1]?.map name).getD "invalid"

end CaseConvention

/-- The value of an option. -/
inductive OptionValue where
  | vis (v : Visibility)
  | rename (name : Text)
  | renameAll (c : CaseConvention)
  /-- The source text of an expression. -/
  | default (source : Text)
  | trim (on : Bool)
  deriving DecidableEq, Repr

namespace OptionValue

/-- The key that a value belongs to. -/
def kind : OptionValue → OptionKind
  | .vis _ => .vis
  | .rename _ => .rename
  | .renameAll _ => .renameAll
  | .default _ => .default
  | .trim _ => .trim

def render : OptionValue → Text
  | .vis v => v.name
  | .rename n => Text.quote n
  | .renameAll c => c.name
  | .default s => s
  | .trim true => "true"
  | .trim false => "false"

/-- The key and the value in words. -/
def assignment (v : OptionValue) : Text := v.kind.name ++ text " = " ++ v.render

/-- The value as it is written in an option list: names and conventions are string literals. -/
def literal : OptionValue → Text
  | .renameAll c => Text.quote c.name
  | v => v.render

end OptionValue

/-- A list of options as it is written after a directive. -/
def renderOptions (vs : List OptionValue) : Text :=
  Text.join ", " (vs.map fun v => v.kind.name ++ text " = " ++ v.literal)

/-- An option as it was read. -/
structure ReadOption where
  value : OptionValue
  /-- The span of the key. -/
  span : Span
  /-- The span of the value. -/
  valueSpan : Span
  deriving DecidableEq, Repr

def ReadOption.kind (o : ReadOption) : OptionKind := o.value.kind

/-! ## Repetitions -/

/-- The keys of a list of options, each once, in the order of their first occurrence. -/
def kindsInOrder (os : List ReadOption) : List OptionKind := (os.map (·.kind)).eraseDups

/-- What is reported for the options of one key: nothing unless there are several. -/
def repeated? (k : OptionKind) (group : List ReadOption) : Option Diagnostic :=
  match group with
  | first :: second :: rest =>
    some <| (second :: rest).foldl (fun d o => d.withNote o.span "duplicate declaration here")
      (Diagnostic.error .duplicateOption first.span
        (text "option `" ++ k.name ++ text "` can only be declared once"))
  | _ => none

/-- One diagnostic for each key that occurs more than once: at its first occurrence, with a note at each later
one. -/
def repeatedKinds (os : List ReadOption) : List Diagnostic :=
  (kindsInOrder os).filterMap fun k => repeated? k (os.filter fun o => o.kind == k)

/-- The failure of a list with repeated keys. -/
def ensureUnique (os : List ReadOption) : Option Failure := Failure.ofDiagnostics? (repeatedKinds os)

end DocAccessors
