import DocAccessors.Text.Quoted

/-!
# Log lines

What a run says about its progress: one line per record, `key=value` pairs divided by blanks.

* `LogLevel`: how grave a record is, and from which level on records are shown;
* `LogValue`, `LogField`: what a record tells beside its message;
* `LogRecord.render`: the line of a record. A text that could be mistaken for more than one word is quoted.
-/

namespace DocAccessors

/-- How grave a record is. -/
inductive LogLevel where
  | debug | info | warn | error
  deriving DecidableEq, Repr

namespace LogLevel

/-- All levels, the least grave one first. -/
def all : List LogLevel := [.debug, .info, .warn, .error]

/-- The name of a level in configurations. -/
def name : LogLevel → Text
  | .debug => "debug"
  | .info => "info"
  | .warn => "warn"
  | .error => "error"

/-- The name of a level in log lines. -/
def label (l : LogLevel) : Text := l.name.map Text.upperByte

/-- The number of a level: larger is graver. -/
def number : LogLevel → Int
  | .debug => -4
  | .info => 0
  | .warn => 4
  | .error => 8

/-- The level with a name; a name that is none reads as `info`. -/
def ofName (t : Text) : LogLevel := (all.find? fun l => l.name == t).getD .info

/-- The level from which on records are shown under a configured name: under `none` no record is. -/
def threshold (t : Text) : Option LogLevel := if t == text "none" then none else some (ofName t)

end LogLevel

/-- What can be said about a key. -/
inductive LogValue where
  | text (t : Text)
  | int (n : Int)
  | bool (b : Bool)
  | missing
  deriving DecidableEq, Repr

/-- A key and what is said about it. -/
structure LogField where
  key : Text
  value : LogValue
  deriving DecidableEq, Repr

/-- A record of the log. -/
structure LogRecord where
  level : LogLevel
  message : Text
  fields : List LogField := []
  deriving DecidableEq, Repr

namespace Log

/-- Whether a glyph makes it necessary to quote the text that it stands in. -/
def isDisruptive (g : Text.Glyph) : Bool :=
  if g.char < '\x80' then g.char < '!' || g.char == '=' || g.char == '"'
  else g.char == Text.replacement || Text.isSpace g.char || !Text.isPrint g.char

/-- A text in a log line: quoted if it is empty or holds something disruptive. -/
def word (t : Text) : Text :=
  if t.isEmpty || (Text.glyphs t).any isDisruptive then Text.quote t else t

def value : LogValue → Text
  | .text t => word t
  | .int n => Text.ofInt n
  | .bool b => if b then "true" else "false"
  | .missing => "<nil>"

end Log

def LogField.render (f : LogField) : Text := Log.word f.key ++ text "=" ++ Log.value f.value

namespace LogField

/-- The key of a value that comes without one. -/
def strayKey : Text := "!BADKEY"

/-- Whether the field says nothing at all. -/
def isVoid (f : LogField) : Bool := f.key.isEmpty && f.value == .missing

/-- The fields of a list in which keys and values alternate. A last key without a value, and a value where a key is
due, stand under a key of their own. -/
def ofList : List LogValue → List LogField
  | [] => []
  | [v] => [⟨strayKey, v⟩]
  | .text k :: v :: vs => ⟨k, v⟩ :: ofList vs
  | v :: w :: vs => ⟨strayKey, v⟩ :: ofList (w :: vs)

end LogField

namespace LogRecord

def render (r : LogRecord) : Text :=
  text "level=" ++ r.level.label ++ text " msg=" ++ Log.word r.message ++
    (r.fields.filter fun f => !f.isVoid).flatMap (fun f => text " " ++ f.render) ++ text "\n"

def isShown (threshold : Option LogLevel) (r : LogRecord) : Bool :=
  threshold.any fun l => l.number ≤ r.level.number

end LogRecord

/-- The lines of the records that are shown at a threshold. -/
def Log.render (threshold : Option LogLevel) (rs : List LogRecord) : Text :=
  (rs.filter (·.isShown threshold)).flatMap LogRecord.render

end DocAccessors
