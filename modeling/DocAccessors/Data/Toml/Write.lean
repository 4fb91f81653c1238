import DocAccessors.Data.Basic

/-!
# Writing TOML

A record is written as its plain fields first, then the records and lists of records in it, each under a header with
its full name and two blanks deeper than the one around it. A list of records is set off by a blank line.
-/

namespace DocAccessors.Toml

/-- A byte between double quotes. -/
def escapeByte (b : UInt8) : Text :=
  match b with
  | 34 => "\\\""
  | 92 => "\\\\"
  | 8 => "\\b"
  | 9 => "\\t"
  | 10 => "\\n"
  | 12 => "\\f"
  | 13 => "\\r"
  | b => if b < 32 || b == 127 then text "\\u" ++ Text.hex 4 b.toNat else [b]

/-- A text between double quotes. -/
def quote (t : Text) : Text := text "\"" ++ t.flatMap escapeByte ++ text "\""

mutual

def inline : Datum → Text
  | .null => []
  | .bool true => "true"
  | .bool false => "false"
  | .int n => Text.ofInt n
  | .other t => t
  | .text t => quote t
  | .list xs => text "[" ++ Text.join ", " (inlineList xs) ++ text "]"
  | .record fs => text "\x7b" ++ Text.join ", " (inlineFields fs) ++ text "\x7d"

def inlineList : List Datum → List Text
  | [] => []
  | x :: xs => inline x :: inlineList xs

def inlineFields : List (Text × Datum) → List Text
  | [] => []
  | (k, v) :: fs => (k ++ text " = " ++ inline v) :: inlineFields fs

end

def isRecord : Datum → Bool
  | .record _ => true
  | _ => false

/-- Whether a value is written under a header. -/
def hasHeader : Datum → Bool
  | .record _ => true
  | .list xs => !xs.isEmpty && xs.all isRecord
  | _ => false

/-- Whether a value is nothing. -/
def isNull : Datum → Bool
  | .null => true
  | _ => false

/-- The blanks in front of a line at a level. -/
def indent (level : Nat) : Text := Text.repeated level "  "

def fullName (path : List Text) : Text := Text.join "." path

/-- A blank line, unless nothing has been written. -/
def gap (out : Text) : Text := if out.isEmpty then out else out ++ text "\n"

/-- The plain fields of a record. -/
def writePlain (path : List Text) (out : Text) : List (Text × Datum) → Text
  | [] => out
  | (k, v) :: fs =>
    let out := if hasHeader v || isNull v then out
      else out ++ indent path.length ++ k ++ text " = " ++ inline v ++ text "\n"
    writePlain path out fs

mutual

/-- The fields of a record that have headers. -/
def writeHeaders (path : List Text) (out : Text) : List (Text × Datum) → Text
  | [] => out
  | (k, .record inner) :: fs =>
    let name := path ++ [k]
    let out := if path.isEmpty then gap out else out
    let out := out ++ indent path.length ++ text "[" ++ fullName name ++ text "]\n"
    writeHeaders path (writeHeaders name (writePlain name out inner) inner) fs
  | (k, .list xs) :: fs =>
    let out := if hasHeader (.list xs) then writeItems (path ++ [k]) out xs else out
    writeHeaders path out fs
  | _ :: fs => writeHeaders path out fs

def writeItems (name : List Text) (out : Text) : List Datum → Text
  | [] => out
  | .record inner :: xs =>
    let out := gap out ++ indent (name.length - 1) ++ text "[[" ++ fullName name ++ text "]]\n"
    writeItems name (writeHeaders name (writePlain name out inner) inner) xs
  | _ :: xs => writeItems name out xs

end

/-- A record as a text of its own. -/
def write : Datum → Text
  | .record fs => writeHeaders [] (writePlain [] [] fs) fs
  | d => inline d

end DocAccessors.Toml
