import DocAccessors.Text.Quoted

/-!
# Import paths

`ImportPath.problem?` is what is wrong with an import path: its elements are made of some characters only, and must be
possible as names of files on all systems.
-/

namespace DocAccessors.ImportPath

/-- Whether a code point can stand in an import path. -/
def isPathChar (c : Char) : Bool := c.isAlphanum || "-._~+".toList.contains c

/-- Names that are not possible on some systems. -/
def reservedNames : List Text :=
  let numbered (n : Text) : List Text := (List.range 9).map fun i => n ++ Text.ofNat (i + 1)
  [text "con", text "prn", text "aux", text "nul"] ++ numbered "com" ++ numbered "lpt"

/-- Whether a name ends in a tilde and digits. -/
def looksShortened (name : Text) : Bool :=
  match Text.lastIndexOf? name 126 with
  | some i => i + 1 < name.length && (name.drop (i + 1)).all Text.isDigitByte
  | none => false

/-- What is wrong with an element of a path. -/
def elementProblem? (e : Text) : Option Text :=
  let short := e.takeWhile (· != 46)
  if e.isEmpty then some "empty path element"
  else if e.all (· == 46) then some (text "invalid path element " ++ Text.quote e)
  else if e.getLast? == some 46 then some "trailing dot in path element"
  else match (Text.chars e).find? fun c => !isPathChar c with
    | some c => some (text "invalid char " ++ Text.quoteChar c)
    | none =>
      if reservedNames.contains (short.map Text.lowerByte) then
        some (Text.quote short ++ text " disallowed as path element component on Windows")
      else if looksShortened short then some "trailing tilde and digits in path element"
      else none

/-- What is wrong with an import path. -/
def problem? (path : Text) : Option Text :=
  let what :=
    if !Text.isValid path then some (text "invalid UTF-8")
    else if path.isEmpty then some (text "empty string")
    else if path.head? == some 45 then some (text "leading dash")
    else if Text.contains path "//" then some (text "double slash")
    else if path.getLast? == some 47 then some (text "trailing slash")
    else (Text.split 47 path).findSome? elementProblem?
  what.map fun w => text "malformed import path " ++ Text.quote path ++ text ": " ++ w

end DocAccessors.ImportPath
