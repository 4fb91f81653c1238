import DocAccessors.CommandLine.Flag
import DocAccessors.Text.LetterCase

/-!
# Commands

* `Command`: what can be asked for, and the flags of each command;
* `Command.find` tells which command arguments ask for. A word that is no command is refused, with the names of
  commands that are spelled nearly alike.
-/

namespace DocAccessors

/-- What can be asked for. -/
inductive Command where
  /-- No command in particular. -/
  | root
  | generate | check | dump | version
  /-- Explains the commands. -/
  | help
  /-- Writes scripts for command shells. -/
  | completion
  deriving DecidableEq, Repr

namespace Command

def programName : Text := "gondoc"

/-- The commands that can be named, in the order in which they are suggested. -/
def named : List Command := [.generate, .check, .dump, .version, .help, .completion]

def name : Command → Text
  | .root => programName
  | .generate => "generate"
  | .check => "check"
  | .dump => "dump"
  | .version => "version"
  | .help => "help"
  | .completion => "completion"

def sharedFlags : List Flag := [
  { name := "config", letter := some 99 },
  { name := "log-level" },
  { name := "color" },
  { name := "max-diagnostics", kind := .int },
  { name := "jobs", kind := .int },
  { name := "output", letter := some 111 },
  { name := "prefix" }]

/-- The flags of a command beside those of all commands. -/
def ownFlags : Command → List Flag
  | .generate => [{ name := "warnings-as-errors", kind := .switch }]
  | .check => [{ name := "warnings-as-errors", kind := .switch }, { name := "no-stale", kind := .switch }]
  | .dump => [{ name := "format", letter := some 102 }, { name := "out" }]
  | .version => [{ name := "json", kind := .switch }]
  | .root => [{ name := "version", letter := some 118, kind := .switch }]
  | .help | .completion => []

/-- The flag that asks for an explanation. -/
def helpFlag : Flag := { name := "help", letter := some 104, kind := .switch }

def flags (c : Command) : List Flag := sharedFlags ++ c.ownFlags ++ [helpFlag]

/-! ## Finding the command -/

/-- Whether an argument before the command takes the next one as its value. -/
def takesNext (argument : Text) : Bool :=
  !argument.any (· == 61) &&
    (Text.startsWith argument "--" || (argument.head? == some 45 && argument.length == 2))

/-- The first argument that is neither a flag nor the value of one, and the arguments without it. -/
def splitWord? : List Text → Option (Text × List Text)
  | [] => none
  | a :: args =>
    if a == text "--" then none
    else if takesNext a then
      match args with
      | v :: b :: rest => (splitWord? (b :: rest)).map fun (w, others) => (w, a :: v :: others)
      | _ => none
    else if a.isEmpty || a.head? == some 45 then (splitWord? args).map fun (w, others) => (w, a :: others)
    else some (a, args)

/-- The next row of the table of edit distances: `above` belongs to the row before, `left` is the entry to the
left, and `corner` the one above it. -/
def nextRow (b : UInt8) (left corner : Nat) : List (UInt8 × Nat) → List Nat
  | [] => []
  | (a, above) :: rest =>
    let best := if a == b then corner else 1 + min (min left above) corner
    best :: nextRow b best above rest

/-- How many bytes have to be inserted, deleted or replaced to turn one text into another. -/
def editDistance (s t : Text) : Nat :=
  let step (row : Nat × List Nat) (b : UInt8) : Nat × List Nat :=
    (row.1 + 1, nextRow b (row.1 + 1) row.1 (s.zip row.2))
  let (first, row) := t.foldl step (0, (List.range s.length).map (· + 1))
  row.getLastD first

/-- How far a command may be from a word to be suggested. -/
def suggestionDistance : Nat := 2

/-- The commands that a word may have been meant for. -/
def suggestions (word : Text) : List Command :=
  named.filter fun c => c != .help &&
    (editDistance (Text.simpleLower word) c.name ≤ suggestionDistance ||
      Text.startsWith c.name (Text.simpleLower word))

/-- What is said about a word that is no command. -/
def unknownMessage (word : Text) : Text :=
  text "unknown command " ++ Text.quote word ++ text " for " ++ Text.quote programName ++
    match suggestions word with
    | [] => []
    | cs => text "\n\nDid you mean this?\n" ++ cs.flatMap fun c => text "\t" ++ c.name ++ text "\n"

/-- The command that arguments ask for, and the arguments for it; or the word that is no command. -/
def find (args : List Text) : Except Text (Command × List Text) :=
  match splitWord? args with
  | none => .ok (.root, args)
  | some (word, rest) =>
    match named.find? fun c => c.name == word with
    | some c => .ok (c, rest)
    | none => .error word

end Command

end DocAccessors
