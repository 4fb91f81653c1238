import DocAccessors.Source.Grammar.Statements
import DocAccessors.Source.Nesting

/-!
# Reading files and expressions

* `File.parse` reads a source file with its comments, `File.attempt` one that may have faults;
* `Expr.parse` reads a single expression;
* `SyntaxFault.summary` is the text for a list of faults: the first one, and how many more there are.
-/

namespace DocAccessors.Source

namespace SyntaxFault

/-- By file, line, column and message. -/
def lt (a b : SyntaxFault) : Bool :=
  if a.place.file != b.place.file then Text.lt a.place.file b.place.file
  else if a.place.line != b.place.line then a.place.line < b.place.line
  else if a.place.column != b.place.column then a.place.column < b.place.column
  else Text.lt a.message b.message

def sort (fs : List SyntaxFault) : List SyntaxFault := fs.mergeSort fun a b => !lt b a

def render (f : SyntaxFault) : Text :=
  if f.place.file.isEmpty && !f.place.isKnown then f.message else f.place.render ++ text ": " ++ f.message

def summary : List SyntaxFault → Text
  | [] => "no errors"
  | [f] => f.render
  | f :: fs => f.render ++ text " (and " ++ Text.ofNat fs.length ++ text " more errors)"

end SyntaxFault

/-- The file of a source text, with its line directives; it has at least one line. -/
def sourceFile (name : Text) (base : Nat) (src : Text) : SourceFile :=
  { SourceFile.ofText name base src with lineStarts := 0 :: Text.lineStartsFrom 0 src, marks := (lex name src).2 }

/-- Runs a rule over items: what it read, unless it had to give up, and the faults in order. -/
def attemptRule (keepsAll : Bool) (file : SourceFile) (items : List Item) (rule : Grammar.Rules → Grammar.Parse α) :
    Option α × List SyntaxFault :=
  let budget := 20 * items.length + 100
  let first := match items with
    | i :: _ => (Grammar.placed file i.faults).reverse
    | [] => []
  match (rule (Grammar.Rules.ofDepth budget (4 * items.length + 20))).run { file, items, faults := first, keepsAll } with
  | .error fs => (none, SyntaxFault.sort fs.reverse)
  | .ok (a, s) => (some a, SyntaxFault.sort s.faults.reverse)

/-- Runs a rule over items: what it read, or the faults in order. -/
def runRule (file : SourceFile) (items : List Item) (rule : Grammar.Rules → Grammar.Parse α) :
    Except (List SyntaxFault) α :=
  match attemptRule false file items rule with
  | (some a, []) => .ok a
  | (_, fs) => .error fs

/-- Reads a source file as far as possible, whatever its scopes: its tree, unless reading had to be given up, and
the faults in order. -/
def File.attemptFlat (file : SourceFile) (src : Text) (keepsAll : Bool := false) :
    Option File × List SyntaxFault :=
  let (items, comments) := Item.ofLexemes (fun o => (file.place o).line) (lex file.name src).1
  attemptRule keepsAll file items fun r => r.file comments

/-- Reads a source file as far as possible: its tree, unless reading had to be given up or its scopes nest too
deeply, and the faults in order. -/
def File.attempt (file : SourceFile) (src : Text) (keepsAll : Bool := false) : Option File × List SyntaxFault :=
  match File.attemptFlat file src keepsAll with
  | (some f, fs) => match f.deepScope? with
    | some o =>
      (none, SyntaxFault.sort (fs ++ [⟨file.place o, "exceeded max scope depth during object resolution"⟩]))
    | none => (some f, fs)
  | (none, fs) => (none, fs)

/-- Reads a source file as far as possible, with all its faults. -/
def File.attemptAll (file : SourceFile) (src : Text) : Option File × List SyntaxFault := File.attempt file src true

/-- Reads a source file: its tree, or the faults in order. -/
def File.parse (file : SourceFile) (src : Text) : Except (List SyntaxFault) File :=
  match File.attempt file src with
  | (some f, []) => .ok f
  | (_, fs) => .error fs

/-- Reads an expression: its tree, or the faults in order. -/
def Expr.parse (src : Text) : Except (List SyntaxFault) Expr :=
  runRule (sourceFile [] 1 src) (Item.dropComments [] (lex [] src).1) Grammar.Rules.wholeExpr

end DocAccessors.Source
