import DocAccessors.Directive.Option
import DocAccessors.Source.Parse

/-!
# Option lists

The arguments of a directive are options with commas between them. They are read from left to right. What is wrong
with one option is reported, and reading goes on behind the next comma outside brackets, so that the other options are
read all the same.

* `cutFrom` cuts a list of tokens at the first comma outside brackets;
* `readFrom` reads one option after another, and finds its way back after a problem;
* `readOptions` reads a whole list: the options, and the failure made of the problems.
-/

namespace DocAccessors

open DocAccessors.Source (Lexeme Token)

namespace OptionList

/-- A list of options being read: its text, where it stands, and the keys it may have. -/
structure Input where
  src : Text
  base : Pos
  keys : KeySet

/-- The length of a token in the text. -/
def tokenLength (t : Lexeme) : Nat := if t.lit.isEmpty then t.token.spelling.length else t.lit.length

/-- A token as it is named in a message. -/
def describe (t : Lexeme) : Text :=
  text "`" ++ (if t.lit.isEmpty then t.token.spelling else t.lit) ++ text "`"

/-- The span of `n` bytes at an offset. -/
def Input.span (i : Input) (offset n : Nat) : Span := Span.ofLength (i.base + offset) n

def Input.tokenSpan (i : Input) (t : Lexeme) : Span := i.span t.offset (tokenLength t)

/-- The number of bytes from the first token to the end of the last one. -/
def extent (first : Lexeme) (rest : List Lexeme) : Nat :=
  let last := rest.getLast?.getD first
  last.offset + tokenLength last - first.offset

/-- The text from the first token to the end of the last one. -/
def Input.textOf (i : Input) (first : Lexeme) (rest : List Lexeme) : Text :=
  (i.src.drop first.offset).take (extent first rest)

/-! ## Commas outside brackets -/

/-- How a token changes the nesting of brackets; it never goes below zero. -/
def depthAfter (depth : Nat) : Token → Nat
  | .lparen | .lbrack | .lbrace => depth + 1
  | .rparen | .rbrack | .rbrace => depth - 1
  | _ => depth

/-- The tokens before the next comma outside brackets, and those from that comma on. -/
def cutFrom (depth : Nat) : List Lexeme → List Lexeme × List Lexeme
  | [] => ([], [])
  | t :: ts =>
    if t.token == .comma && depth == 0 then ([], t :: ts)
    else
      let (before, after) := cutFrom (depthAfter depth t.token) ts
      (t :: before, after)

/-- The tokens behind the next comma outside brackets. -/
def resume (ts : List Lexeme) : List Lexeme := (cutFrom 0 ts).2.tail

theorem length_cutFrom (depth : Nat) (ts : List Lexeme) : (cutFrom depth ts).2.length ≤ ts.length := by
  induction ts generalizing depth with
  | nil => exact Nat.le_refl 0
  | cons t ts ih =>
    unfold cutFrom
    split
    · exact Nat.le_refl _
    · exact Nat.le_succ_of_le (ih _)

theorem length_resume (ts : List Lexeme) : (resume ts).length ≤ ts.length - 1 := by
  rw [resume, List.length_tail]
  exact Nat.sub_le_sub_right (length_cutFrom 0 ts) 1

/-! ## Values -/

/-- The text of a value that is a single string literal. -/
def stringLiteral? (first : Lexeme) (rest : List Lexeme) : Option Text :=
  if rest.isEmpty && first.token == .string then Text.unquote? first.lit else none

/-- The word of a value that is a single name. -/
def word? (first : Lexeme) (rest : List Lexeme) : Option Text :=
  if rest.isEmpty && first.token == .ident then some first.lit else none

/-- Reads the value of a key from its tokens; a value that the key cannot take is described. -/
def Input.value (i : Input) (k : OptionKind) (first : Lexeme) (rest : List Lexeme) : Except Text OptionValue :=
  let source := i.textOf first rest
  match k with
  | .vis =>
    match (word? first rest).bind Visibility.ofName? with
    | some v => .ok (.vis v)
    | none => .error (text "invalid visibility " ++ source ++ text "; expected `exported` or `unexported`")
  | .rename =>
    match stringLiteral? first rest with
    | some s => .ok (.rename s)
    | none => .error "`rename` expects a string literal"
  | .renameAll =>
    match stringLiteral? first rest with
    | none => .error "`rename_all` expects a string literal"
    | some s =>
      match CaseConvention.ofName? s with
      | some c => .ok (.renameAll c)
      | none =>
        .error (text "unknown case convention " ++ Text.quote s ++ text "; expected one of " ++
          Text.join ", " (CaseConvention.all.map fun c => Text.quote c.name))
  | .default =>
    match Source.Expr.parse source with
    | .ok _ => .ok (.default source)
    | .error fs => .error (text "`default` is not a valid expression: " ++ Source.SyntaxFault.summary fs)
  | .trim =>
    match word? first rest with
    | some w =>
      if w == text "true" then .ok (.trim true)
      else if w == text "false" then .ok (.trim false)
      else .error (text "`trim` expects `true` or `false`, found " ++ source)
    | none => .error (text "`trim` expects `true` or `false`, found " ++ source)

/-- The key that a token names in a key set. -/
def Input.key? (i : Input) (t : Lexeme) : Option OptionKind :=
  (OptionKind.ofName? t.lit).filter fun k => i.keys.contains k

/-- What is said about a name that is no key. -/
def Input.unknownKey (i : Input) (t : Lexeme) : Text :=
  match OptionKind.replacement? t.lit with
  | some r => text "option `" ++ t.lit ++ text "` has been renamed; use `" ++ r ++ text "` instead"
  | none => text "unexpected option `" ++ t.lit ++ text "`; expected one of " ++ KeySet.render i.keys

/-! ## Problems -/

/-- A token stands where a key is expected. -/
def Input.noKey (i : Input) (t : Lexeme) : Diagnostic :=
  .error .invalidSyntax (i.tokenSpan t) (text "expected option name, found " ++ describe t)

/-- A name is no key of the set. -/
def Input.notInSet (i : Input) (key : Lexeme) : Diagnostic := .error .unknownOption (i.tokenSpan key) (i.unknownKey key)

/-- The token after a key, if there is one, is no equals sign. -/
def Input.noEquals (i : Input) (key : Lexeme) (found : Option Lexeme) : Diagnostic :=
  .error .invalidSyntax (i.tokenSpan (found.getD key))
    (text "expected `=` after `" ++ key.lit ++ text "`, found " ++ (found.map describe).getD "end of list")

/-- No value stands behind the equals sign. -/
def Input.noValue (i : Input) (key equals : Lexeme) : Diagnostic :=
  .error .malformedValue (i.tokenSpan equals) (text "missing value for `" ++ key.lit ++ text "`")

/-- The option made of a key and the tokens of its value. -/
def Input.option (i : Input) (key : Lexeme) (k : OptionKind) (first : Lexeme) (rest : List Lexeme) :
    Except Diagnostic ReadOption :=
  let valueSpan := i.span first.offset (extent first rest)
  match i.value k first rest with
  | .ok v => .ok ⟨v, i.tokenSpan key, valueSpan⟩
  | .error message => .error (.error .malformedValue valueSpan message)

/-! ## Whole lists -/

/-- Reads the options of a list of tokens one after another. After a problem, reading goes on behind the next comma
outside brackets, counting from the token where the problem was found. -/
def Input.readFrom (i : Input) (tokens : List Lexeme) : List (Except Diagnostic ReadOption) :=
  match tokens with
  | [] => []
  | key :: tokens =>
    if key.token != .ident && !key.token.isKeyword then .error (i.noKey key) :: i.readFrom (resume (key :: tokens))
    else match i.key? key with
      | none => .error (i.notInSet key) :: i.readFrom (resume tokens)
      | some k =>
        match tokens with
        | [] => [.error (i.noEquals key none)]
        | equals :: tokens =>
          if equals.token != .assign then
            .error (i.noEquals key (some equals)) :: i.readFrom (resume (equals :: tokens))
          else
            let after := i.readFrom (resume tokens)
            match (cutFrom 0 tokens).1 with
            | [] => .error (i.noValue key equals) :: after
            | first :: rest => i.option key k first rest :: after
  termination_by tokens.length
  decreasing_by all_goals grind [length_resume]

/-- Whether a lexeme takes part in an option list: comments, line breaks and the end do not. -/
def isSignificant (l : Lexeme) : Bool :=
  l.token != .comment && l.token != .eof && !(l.token == .semicolon && l.lit == text "\n")

/-- The options of a list that reads without faults, and the problems. -/
def Input.read (i : Input) (lexemes : List Lexeme) : List ReadOption × List Diagnostic :=
  let results := i.readFrom (lexemes.filter isSignificant)
  (results.filterMap fun
      | .ok o => some o
      | .error _ => none,
    results.filterMap fun
      | .ok _ => none
      | .error d => some d)

end OptionList

/-- Reads an option list that stands at `base`. Every problem is reported, and the options that are good are
returned beside it; a text with unreadable tokens has no options. -/
def readOptions (src : Text) (base : Pos) (keys : KeySet) : List ReadOption × Option Failure :=
  let i : OptionList.Input := ⟨src, base, keys⟩
  let lexemes := (Source.lex [] src).1
  match lexemes.flatMap (·.faults) with
  | [] =>
    let (os, ds) := i.read lexemes
    (os, Failure.ofDiagnostics? ds)
  | fs => ([], some (.diagnosed (fs.map fun f => Diagnostic.error .invalidSyntax (i.span f.offset 1) f.message)))

end DocAccessors
