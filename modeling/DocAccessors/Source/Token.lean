import DocAccessors.Text.Basic

/-!
# Tokens of the Go language

The kinds of tokens, how operators and keywords are spelled, and the binding strength of binary operators.
-/

namespace DocAccessors.Source

/-- The kind of a token. Keywords start with `k`. -/
inductive Token where
  | illegal | eof | comment | ident | int | float | imag | char | string
  | add | sub | mul | quo | rem | and | or | xor | shl | shr | andNot | addAssign | subAssign | mulAssign
  | quoAssign | remAssign | andAssign | orAssign | xorAssign | shlAssign | shrAssign | andNotAssign | land
  | lor | arrow | inc | dec | eql | lss | gtr | assign | not | neq | leq | geq | define | ellipsis | lparen
  | lbrack | lbrace | comma | period | rparen | rbrack | rbrace | semicolon | colon | tilde
  | kBreak | kCase | kChan | kConst | kContinue | kDefault | kDefer | kElse | kFallthrough | kFor | kFunc | kGo
  | kGoto | kIf | kImport | kInterface | kMap | kPackage | kRange | kReturn | kSelect | kStruct | kSwitch
  | kType | kVar
  deriving DecidableEq, Repr, Inhabited

namespace Token

def keywords : List (Text × Token) := [
  ("break", .kBreak), ("case", .kCase), ("chan", .kChan), ("const", .kConst), ("continue", .kContinue),
  ("default", .kDefault), ("defer", .kDefer), ("else", .kElse), ("fallthrough", .kFallthrough), ("for", .kFor),
  ("func", .kFunc), ("go", .kGo), ("goto", .kGoto), ("if", .kIf), ("import", .kImport),
  ("interface", .kInterface), ("map", .kMap), ("package", .kPackage), ("range", .kRange), ("return", .kReturn),
  ("select", .kSelect), ("struct", .kStruct), ("switch", .kSwitch), ("type", .kType), ("var", .kVar)]

/-- The keyword with a spelling, or an identifier. -/
def ofWord (w : Text) : Token := (keywords.lookup w).getD .ident

/-- The spelling of an operator or keyword, and the name of any other kind. -/
def spelling : Token → Text
  | .illegal => "ILLEGAL"
  | .eof => "EOF"
  | .comment => "COMMENT"
  | .ident => "IDENT"
  | .int => "INT"
  | .float => "FLOAT"
  | .imag => "IMAG"
  | .char => "CHAR"
  | .string => "STRING"
  | .add => "+"
  | .sub => "-"
  | .mul => "*"
  | .quo => "/"
  | .rem => "%"
  | .and => "&"
  | .or => "|"
  | .xor => "^"
  | .shl => "<<"
  | .shr => ">>"
  | .andNot => "&^"
  | .addAssign => "+="
  | .subAssign => "-="
  | .mulAssign => "*="
  | .quoAssign => "/="
  | .remAssign => "%="
  | .andAssign => "&="
  | .orAssign => "|="
  | .xorAssign => "^="
  | .shlAssign => "<<="
  | .shrAssign => ">>="
  | .andNotAssign => "&^="
  | .land => "&&"
  | .lor => "||"
  | .arrow => "<-"
  | .inc => "++"
  | .dec => "--"
  | .eql => "=="
  | .lss => "<"
  | .gtr => ">"
  | .assign => "="
  | .not => "!"
  | .neq => "!="
  | .leq => "<="
  | .geq => ">="
  | .define => ":="
  | .ellipsis => "..."
  | .lparen => "("
  | .lbrack => "["
  | .lbrace => "\x7b"
  | .comma => ","
  | .period => "."
  | .rparen => ")"
  | .rbrack => "]"
  | .rbrace => "\x7d"
  | .semicolon => ";"
  | .colon => ":"
  | .tilde => "~"
  | .kBreak => "break"
  | .kCase => "case"
  | .kChan => "chan"
  | .kConst => "const"
  | .kContinue => "continue"
  | .kDefault => "default"
  | .kDefer => "defer"
  | .kElse => "else"
  | .kFallthrough => "fallthrough"
  | .kFor => "for"
  | .kFunc => "func"
  | .kGo => "go"
  | .kGoto => "goto"
  | .kIf => "if"
  | .kImport => "import"
  | .kInterface => "interface"
  | .kMap => "map"
  | .kPackage => "package"
  | .kRange => "range"
  | .kReturn => "return"
  | .kSelect => "select"
  | .kStruct => "struct"
  | .kSwitch => "switch"
  | .kType => "type"
  | .kVar => "var"

def isKeyword (t : Token) : Bool := keywords.any fun (_, k) => k == t

/-- Whether the token is an identifier or a basic literal. -/
def isLiteral : Token → Bool
  | .ident | .int | .float | .imag | .char | .string => true
  | _ => false

/-- The binding strength of a binary operator; `0` for any other token. -/
def precedence : Token → Nat
  | .lor => 1
  | .land => 2
  | .eql | .neq | .lss | .leq | .gtr | .geq => 3
  | .add | .sub | .or | .xor => 4
  | .mul | .quo | .rem | .shl | .shr | .and | .andNot => 5
  | _ => 0

/-- Whether a line break after the token ends a statement. -/
def endsStatement : Token → Bool
  | .ident | .int | .float | .imag | .char | .string => true
  | .kBreak | .kContinue | .kFallthrough | .kReturn => true
  | .inc | .dec | .rparen | .rbrack | .rbrace => true
  | _ => false

end Token

end DocAccessors.Source
