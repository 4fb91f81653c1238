import DocAccessors.Text.Class

/-!
# Names as words

A name is cut into words at separators and where the kind of letter changes, and the words are put together
again. Only ASCII letters and digits are seen: other bytes take part in no word.

* `joinWords` runs the words together, each with a capital;
* `delimitWords` puts a separator between them, all in one case;
* `WordRules` is a way to do both, whatever counts as a word; `asciiWords` is the one given here.
-/

namespace DocAccessors.Text

/-- What separates the words of a name: a blank, an underscore, a hyphen or a dot. -/
def isWordSeparator (b : UInt8) : Bool := b == 32 || b == 95 || b == 45 || b == 46

/-- The state of running words together: whether the next letter starts a word, whether the letter before was
a capital, whether this is the first byte. -/
structure WordState where
  startsWord : Bool
  afterCapital : Bool
  atStart : Bool

/-- Runs words together. `keepCapitals` keeps a capital after a capital. -/
def joinWordsFrom (keepCapitals : Bool) (s : WordState) : Text → Text
  | [] => []
  | b :: r =>
    let cased :=
      if s.startsWord then upperByte b
      else if s.atStart then lowerByte b
      else if s.afterCapital && isUpperByte b && !keepCapitals then lowerByte b
      else b
    let next (startsWord : Bool) : WordState := ⟨startsWord, isUpperByte b, false⟩
    if isUpperByte b || isLowerByte b then cased :: joinWordsFrom keepCapitals (next false) r
    else if isDigitByte b then b :: joinWordsFrom keepCapitals (next true) r
    else joinWordsFrom keepCapitals (next (isWordSeparator b)) r

/-- The words of a name run together, each with a capital; the first one only if `capital` is set. The name
`ID` alone is one word. -/
def joinWords (capital : Bool) (name : Text) : Text :=
  let t := trim name
  if t == text "ID" then joinWordsFrom true ⟨capital, false, true⟩ "id"
  else joinWordsFrom false ⟨capital, false, true⟩ t

/-- Puts `sep` between words. `before` is the byte before, if there is one. -/
def delimitWordsFrom (sep : UInt8) (screaming : Bool) (before : Option UInt8) : Text → Text
  | [] => []
  | b :: r =>
    let cased := if screaming then upperByte b else lowerByte b
    let plain := (if isWordSeparator cased then sep else cased) :: delimitWordsFrom sep screaming (some b) r
    match r with
    | [] => plain
    | n :: _ =>
      let changes := (isUpperByte b && (isLowerByte n || isDigitByte n)) ||
        (isLowerByte b && (isUpperByte n || isDigitByte n)) ||
        (isDigitByte b && (isUpperByte n || isLowerByte n))
      if changes then
        (if isUpperByte b && isLowerByte n && before.any isUpperByte then [sep] else []) ++ [cased] ++
          (if isLowerByte b || isDigitByte b || isDigitByte n then [sep] else []) ++
          delimitWordsFrom sep screaming (some b) r
      else plain

/-- The words of a name with `sep` between them, in upper case if `screaming` is set, else in lower case. -/
def delimitWords (sep : UInt8) (screaming : Bool) (name : Text) : Text :=
  delimitWordsFrom sep screaming none (trim name)

/-! ## Words as given -/

/-- How the words of a name are put together: run together, the first one with a capital if that is asked for, or with a
separator between them, in upper case if that is asked for. -/
class WordRules where
  join : Bool → Text → Text
  delimit : UInt8 → Bool → Text → Text

/-- The words that are made of ASCII letters and digits. -/
instance asciiWords : WordRules := ⟨joinWords, delimitWords⟩

end DocAccessors.Text
