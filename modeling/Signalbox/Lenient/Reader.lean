import Signalbox.Lenient.Basic
import Signalbox.Text.Letter

/-!
# Reading lenient documents

`Lenient.read?` reads a text that is one lenient document. Every step of it takes something off the front of
the text and gives the rest, or nothing when the text is malformed.
-/

namespace Signalbox.Lenient

/-- The characters that end a line. -/
def isLineEnd (c : Char) : Bool :=
  c = '\n' || c = '\r' || c = '\u2028' || c = '\u2029'

/-- The characters between the parts of a document. -/
def isSpace (c : Char) : Bool :=
  c = '\t' || c = '\x0b' || c = '\x0c' || c = '\ufeff' || isLineEnd c || Text.isSpaceSeparator c

/-- Where in the gap between two parts of a document a character stands. -/
inductive Gap where
  | blank
  | lineComment
  | blockComment
  deriving DecidableEq, Repr

/-- Passes over blanks and comments. A comment that is not closed is malformed. -/
def skipGap : Gap → List Char → Option (List Char)
  | .blockComment, [] => none
  | _, [] => some []
  | .blank, '/' :: '/' :: rest => skipGap .lineComment rest
  | .blank, '/' :: '*' :: rest => skipGap .blockComment rest
  | .blank, c :: rest => if isSpace c then skipGap .blank rest else some (c :: rest)
  | .lineComment, c :: rest => if isLineEnd c then skipGap .blank rest else skipGap .lineComment rest
  | .blockComment, '*' :: '/' :: rest => skipGap .blank rest
  | .blockComment, _ :: rest => skipGap .blockComment rest

/-- The rest of a text after a gap. -/
def skipSpace (cs : List Char) : Option (List Char) :=
  skipGap .blank cs

/-- The character with a code point. -/
def charOf? (n : Nat) : Option Char :=
  if n.isValidChar then some (Char.ofNat n) else none

/-- The character that a letter stands for after a backslash. -/
def escaped (c : Char) : Char :=
  match c with
  | 'b' => '\x08'
  | 'f' => '\x0c'
  | 'n' => '\n'
  | 'r' => '\r'
  | 't' => '\t'
  | 'v' => '\x0b'
  | c => c

/-- Puts a character in front of a text that was read; a text with a character missing is missing. -/
def prepend (c : Option Char) (read : Option (List Char) × List Char) :
    Option (List Char) × List Char :=
  ((c.bind fun c => read.1.map (c :: ·)), read.2)

/-- Reads a text up to the quote that it began with. A backslash at the end of a line joins it to the
next. -/
def readQuoted (quote : Char) : List Char → Option (Option (List Char) × List Char)
  | [] => none
  | '\\' :: 'x' :: a :: b :: rest =>
    if [a, b].all Text.isHexDigit then
      (readQuoted quote rest).map (prepend (charOf? (Text.ofHexDigits [a, b])))
    else none
  | '\\' :: 'u' :: a :: b :: c :: d :: rest =>
    if [a, b, c, d].all Text.isHexDigit then
      (readQuoted quote rest).map (prepend (charOf? (Text.ofHexDigits [a, b, c, d])))
    else none
  | '\\' :: '\r' :: '\n' :: rest => readQuoted quote rest
  | '\\' :: c :: rest =>
    if c = 'x' ∨ c = 'u' then none
    else if c = '0' then (readQuoted quote rest).map (prepend (some '\x00'))
    else if Text.isAsciiDigit c then none
    else if isLineEnd c then readQuoted quote rest
    else (readQuoted quote rest).map (prepend (some (escaped c)))
  | c :: rest =>
    if c = quote then some (some [], rest)
    else if c = '\\' ∨ isLineEnd c then none
    else (readQuoted quote rest).map (prepend (some c))

/-- The characters that a name starts with. -/
def isNameStart (c : Char) : Bool :=
  c = '$' || c = '_' || Text.isLetter c

/-- The characters that a name goes on with. -/
def isNamePart (c : Char) : Bool :=
  isNameStart c || Text.isMark c || Text.isDecimalDigit c || Text.isConnector c ||
    c = '\u200c' || c = '\u200d'

/-- Reads a name as far as it goes. -/
def readNameParts : List Char → Option (List Char) × List Char
  | '\\' :: 'u' :: a :: b :: c :: d :: rest =>
    if [a, b, c, d].all Text.isHexDigit then
      prepend (charOf? (Text.ofHexDigits [a, b, c, d])) (readNameParts rest)
    else (some [], '\\' :: 'u' :: a :: b :: c :: d :: rest)
  | c :: rest => if isNamePart c then prepend (some c) (readNameParts rest) else (some [], c :: rest)
  | [] => (some [], [])

/-- Reads the key of an entry: a name or a text. -/
def readKey (cs : List Char) : Option (Option (List Char) × List Char) :=
  match cs with
  | '"' :: rest => readQuoted '"' rest
  | '\'' :: rest => readQuoted '\'' rest
  | c :: rest =>
    if isNameStart c then some (prepend (some c) (readNameParts rest))
    else
      match c, rest with
      | '\\', 'u' :: a :: b :: x :: y :: rest =>
        if [a, b, x, y].all Text.isHexDigit then
          some (prepend (charOf? (Text.ofHexDigits [a, b, x, y])) (readNameParts rest))
        else none
      | _, _ => none
  | [] => none

/-- Reads a word that must be there. -/
def readWord : (word : List Char) → List Char → Option (List Char)
  | [], cs => some cs
  | w :: word, c :: cs => if w = c then readWord word cs else none
  | _ :: _, [] => none

/-- Reads an exponent, if there is a whole one. -/
def readExponent (cs : List Char) : Option Int × List Char :=
  match cs with
  | c :: rest =>
    if c = 'e' ∨ c = 'E' then
      let (negative, rest) := match rest with
        | '-' :: rest => (true, rest)
        | '+' :: rest => (false, rest)
        | rest => (false, rest)
      let digits := rest.takeWhile Text.isAsciiDigit
      if digits.isEmpty then (none, cs)
      else
        let e : Int := Text.ofDigits digits
        (some (if negative then -e else e), rest.dropWhile Text.isAsciiDigit)
    else (none, cs)
  | [] => (none, [])

/-- Reads the digits before the point: a zero alone, or digits that start with another one, or none. -/
def readWhole (cs : List Char) : List Char × List Char :=
  match cs with
  | '0' :: rest => (['0'], rest)
  | cs => (cs.takeWhile Text.isAsciiDigit, cs.dropWhile Text.isAsciiDigit)

/-- Reads a decimal numeral: digits on at least one side of the point, if there is one. -/
def readDecimal (cs : List Char) : Option (Magnitude × List Char) :=
  let (whole, afterWhole) := readWhole cs
  match afterWhole with
  | '.' :: rest =>
    let fraction := rest.takeWhile Text.isAsciiDigit
    if whole.isEmpty ∧ fraction.isEmpty then none
    else
      let (exponent, rest) := readExponent (rest.dropWhile Text.isAsciiDigit)
      some (.decimal whole (some fraction) exponent, rest)
  | rest =>
    if whole.isEmpty then none
    else
      let (exponent, rest) := readExponent rest
      some (.decimal whole none exponent, rest)

/-- Reads a numeral without its sign. -/
def readMagnitude (cs : List Char) : Option (Magnitude × List Char) :=
  match cs with
  | 'I' :: rest => (readWord "nfinity".toList rest).map (.infinity, ·)
  | 'N' :: rest => (readWord "aN".toList rest).map (.nan, ·)
  | '0' :: x :: rest =>
    let digits := rest.takeWhile Text.isHexDigit
    if (x = 'x' ∨ x = 'X') ∧ ¬ digits.isEmpty then
      some (.hex digits, rest.dropWhile Text.isHexDigit)
    else readDecimal cs
  | cs => readDecimal cs

/-- Reads a numeral. -/
def readNumeral (cs : List Char) : Option (Numeral × List Char) :=
  let (sign, rest) : Sign × List Char := match cs with
    | '+' :: rest => (.plus, rest)
    | '-' :: rest => (.minus, rest)
    | cs => (.none, cs)
  (readMagnitude rest).map fun (magnitude, rest) => (⟨sign, magnitude⟩, rest)

/-- The text between quotes as a document. -/
def ofQuoted (read : Option (List Char) × List Char) : Lenient × List Char :=
  (.text (read.1.map String.ofList), read.2)

mutual

/-- Reads a value where one must start. Every call reads a character or is followed by one that does, so
twice the length of the text is fuel enough. -/
def readValue : (fuel : Nat) → List Char → Option (Lenient × List Char)
  | 0, _ => none
  | fuel + 1, cs =>
    match cs with
    | 'n' :: rest => (readWord "ull".toList rest).map (.null, ·)
    | 't' :: rest => (readWord "rue".toList rest).map (.bool true, ·)
    | 'f' :: rest => (readWord "alse".toList rest).map (.bool false, ·)
    | '"' :: rest => (readQuoted '"' rest).map ofQuoted
    | '\'' :: rest => (readQuoted '\'' rest).map ofQuoted
    | '[' :: rest => (readItems fuel rest).map fun (items, rest) => (.list items, rest)
    | '\x7b' :: rest => (readEntries fuel rest).map fun (entries, rest) => (.map entries, rest)
    | cs => (readNumeral cs).map fun (n, rest) => (.numeral n, rest)

/-- Reads the items of a list up to its end, from its start or from behind a comma. -/
def readItems : (fuel : Nat) → List Char → Option (List Lenient × List Char)
  | 0, _ => none
  | fuel + 1, cs => do
    match ← skipSpace cs with
    | ']' :: rest => return ([], rest)
    | cs =>
      let (item, rest) ← readValue fuel cs
      match ← skipSpace rest with
      | ']' :: rest => return ([item], rest)
      | ',' :: rest =>
        let (items, rest) ← readItems fuel rest
        return (item :: items, rest)
      | _ => none

/-- Reads the entries of a map up to its end, from its start or from behind a comma. -/
def readEntries : (fuel : Nat) → List Char → Option (List (Option String × Lenient) × List Char)
  | 0, _ => none
  | fuel + 1, cs => do
    match ← skipSpace cs with
    | '\x7d' :: rest => return ([], rest)
    | cs =>
      let (key, rest) ← readKey cs
      let key := key.map String.ofList
      match ← skipSpace rest with
      | ':' :: rest =>
        let (value, rest) ← readValue fuel (← skipSpace rest)
        match ← skipSpace rest with
        | '\x7d' :: rest => return ([(key, value)], rest)
        | ',' :: rest =>
          let (entries, rest) ← readEntries fuel rest
          return ((key, value) :: entries, rest)
        | _ => none
      | _ => none

end

/-- Reads a text that is one lenient document. -/
def read? (text : String) : Option Lenient := do
  let cs := text.toList
  let (d, rest) ← readValue (2 * cs.length + 2) (← skipSpace cs)
  match ← skipSpace rest with
  | [] => return d
  | _ => none

end Signalbox.Lenient
