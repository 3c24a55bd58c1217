import Signalbox.Json.Draft

/-!
# Reading documents

`Draft.read` reads a text as a draft. Texts between quotes are read in two steps: `readPieces` finds the
characters and the 16-bit units of the escapes, and `joinPieces` makes characters of the units, where a
pair of surrogates is one character. `Json.read` reads a text that is one document and nothing else.
-/

namespace Signalbox.Json

/-- The blanks between the parts of a document. -/
def isSpace (c : Char) : Bool :=
  c == ' ' || c == '\n' || c == '\t' || c == '\r'

/-- The text from its first character on that is not blank. -/
def skipSpace (cs : List Char) : List Char :=
  cs.dropWhile isSpace

/-- A part of a text between quotes: a character, or a unit of 16 bits written as an escape. -/
inductive Piece where
  | char (c : Char)
  | unit (n : Nat)
  deriving DecidableEq, Repr

/-- How a text between quotes ends. -/
inductive Ending where
  | closed (rest : List Char)
  | textOver
  | control
  | badEscape
  | badUnit
  deriving Repr

/-- The fault of an ending, if it is one. -/
def Ending.fault? : Ending → Option Fault
  | .closed _ => none
  | .textOver => some .endInString
  | .control => some .controlCharacter
  | .badEscape => some .badEscape
  | .badUnit => some .badEscape

/-- The character that a short escape stands for. -/
def shortEscape? : Char → Option Char
  | '"' => some '"'
  | '\\' => some '\\'
  | '/' => some '/'
  | 'b' => some '\x08'
  | 'f' => some '\x0c'
  | 'n' => some '\n'
  | 'r' => some '\r'
  | 't' => some '\t'
  | _ => none

/-- The ending where four hexadecimal digits are missing: the text is over when fewer than four bytes
are left of it. -/
def missingDigits (cs : List Char) : Ending :=
  if (String.ofList cs).utf8ByteSize < 4 then .textOver else .badUnit

/-- Reads a text after its opening quote. -/
def readPieces : List Char → List Piece × Ending
  | [] => ([], .textOver)
  | '\\' :: 'u' :: a :: b :: c :: d :: rest =>
    if [a, b, c, d].all Text.isHexDigit then
      let (pieces, ending) := readPieces rest
      (.unit (Text.ofHexDigits [a, b, c, d]) :: pieces, ending)
    else ([], .badUnit)
  | '\\' :: 'u' :: rest => ([], missingDigits rest)
  | '\\' :: c :: rest =>
    match shortEscape? c with
    | some escaped =>
      let (pieces, ending) := readPieces rest
      (.char escaped :: pieces, ending)
    | none => ([], .badEscape)
  | ['\\'] => ([], .textOver)
  | '"' :: rest => ([], .closed rest)
  | c :: rest =>
    if c < ' ' then ([], .control)
    else
      let (pieces, ending) := readPieces rest
      (.char c :: pieces, ending)

/-- Holds of the units that open a surrogate pair. -/
def isLeading (n : Nat) : Bool := 0xD800 ≤ n && n ≤ 0xDBFF

/-- Holds of the units that close a surrogate pair. -/
def isTrailing (n : Nat) : Bool := 0xDC00 ≤ n && n ≤ 0xDFFF

/-- The character of a surrogate pair. -/
def joinPair (leading trailing : Nat) : Char :=
  Char.ofNat (0x10000 + (leading - 0xD800) * 0x400 + (trailing - 0xDC00))

/-- The fault of a leading surrogate that nothing follows but the ending. -/
def Ending.cutsOff : Ending → Fault
  | .textOver => .endInString
  | .badUnit => .badEscape
  | _ => .surrogateCutOff

/-- The characters of a text between quotes: its pieces, with the units of a surrogate pair joined. The
first unit without its partner is a fault, and so is an ending other than the closing quote. -/
def joinPieces (ending : Ending) : List Piece → Except Fault (List Char)
  | [] =>
    match ending.fault? with
    | some fault => .error fault
    | none => .ok []
  | .char c :: rest => (joinPieces ending rest).map (c :: ·)
  | .unit n :: rest =>
    if isTrailing n then .error .loneSurrogate
    else if ¬ isLeading n then (joinPieces ending rest).map (Char.ofNat n :: ·)
    else
      match rest with
      | .unit m :: rest =>
        if isTrailing m then (joinPieces ending rest).map (joinPair n m :: ·)
        else .error .loneSurrogate
      | .char _ :: _ => .error .surrogateCutOff
      | [] => .error ending.cutsOff

/-- A text between quotes, from after the opening one: what it says or why that cannot be told, and the
rest; or the place where reading breaks off. -/
def readString (cs : List Char) : Except Stop (Except Fault String × List Char) :=
  let (pieces, ending) := readPieces cs
  let joined := (joinPieces ending pieces).map String.ofList
  match ending with
  | .closed rest => .ok (joined, rest)
  | ending =>
    let skipped := ending.fault?.getD .endInString
    match joined with
    | .error fault => .error ⟨fault, skipped⟩
    | .ok _ => .error ⟨skipped, skipped⟩

/-- The place where a number breaks off: at the end of the text or at a character that does not belong. -/
def brokenNumber (cs : List Char) : Stop :=
  if cs.isEmpty then ⟨.endInValue, .badNumber⟩ else .both .badNumber

/-- The digits of a number's fraction or exponent, at least one, and the rest. -/
def readDigits (cs : List Char) : Except Stop (List Char × List Char) :=
  let digits := cs.takeWhile Text.isAsciiDigit
  if digits.isEmpty then .error (brokenNumber cs)
  else .ok (digits, cs.dropWhile Text.isAsciiDigit)

/-- The digits before the point: a zero alone, or digits that start with another one. -/
def readWhole (cs : List Char) : Except Stop (List Char × List Char) :=
  match cs with
  | '0' :: rest =>
    if (rest.head?.map Text.isAsciiDigit).getD false then .error (.both .badNumber)
    else .ok (['0'], rest)
  | _ => readDigits cs

/-- The fraction, if there is a point. -/
def readFraction (cs : List Char) : Except Stop (Option (List Char) × List Char) :=
  match cs with
  | '.' :: rest => do
    let (digits, rest) ← readDigits rest
    return (some digits, rest)
  | _ => return (none, cs)

/-- The exponent, if there is one. -/
def readExponent (cs : List Char) : Except Stop (Option Int × List Char) :=
  match cs with
  | c :: rest =>
    if c = 'e' ∨ c = 'E' then
      let (negative, rest) := match rest with
        | '-' :: rest => (true, rest)
        | '+' :: rest => (false, rest)
        | rest => (false, rest)
      do
        let (digits, rest) ← readDigits rest
        let e : Int := Text.ofDigits digits
        return (some (if negative then -e else e), rest)
    else return (none, cs)
  | [] => return (none, cs)

/-- The parts of a number and the rest. -/
def readParts (cs : List Char) : Except Stop (Number.Parts × List Char) := do
  let (negative, cs) := match cs with
    | '-' :: rest => (true, rest)
    | cs => (false, cs)
  let (whole, cs) ← readWhole cs
  let (fraction, cs) ← readFraction cs
  let (exponent, cs) ← readExponent cs
  return (⟨negative, whole, fraction, exponent⟩, cs)

/-- Reads the rest of a word whose first letter told which it is. -/
def readWord : (word : List Char) → List Char → Except Fault (List Char)
  | [], cs => .ok cs
  | _ :: _, [] => .error .endInValue
  | w :: word, c :: cs => if w = c then readWord word cs else .error .expectedWord

namespace Draft

/-- A draft and the rest of the text after it, which is gone once reading broke off. -/
abbrev Outcome := Draft × Option (List Char)

/-- The outcome of a word. -/
def ofWord (value : Draft) : Except Fault (List Char) → Outcome
  | .ok rest => (value, some rest)
  | .error fault => (.broken (.both fault), none)

/-- The outcome of a text between quotes. -/
def ofString : Except Stop (Except Fault String × List Char) → Outcome
  | .ok (.ok s, rest) => (.str s, some rest)
  | .ok (.error fault, rest) => (.unfit fault, some rest)
  | .error stop => (.broken stop, none)

/-- The outcome of a number. -/
def ofNumber : Except Stop (Number.Parts × List Char) → Outcome
  | .ok (parts, rest) =>
    match Number.ofParts? parts with
    | some n => (.num n, some rest)
    | none => (.unfit .outOfRange, some rest)
  | .error stop => (.broken stop, none)

mutual

/-- Reads a value. Every call reads a character or is followed by one that does, so twice the length of
the text is fuel enough. -/
def readValue : (fuel : Nat) → List Char → Outcome
  | 0, _ => (.broken (.both .endInValue), none)
  | fuel + 1, cs =>
    match skipSpace cs with
    | [] => (.broken (.both .endInValue), none)
    | 'n' :: rest => ofWord .null (readWord ['u', 'l', 'l'] rest)
    | 't' :: rest => ofWord (.bool true) (readWord ['r', 'u', 'e'] rest)
    | 'f' :: rest => ofWord (.bool false) (readWord ['a', 'l', 's', 'e'] rest)
    | '"' :: rest => ofString (readString rest)
    | '[' :: rest =>
      let (items, stop, rest) := readItems fuel true rest
      (.list items stop, rest)
    | '\x7b' :: rest =>
      let (entries, stop, rest) := readEntries fuel true rest
      (.map entries stop, rest)
    | c :: rest =>
      if c = '-' ∨ Text.isAsciiDigit c then ofNumber (readParts (c :: rest))
      else (.broken (.both .expectedValue), none)

/-- Reads the items of a list up to its end. -/
def readItems : (fuel : Nat) → (first : Bool) → List Char →
    List Draft × Option Stop × Option (List Char)
  | 0, _, _ => ([], some (.both .endInList), none)
  | fuel + 1, first, cs =>
    match skipSpace cs with
    | [] => ([], some (.both .endInList), none)
    | c :: rest =>
      if c = ']' then ([], none, some rest)
      else if ¬ first ∧ c ≠ ',' then ([], some (.both .expectedListEnd), none)
      else if ¬ first ∧ (skipSpace rest).head? = some ']' then
        ([], some ⟨.trailingComma, .expectedValue⟩, none)
      else
        match readValue fuel (if first then c :: rest else rest) with
        | (item, none) => ([item], none, none)
        | (item, some rest) =>
          let (items, stop, rest) := readItems fuel false rest
          (item :: items, stop, rest)

/-- Reads the entries of a map up to its end. -/
def readEntries : (fuel : Nat) → (first : Bool) → List Char →
    List (Except Fault String × Draft) × Option Stop × Option (List Char)
  | 0, _, _ => ([], some (.both .endInMap), none)
  | fuel + 1, first, cs =>
    match skipSpace cs with
    | [] => ([], some (.both .endInMap), none)
    | c :: rest =>
      if c = '\x7d' then ([], none, some rest)
      else if ¬ first ∧ c ≠ ',' then ([], some (.both .expectedMapEnd), none)
      else
        match skipSpace (if first then c :: rest else rest) with
        | [] => ([], some ⟨.endInValue, .endInMap⟩, none)
        | '\x7d' :: _ => ([], some ⟨.trailingComma, .keyNotString⟩, none)
        | '"' :: rest =>
          match readString rest with
          | .error stop => ([], some stop, none)
          | .ok (key, rest) =>
            match skipSpace rest with
            | [] => ([(key, .broken (.both .endInMap))], none, none)
            | ':' :: rest =>
              match readValue fuel rest with
              | (value, none) => ([(key, value)], none, none)
              | (value, some rest) =>
                let (entries, stop, rest) := readEntries fuel false rest
                ((key, value) :: entries, stop, rest)
            | _ :: _ => ([(key, .broken (.both .expectedColon))], none, none)
        | _ :: _ => ([], some (.both .keyNotString), none)

end

/-- A text as a draft, and the stop where something other than blanks follows it. -/
def read (text : String) : Draft × Option Stop :=
  let cs := text.toList
  match readValue (2 * cs.length + 2) cs with
  | (draft, none) => (draft, none)
  | (draft, some rest) =>
    if (skipSpace rest).isEmpty then (draft, none)
    else (draft, some (.both .trailingCharacters))

end Draft

/-- Reads a text that is one document. -/
def read (text : String) : Except Fault Json := do
  let (draft, stop) := Draft.read text
  let value ← draft.buffer depthLimit
  Draft.pass stop
  return value

end Signalbox.Json
