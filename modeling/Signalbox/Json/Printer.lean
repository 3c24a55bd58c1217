import Signalbox.Json.Basic

/-!
# Writing documents

`Json.compact` writes a document on one line without blanks; `Json.pretty` writes each item and entry on a
line of its own, two blanks further in than what it stands in. An empty list or map is written on one
line by both.
-/

namespace Signalbox.Json

/-- A character inside a text between quotes. -/
def encodeChar (c : Char) : List Char :=
  if c = '"' then ['\\', '"']
  else if c = '\\' then ['\\', '\\']
  else if c = '\x08' then ['\\', 'b']
  else if c = '\x0c' then ['\\', 'f']
  else if c = '\n' then ['\\', 'n']
  else if c = '\r' then ['\\', 'r']
  else if c = '\t' then ['\\', 't']
  else if c < ' ' then
    ['\\', 'u', '0', '0', Nat.digitChar (c.toNat / 16), Nat.digitChar (c.toNat % 16)]
  else [c]

/-- A text between quotes. -/
def encodeText (s : String) : List Char :=
  ['"'] ++ s.toList.flatMap encodeChar ++ ['"']

/-- A number; a float that is not finite has no number and is written as null. -/
def encodeNumber : Number → List Char
  | .int n => (toString n).toList
  | .float x => if x.isFinite then (Number.float x).text.toList else "null".toList

mutual

/-- A document on one line. -/
def compactChars : Json → List Char
  | .null => "null".toList
  | .bool true => "true".toList
  | .bool false => "false".toList
  | .num n => encodeNumber n
  | .str s => encodeText s
  | .list items => ['['] ++ compactItems items ++ [']']
  | .map entries => ['\x7b'] ++ compactEntries entries ++ ['\x7d']

def compactItems : List Json → List Char
  | [] => []
  | [item] => item.compactChars
  | item :: next :: rest => item.compactChars ++ [','] ++ compactItems (next :: rest)

def compactEntries : List (String × Json) → List Char
  | [] => []
  | [(key, value)] => encodeText key ++ [':'] ++ value.compactChars
  | (key, value) :: next :: rest =>
    encodeText key ++ [':'] ++ value.compactChars ++ [','] ++ compactEntries (next :: rest)

end

/-- A document on one line. -/
def compact (j : Json) : String :=
  String.ofList j.compactChars

/-- The start of a line at a depth. -/
def lineStart (depth : Nat) : List Char :=
  '\n' :: List.replicate (2 * depth) ' '

mutual

/-- A document at a depth, each item and entry on a line of its own. -/
def prettyChars (depth : Nat) : Json → List Char
  | .null => "null".toList
  | .bool true => "true".toList
  | .bool false => "false".toList
  | .num n => encodeNumber n
  | .str s => encodeText s
  | .list [] => ['[', ']']
  | .list (item :: rest) =>
    ['['] ++ prettyItems (depth + 1) (item :: rest) ++ lineStart depth ++ [']']
  | .map [] => ['\x7b', '\x7d']
  | .map (entry :: rest) =>
    ['\x7b'] ++ prettyEntries (depth + 1) (entry :: rest) ++ lineStart depth ++ ['\x7d']

def prettyItems (depth : Nat) : List Json → List Char
  | [] => []
  | [item] => lineStart depth ++ item.prettyChars depth
  | item :: next :: rest =>
    lineStart depth ++ item.prettyChars depth ++ [','] ++ prettyItems depth (next :: rest)

def prettyEntries (depth : Nat) : List (String × Json) → List Char
  | [] => []
  | [(key, value)] =>
    lineStart depth ++ encodeText key ++ [':', ' '] ++ value.prettyChars depth
  | (key, value) :: next :: rest =>
    lineStart depth ++ encodeText key ++ [':', ' '] ++ value.prettyChars depth ++ [','] ++
      prettyEntries depth (next :: rest)

end

/-- A document with each item and entry on a line of its own. -/
def pretty (j : Json) : String :=
  String.ofList (j.prettyChars 0)

end Signalbox.Json
