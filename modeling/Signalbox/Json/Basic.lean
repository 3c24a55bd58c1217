import Signalbox.Json.Number

/-!
# Document values

`Json` is a document as it is written: maps keep the order of their entries, and a key may stand
more than once. `Json.canonical` is the value behind it: keys sorted, and of the entries with one key
the last.
-/

namespace Signalbox

/-- A document. -/
inductive Json where
  | null
  | bool (b : Bool)
  | num (n : Number)
  | str (s : String)
  | list (items : List Json)
  | map (entries : List (String × Json))
  deriving BEq, Repr, Inhabited

namespace Json

/-- A float of a document; what is not finite is written as null. -/
def ofFloat (x : Float) : Json :=
  if x.isFinite then .num (.float x) else .null

/-- A count. -/
def ofNat (n : Nat) : Json :=
  .num (.int n)

/-- Puts an entry in its place among entries with sorted keys; an entry with the same key gives way. -/
def insertSorted (key : String) (value : α) : List (String × α) → List (String × α)
  | [] => [(key, value)]
  | (k, v) :: rest =>
    if key = k then (key, value) :: rest
    else if key < k then (key, value) :: (k, v) :: rest
    else (k, v) :: insertSorted key value rest

/-- Entries with their keys sorted; of the entries with one key the last one stays. -/
def sortEntries (entries : List (String × α)) : List (String × α) :=
  entries.foldl (fun sorted (k, v) => insertSorted k v sorted) []

mutual

/-- The value behind a document: in every map the keys are sorted and the last entry with a key
counts. -/
def canonical : Json → Json
  | .null => .null
  | .bool b => .bool b
  | .num n => .num n
  | .str s => .str s
  | .list items => .list (canonicalItems items)
  | .map entries => .map (sortEntries (canonicalEntries entries))

def canonicalItems : List Json → List Json
  | [] => []
  | item :: rest => item.canonical :: canonicalItems rest

def canonicalEntries : List (String × Json) → List (String × Json)
  | [] => []
  | (key, value) :: rest => (key, value.canonical) :: canonicalEntries rest

end

/-- The value of the first entry with a key. -/
def get? (key : String) : Json → Option Json
  | .map entries => entries.lookup key
  | _ => none

end Json

end Signalbox
