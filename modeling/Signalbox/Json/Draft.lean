import Signalbox.Json.Error

/-!
# Drafts

A `Draft` is a text as far as it could be read: a document in which a fault stands at the place where
reading broke off. What looks at a draft from its beginning meets the faults in the order of the text,
between whatever else is wrong with it, and never those of the parts that it does not look at.

Some texts are faulty only for a reader that wants their value: a number out of range, a surrogate
without its partner, lists inside lists beyond the depth allowed. A reader that passes over them
(`Draft.skip`) does not notice. Where both break off, they may word it differently; a `Stop` holds both
faults.

`Draft.buffer` takes the whole document out of a draft and `Draft.ofJson` is the draft of a document.
-/

namespace Signalbox.Json

/-- A place where reading breaks off: the fault for a reader that wants the value, and the fault for
one that passes over it. -/
structure Stop where
  fault : Fault
  skipped : Fault
  deriving DecidableEq, Repr

/-- A place where both readers report the same. -/
def Stop.both (fault : Fault) : Stop := ⟨fault, fault⟩

/-- A document as far as it could be read. -/
inductive Draft where
  | null
  | bool (b : Bool)
  | num (n : Number)
  | str (s : String)
  /-- A number or a text that is well formed and has no value. -/
  | unfit (fault : Fault)
  /-- A list; `stop` stands in place of its end. -/
  | list (items : List Draft) (stop : Option Stop)
  /-- A map; `stop` stands in place of its end. A key may be unfit. -/
  | map (entries : List (Except Fault String × Draft)) (stop : Option Stop)
  /-- A value that could not be read. -/
  | broken (stop : Stop)

/-- The depth to which lists and maps may stand inside each other, plus one. -/
def depthLimit : Nat := 128

/-- The depth left inside a list or a map. -/
def enter? : (depth : Nat) → Option Nat
  | 0 => none
  | 1 => none
  | depth + 2 => some (depth + 1)

namespace Draft

/-- The outcome of passing a place where reading may have broken off. -/
def pass (stop : Option Stop) : Except Fault Unit :=
  match stop with
  | none => .ok ()
  | some stop => .error stop.fault

/-- The error of a draft of the wrong type: the draft's own fault, if it has no value. -/
def mismatch (draft : Draft) (expected : String) : Error :=
  match draft with
  | .null => .wrongType .null expected
  | .bool b => .wrongType (.bool b) expected
  | .num (.int n) => .wrongType (.int n) expected
  | .num (.float x) => .wrongType (.float x) expected
  | .str s => .wrongType (.str s) expected
  | .list .. => .wrongType .list expected
  | .map .. => .wrongType .map expected
  | .unfit fault => .malformed fault
  | .broken stop => .malformed stop.fault

mutual

/-- The whole document of a draft, or its first fault. -/
def buffer (depth : Nat) : Draft → Except Fault Json
  | .null => .ok .null
  | .bool b => .ok (.bool b)
  | .num n => .ok (.num n)
  | .str s => .ok (.str s)
  | .unfit fault => .error fault
  | .broken stop => .error stop.fault
  | .list items stop =>
    match enter? depth with
    | none => .error .tooDeep
    | some inner => do
      let items ← bufferItems inner items
      pass stop
      return .list items
  | .map entries stop =>
    match enter? depth with
    | none => .error .tooDeep
    | some inner => do
      let entries ← bufferEntries inner entries
      pass stop
      return .map entries

def bufferItems (depth : Nat) : List Draft → Except Fault (List Json)
  | [] => .ok []
  | item :: rest => do
    let item ← item.buffer depth
    let rest ← bufferItems depth rest
    return item :: rest

def bufferEntries (depth : Nat) :
    List (Except Fault String × Draft) → Except Fault (List (String × Json))
  | [] => .ok []
  | (key, value) :: rest => do
    let key ← key
    let value ← value.buffer depth
    let rest ← bufferEntries depth rest
    return (key, value) :: rest

end

/-- The outcome of a place where reading may have broken off, for a reader that passes over it. -/
def passOver (stop : Option Stop) : Except Fault Unit :=
  match stop with
  | none => .ok ()
  | some stop => .error stop.skipped

mutual

/-- Passes over a draft: the first fault of a reader that does not want its value. -/
def skip : Draft → Except Fault Unit
  | .null | .bool _ | .num _ | .str _ | .unfit _ => .ok ()
  | .broken stop => .error stop.skipped
  | .list items stop => do
    skipItems items
    passOver stop
  | .map entries stop => do
    skipEntries entries
    passOver stop

def skipItems : List Draft → Except Fault Unit
  | [] => .ok ()
  | item :: rest => do
    item.skip
    skipItems rest

def skipEntries : List (Except Fault String × Draft) → Except Fault Unit
  | [] => .ok ()
  | (_, value) :: rest => do
    value.skip
    skipEntries rest

end

mutual

/-- The draft of a document: nothing is wrong with it. -/
def ofJson : Json → Draft
  | .null => .null
  | .bool b => .bool b
  | .num n => .num n
  | .str s => .str s
  | .list items => .list (ofItems items) none
  | .map entries => .map (ofEntries entries) none

def ofItems : List Json → List Draft
  | [] => []
  | item :: rest => ofJson item :: ofItems rest

def ofEntries : List (String × Json) → List (Except Fault String × Draft)
  | [] => []
  | (key, value) :: rest => (.ok key, ofJson value) :: ofEntries rest

end

end Draft

end Signalbox.Json
