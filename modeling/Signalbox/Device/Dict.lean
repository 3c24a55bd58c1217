import Signalbox.Json.Basic

/-!
# Dictionaries

A dictionary keeps its entries sorted by their keys, each key once.
-/

namespace Signalbox

/-- A dictionary with texts for keys. -/
structure Dict (α : Type) where
  entries : List (String × α)
  deriving BEq, Repr, Inhabited

namespace Dict

/-- The dictionary without entries. -/
def empty : Dict α := ⟨[]⟩

/-- The value of a key. -/
def get? (d : Dict α) (key : String) : Option α :=
  d.entries.lookup key

/-- Holds of the keys that have a value. -/
def contains (d : Dict α) (key : String) : Bool :=
  (d.get? key).isSome

/-- Gives a key a value, in place of the one it may have had. -/
def insert (d : Dict α) (key : String) (value : α) : Dict α :=
  ⟨Json.insertSorted key value d.entries⟩

/-- Changes every value. -/
def map (f : α → β) (d : Dict α) : Dict β :=
  ⟨d.entries.map fun (key, value) => (key, f value)⟩

/-- The keys in their order. -/
def keys (d : Dict α) : List String :=
  d.entries.map (·.1)

/-- The count of entries. -/
def size (d : Dict α) : Nat :=
  d.entries.length

end Dict

end Signalbox
