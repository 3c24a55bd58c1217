import Signalbox.Json.Decode

/-!
# Outcomes of reading

What the outcome of a step says about its parts.

Main results:

* `bind_eq_ok`, `bind_eq_error`, `map_eq_ok`, `mapError_eq_ok`: steps that are composed.
* `Json.orFault_eq_ok`, `Json.once_eq_ok`, `Json.required_eq_ok`: the steps of the readers.
-/

namespace Signalbox

/-- After a step that goes well comes the next one. -/
theorem ok_bind (a : α) (f : α → Except ε β) : (Except.ok a >>= f) = f a :=
  rfl

/-- Two steps go well when the first one does, and then the second one with its answer. -/
theorem bind_eq_ok {x : Except ε α} {f : α → Except ε β} {b : β} :
    (x >>= f) = .ok b ↔ ∃ a, x = .ok a ∧ f a = .ok b := by
  cases x with
  | error e => exact ⟨nofun, fun ⟨_, h, _⟩ => nomatch h⟩
  | ok a => exact ⟨fun h => ⟨a, rfl, h⟩, fun ⟨_, h, hf⟩ => by cases h; exact hf⟩

/-- Two steps fail when the first one does, or when the second one does after the first has gone well. -/
theorem bind_eq_error {x : Except ε α} {f : α → Except ε β} {e : ε} :
    (x >>= f) = .error e ↔ x = .error e ∨ ∃ a, x = .ok a ∧ f a = .error e := by
  cases x with
  | error e' => simp [Bind.bind, Except.bind]
  | ok a => simp [Bind.bind, Except.bind]

/-- A change of the answer does not change whether a step goes well. -/
theorem map_eq_ok {x : Except ε α} {f : α → β} {b : β} :
    x.map f = .ok b ↔ ∃ a, x = .ok a ∧ f a = b := by
  cases x with
  | error e => exact ⟨nofun, fun ⟨_, h, _⟩ => nomatch h⟩
  | ok a => exact ⟨fun h => ⟨a, rfl, Except.ok.inj h⟩, fun ⟨_, h, hf⟩ => by cases h; exact congrArg _ hf⟩

/-- A change of the error changes nothing about a step that goes well. -/
theorem mapError_eq_ok {x : Except ε α} {f : ε → δ} {a : α} : x.mapError f = .ok a ↔ x = .ok a := by
  cases x with
  | error e => exact ⟨nofun, nofun⟩
  | ok b => exact ⟨fun h => congrArg _ (Except.ok.inj h), fun h => congrArg _ (Except.ok.inj h)⟩

namespace Json

/-- A fault that becomes an error changes nothing about what could be read. -/
theorem orFault_eq_ok {x : Except Fault α} {a : α} : orFault x = .ok a ↔ x = .ok a := by
  cases x with
  | error fault => exact ⟨nofun, nofun⟩
  | ok b => exact ⟨fun h => congrArg _ (Except.ok.inj h), fun h => congrArg _ (Except.ok.inj h)⟩

/-- A field takes a value in when it has none yet and the value can be read. -/
theorem once_eq_ok {field : String} {stored result : Option α} {value : Except Error α} :
    once field stored value = .ok result ↔ stored = none ∧ ∃ a, value = .ok a ∧ result = some a := by
  cases stored with
  | some a => exact ⟨nofun, fun h => nomatch h.1⟩
  | none =>
    refine map_eq_ok.trans ⟨fun ⟨a, ha, h⟩ => ⟨rfl, a, ha, h.symm⟩, fun ⟨_, a, ha, h⟩ => ⟨a, ha, h.symm⟩⟩

/-- A field that has to be given is there when a value was stored. -/
theorem required_eq_ok {field : String} {stored : Option α} {a : α} :
    required field stored = .ok a ↔ stored = some a := by
  cases stored with
  | none => exact ⟨nofun, nofun⟩
  | some b => exact ⟨fun h => congrArg _ (Except.ok.inj h), fun h => congrArg _ (Option.some.inj h)⟩

end Json

end Signalbox
