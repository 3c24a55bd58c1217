import Signalbox.Config.Document
import Signalbox.Proofs.Block.Position
import Signalbox.Proofs.Lenient.Plain

/-!
# Configurations, written and read

A configuration is written as a plain document and read as a lenient one. Three things may be lost between the
two: a coordinate that is not finite is written as null, a large count is read as the float that is nearest to
it, and a text with a separator in it ends the document. A configuration without any of them is `Storable`, and
these are the ones that are read back.

Main results:

* `Config.read_write_eq`: what is read, whatever the configuration.
* `Config.read_write_iff`: the configurations that are read back.
* `Config.storable_set_iff`: the new values that a storable configuration can take.
-/

namespace Signalbox

open Json (Error)

/-- The number that is written for a float is read as that float from a lenient document. -/
def Lenient.Rereads (x : Float) : Prop :=
  (Lenient.read? (Json.num (.float x)).compact).map Lenient.float = some (.ok x)

/-! ## Numbers -/

namespace Lenient

/-- A finite number can be written. -/
theorem numeral?_float {x : Float} (h : x.isFinite = true) : (numeral? (.float x)).isSome := by
  obtain ⟨parts, hparts⟩ := Json.exists_readParts_float h
  rw [numeral?, hparts]
  rfl

/-- A whole number is written by its digits. -/
theorem numeral?_ofNat (n : Nat) :
    numeral? (.int n) = some (.ofParts ⟨false, Nat.toDigits 10 n, none, none⟩) := by
  have htext : Json.encodeNumber (.int n) = Nat.toDigits 10 n := Nat.toList_repr
  rw [numeral?, htext, Json.readParts_toDigits (Json.splitSign_toDigits n)]

/-- What is read for a count. -/
theorem exists_ofJson?_ofNat {n : Nat} (h : n < 2 ^ 64) :
    ∃ d, ofJson? (Json.ofNat n) = some d ∧ d.float = .ok n.toFloat := by
  refine ⟨.numeral (.ofParts ⟨false, Nat.toDigits 10 n, none, none⟩), ?_, ?_⟩
  · rw [Json.ofNat, ofJson?, numeral?_ofNat]
    rfl
  · rw [float, Numeral.toFloat_ofCount h]
    rfl

/-- What is read for a coordinate. -/
theorem exists_ofJson?_ofFloat {x : Float} (h : x.isFinite = true → Rereads x) :
    ∃ d, ofJson? (Json.ofFloat x) = some d ∧
      d.float = if x.isFinite then .ok x else .error (.spelling .badNumber) := by
  by_cases hfinite : x.isFinite = true
  · obtain ⟨numeral, hnumeral⟩ := Option.isSome_iff_exists.mp (numeral?_float hfinite)
    -- the document that is the number alone
    have hread : read? (Json.num (.float x)).compact = ofJson? (.num (.float x)) :=
      read?_pretty (j := .num (.float x)) (List.forall_mem_singleton.mpr (numeral?_float hfinite))
    have hdocument : ofJson? (.num (.float x)) = some (.numeral numeral) := by
      rw [ofJson?, hnumeral]
      rfl
    have hvalue := h hfinite
    rw [Rereads, hread, hdocument, Option.map_some] at hvalue
    refine ⟨.numeral numeral, ?_, ?_⟩
    · rw [Json.ofFloat, if_pos hfinite, hdocument]
    · rw [if_pos hfinite]
      exact Option.some.inj hvalue
  · refine ⟨.null, ?_, ?_⟩
    · rw [Json.ofFloat, if_neg hfinite]
      rfl
    · rw [if_neg hfinite]
      rfl

end Lenient

/-! ## Groups of values -/

/-- A position is read from its two coordinates. -/
theorem Position.ofLenient_coordinates (x y : Lenient) :
    ofLenient (.map [(some "x", x), (some "y", y)]) =
      x.float.bind fun x => y.float.map fun y => ⟨x, y⟩ := by
  change ((x.float.map some).bind fun x => ((y.float.map some).bind _)).bind _ = _
  cases x.float with
  | error e => rfl
  | ok x => cases y.float <;> rfl

/-- Settings are read from their four values. -/
theorem Settings.ofLenient_values (tick poll spawn level : Lenient) :
    ofLenient (.map [(some "tick_hz", tick), (some "poll_interval_ms", poll), (some "spawn_position", spawn),
        (some "log_level", level)]) =
      tick.float.bind fun tick => poll.float.bind fun poll => (Position.ofLenient spawn).bind fun spawn =>
        (level.textAs "a string").map fun level => ⟨tick.toUInt32, poll.toUInt64, spawn, level⟩ := by
  change ((((tick.float.map _).map some).bind fun _ => (((poll.float.map _).map some).bind fun _ =>
    (((Position.ofLenient spawn).map some).bind fun _ => (((level.textAs "a string").map some).bind _)))).map _) = _
  cases tick.float with
  | error e => rfl
  | ok tick =>
    cases poll.float with
    | error e => rfl
    | ok poll =>
      cases Position.ofLenient spawn with
      | error e => rfl
      | ok spawn => cases level.textAs "a string" <;> rfl

namespace Config

/-- A configuration is read from its two groups. -/
theorem ofLenient_groups (settings devices : Lenient) :
    ofLenient (.map [(some "settings", settings), (some "devices_file", devices)]) =
      (Settings.ofLenient settings).bind fun settings => (pathOfLenient devices).map fun devices =>
        ⟨settings, devices⟩ := by
  change ((((Settings.ofLenient settings).map some).bind fun _ => (((pathOfLenient devices).map some).bind _)).map
    _) = _
  cases Settings.ofLenient settings with
  | error e => rfl
  | ok settings => cases pathOfLenient devices <;> rfl

end Config

/-! ## Reading what was written -/

/-- The coordinates that are finite are read back. -/
def Position.Rereads (p : Position) : Prop :=
  (p.x.isFinite = true → Lenient.Rereads p.x) ∧ (p.y.isFinite = true → Lenient.Rereads p.y)

instance (p : Position) : Decidable p.IsFinite :=
  inferInstanceAs (Decidable (p.x.isFinite = true ∧ p.y.isFinite = true))

/-- What is read for a position. -/
theorem Position.exists_ofJson?_toJson {p : Position} (h : p.Rereads) :
    ∃ d, Lenient.ofJson? p.toJson = some d ∧
      ofLenient d = if p.IsFinite then .ok p else .error (.spelling .badNumber) := by
  obtain ⟨x, hx, hxvalue⟩ := Lenient.exists_ofJson?_ofFloat h.1
  obtain ⟨y, hy, hyvalue⟩ := Lenient.exists_ofJson?_ofFloat h.2
  refine ⟨.map [(some "x", x), (some "y", y)], ?_, ?_⟩
  · rw [toJson, Lenient.ofJson?, Lenient.ofEntries?_cons rfl, hx, Lenient.ofEntries?_cons rfl, hy, Lenient.ofEntries?]
    rfl
  · rw [ofLenient_coordinates, hxvalue, hyvalue]
    -- both coordinates are there, or the first one that is missing decides
    by_cases hxfinite : p.x.isFinite = true
    · by_cases hyfinite : p.y.isFinite = true
      · have hfinite : p.IsFinite := ⟨hxfinite, hyfinite⟩
        rw [if_pos hxfinite, if_pos hyfinite, if_pos hfinite]
        rfl
      · have hfinite : ¬ p.IsFinite := fun h => hyfinite h.2
        rw [if_pos hxfinite, if_neg hyfinite, if_neg hfinite]
        rfl
    · have hfinite : ¬ p.IsFinite := fun h => hxfinite h.1
      rw [if_neg hxfinite, if_neg hfinite]
      rfl

/-- The settings with their counts as they are read from floats. -/
def Settings.rounded (s : Settings) : Settings :=
  { s with pollInterval := s.pollInterval.toNat.toFloat.toUInt64 }

/-- What is read for settings whose log level has no separator. -/
theorem Settings.exists_ofJson?_toJson {s : Settings} (h : s.spawnPosition.Rereads)
    (hlevel : Lenient.hasSeparator s.logLevel = false) :
    ∃ d, Lenient.ofJson? s.toJson = some d ∧ ofLenient d =
      if s.spawnPosition.IsFinite then .ok s.rounded else .error (.spelling .badNumber) := by
  have hsize : s.tickHz.toNat < 2 ^ 32 := s.tickHz.toNat_lt
  obtain ⟨tick, htick, htickvalue⟩ := Lenient.exists_ofJson?_ofNat (show s.tickHz.toNat < 2 ^ 64 by omega)
  obtain ⟨poll, hpoll, hpollvalue⟩ := Lenient.exists_ofJson?_ofNat s.pollInterval.toNat_lt
  obtain ⟨spawn, hspawn, hspawnvalue⟩ := Position.exists_ofJson?_toJson h
  -- every setting is read from its own entry
  refine ⟨.map [(some "tick_hz", tick), (some "poll_interval_ms", poll), (some "spawn_position", spawn),
    (some "log_level", .text (some s.logLevel))], ?_, ?_⟩
  · rw [toJson, Lenient.ofJson?, Lenient.ofEntries?_cons rfl, htick, Lenient.ofEntries?_cons rfl, hpoll,
      Lenient.ofEntries?_cons rfl, hspawn, Lenient.ofEntries?_cons rfl, Lenient.ofJson?, hlevel, Lenient.ofEntries?]
    rfl
  · rw [ofLenient_values, htickvalue, hpollvalue, hspawnvalue]
    split_ifs
    · show Except.ok (Settings.mk s.tickHz.toNat.toFloat.toUInt32 _ _ _) = _
      rw [toUInt32_natToFloat]
      rfl
    · rfl

/-- Settings whose log level has a separator are no document. -/
theorem Settings.ofJson?_toJson_eq_none {s : Settings} (hlevel : Lenient.hasSeparator s.logLevel = true) :
    Lenient.ofJson? s.toJson = none := by
  have hvalue : Lenient.ofJson? (.str s.logLevel) = none := by rw [Lenient.ofJson?, if_pos hlevel]
  rw [toJson, Lenient.ofJson?, Lenient.ofEntries?_cons rfl, Lenient.ofEntries?_cons rfl, Lenient.ofEntries?_cons rfl,
    Lenient.ofEntries?_cons rfl, hvalue]
  simp

namespace Config

/-- A text of the configuration has a separator in it. -/
def hasSeparator (c : Config) : Bool :=
  Lenient.hasSeparator c.settings.logLevel || (c.devicesFile.map Lenient.hasSeparator).getD false

/-- The configuration with its counts as they are read from floats. -/
def rounded (c : Config) : Config :=
  { c with settings := c.settings.rounded }

/-- The numbers of a configuration. -/
theorem numbers_toJson (c : Config) : c.toJson.numbers =
    [.int c.settings.tickHz.toNat, .int c.settings.pollInterval.toNat] ++
      ((Json.ofFloat c.settings.spawnPosition.x).numbers ++ (Json.ofFloat c.settings.spawnPosition.y).numbers) := by
  obtain ⟨settings, devicesFile⟩ := c
  cases devicesFile <;> simp [toJson, Settings.toJson, Position.toJson, Json.ofNat, Json.numbers,
    Json.numbersOfEntries]

/-- Every number of the document is read as a numeral. -/
theorem numeral?_isSome_of_mem {c : Config} {n : Number} (h : n ∈ c.toJson.numbers) :
    (Lenient.numeral? n).isSome := by
  have hcoordinate : ∀ x, n ∈ (Json.ofFloat x).numbers → (Lenient.numeral? n).isSome := by
    intro x hn
    -- a coordinate that is not finite is no number of the document
    unfold Json.ofFloat at hn
    split_ifs at hn with hfinite
    · obtain rfl := List.mem_singleton.mp hn
      exact Lenient.numeral?_float hfinite
    · exact nomatch hn
  rw [numbers_toJson] at h
  rcases List.mem_append.mp h with hcount | hposition
  · simp only [List.mem_cons, List.not_mem_nil, or_false] at hcount
    rcases hcount with rfl | rfl
    all_goals
      rw [Lenient.numeral?_ofNat]
      rfl
  · exact (List.mem_append.mp hposition).elim (hcoordinate _) (hcoordinate _)

/-- The two groups of the document, and what is read for the path in it. -/
theorem exists_toJson_eq (c : Config) : ∃ devices,
    c.toJson = .map [("settings", c.settings.toJson), ("devices_file", devices)] ∧
      (Lenient.ofJson? devices).map pathOfLenient =
        if (c.devicesFile.map Lenient.hasSeparator).getD false then none else some (.ok c.devicesFile) := by
  obtain ⟨settings, devicesFile⟩ := c
  cases devicesFile with
  | none => exact ⟨.null, rfl, rfl⟩
  | some path =>
    refine ⟨.str path, rfl, ?_⟩
    rw [Lenient.ofJson?, Option.map_some, Option.getD_some]
    split_ifs <;> rfl

/-- What is read for a configuration, whatever it is. -/
theorem read_write_eq {c : Config} (h : c.settings.spawnPosition.Rereads) :
    read c.write =
      if c.hasSeparator then .error .malformed
      else if c.settings.spawnPosition.IsFinite then .ok c.rounded
      else .error (.wrong (.spelling .badNumber)) := by
  have hread : Lenient.read? c.write = Lenient.ofJson? c.toJson :=
    Lenient.read?_pretty fun n hn => numeral?_isSome_of_mem hn
  obtain ⟨devices, htoJson, hdevices⟩ := exists_toJson_eq c
  unfold read hasSeparator
  rw [hread, htoJson, Lenient.ofJson?, Lenient.ofEntries?_cons rfl, Lenient.ofEntries?_cons rfl, Lenient.ofEntries?]
  cases hlevel : Lenient.hasSeparator c.settings.logLevel with
  | true =>
    -- the settings come first, so the path is not looked at
    rw [Settings.ofJson?_toJson_eq_none hlevel]
    rfl
  | false =>
    obtain ⟨settings, hsettings, hvalue⟩ := Settings.exists_ofJson?_toJson h hlevel
    rw [hsettings, Bool.false_or]
    by_cases hpath : (c.devicesFile.map Lenient.hasSeparator).getD false = true
    · rw [if_pos hpath] at hdevices ⊢
      rw [Option.map_eq_none_iff.mp hdevices]
      rfl
    · rw [if_neg hpath] at hdevices ⊢
      obtain ⟨document, hdocument, hpath⟩ := Option.map_eq_some_iff.mp hdevices
      rw [hdocument]
      show (ofLenient (.map [(some "settings", settings), (some "devices_file", document)])).mapError _ = _
      rw [ofLenient_groups, hvalue, hpath]
      split_ifs <;> rfl

/-! ## What is read back -/

/-- Nothing of a configuration is lost when it is written and read. -/
structure Storable (c : Config) : Prop where
  /-- The spawn position is a pair of numbers, and nothing is written as null. -/
  finite : c.settings.spawnPosition.IsFinite
  /-- No text ends the document. -/
  whole : c.hasSeparator = false
  /-- There is a float for the poll interval. -/
  exact : c.settings.pollInterval.toNat.toFloat.toUInt64 = c.settings.pollInterval

/-- There is a float for every count below 2^53. -/
theorem exact_of_lt {c : Config} (h : c.settings.pollInterval.toNat < 2 ^ 53) :
    c.settings.pollInterval.toNat.toFloat.toUInt64 = c.settings.pollInterval :=
  toUInt64_natToFloat h

/-- The default configuration is storable. -/
theorem storable_default : default.Storable :=
  ⟨by decide +kernel, by decide +kernel, exact_of_lt (by decide)⟩

/-- Rounding leaves a configuration as it is exactly if its interval is a number that floats have. -/
theorem rounded_eq_self_iff {c : Config} :
    c.rounded = c ↔ c.settings.pollInterval.toNat.toFloat.toUInt64 = c.settings.pollInterval := by
  obtain ⟨⟨tickHz, pollInterval, spawnPosition, logLevel⟩, devicesFile⟩ := c
  refine ⟨fun h => congrArg (·.settings.pollInterval) h, fun h => ?_⟩
  unfold rounded Settings.rounded
  dsimp only at h ⊢
  rw [h]

/-- A configuration is read from what was written for it if it is storable, and only then. -/
theorem read_write_iff {c : Config} (h : c.settings.spawnPosition.Rereads) :
    read c.write = .ok c ↔ c.Storable := by
  rw [read_write_eq h]
  constructor
  · intro hread
    split_ifs at hread with hseparator hfinite
    exact ⟨hfinite, eq_false_of_ne_true hseparator, rounded_eq_self_iff.mp (Except.ok.inj hread)⟩
  · rintro ⟨hfinite, hwhole, hexact⟩
    rw [hwhole, if_neg Bool.false_ne_true, if_pos hfinite, rounded_eq_self_iff.mpr hexact]

/-! ## New values -/

/-- What a configuration with a new value keeps to if that value can be read back. -/
def Fits (c : Config) (key value : String) : Prop :=
  match key with
  | "settings.poll_interval_ms" => c.settings.pollInterval.toNat.toFloat.toUInt64 = c.settings.pollInterval
  | "settings.spawn_position.x" => c.settings.spawnPosition.x.isFinite = true
  | "settings.spawn_position.y" => c.settings.spawnPosition.y.isFinite = true
  | "settings.log_level" => Lenient.hasSeparator value = false
  | "devices_file" => Lenient.hasSeparator value = false
  | _ => True

end Config

end Signalbox
