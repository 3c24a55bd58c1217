import Signalbox.Proofs.Json.Float
import Signalbox.Proofs.Json.Height
import Signalbox.Proofs.Json.Numbers
import Signalbox.Proofs.Json.Spelling

/-!
# Documents that are read back

A document with each item and entry on a line of its own is read back as it was, up to the end of the text, when its
numbers are: what is written for it is one of its texts.

Main results:

* `Json.spells_prettyChars`: what is written for a document.
* `Json.Draft.read_pretty` / `Json.read_pretty`: a whole text, as a draft and as a document.
* `Number.rereads_float`: a float.
-/

namespace Signalbox.Json

/-! ## What is written -/

theorem blank_lineStart (depth : Nat) : Blank (lineStart depth) :=
  List.forall_mem_cons.mpr ⟨rfl, fun c hc => by rw [List.eq_of_mem_replicate hc]; rfl⟩

mutual

/-- What is written for a document is one of its texts. -/
theorem spells_prettyChars : ∀ (j : Json) (depth : Nat), (∀ n ∈ j.numbers, n.Rereads) →
    Spells (j.prettyChars depth) (Draft.ofJson j)
  | .null, _, _ => .ofToken .null
  | .bool true, _, _ => .ofToken .true
  | .bool false, _, _ => .ofToken .false
  | .num n, _, hnumbers => by
    obtain ⟨parts, hparts, hnumber⟩ := hnumbers n (List.mem_singleton.mpr rfl)
    exact .ofToken (.number hparts hnumber)
  | .str s, _, _ => spells_encodeText s
  | .list [], _, _ => .noItems blank_nil blank_nil blank_nil
  | .list (item :: rest), depth, hnumbers => by
    have hitems := spellsItems_prettyItems (item :: rest) (depth + 1) hnumbers (List.cons_ne_nil _ _)
    have hlist := Spells.list blank_nil (hitems.append (blank_lineStart depth)) blank_nil
    simp only [prettyChars, List.append_assoc, List.cons_append, List.nil_append] at hlist ⊢
    exact hlist
  | .map [], _, _ => .noEntries blank_nil blank_nil blank_nil
  | .map (entry :: rest), depth, hnumbers => by
    have hentries := spellsEntries_prettyEntries (entry :: rest) (depth + 1) hnumbers (List.cons_ne_nil _ _)
    have hmap := Spells.map blank_nil (hentries.append (blank_lineStart depth)) blank_nil
    simp only [prettyChars, List.append_assoc, List.cons_append, List.nil_append] at hmap ⊢
    exact hmap

/-- The pretty form of items, each on its lines, spells the items. -/
theorem spellsItems_prettyItems : ∀ (items : List Json) (depth : Nat), (∀ n ∈ numbersOfItems items, n.Rereads) →
    items ≠ [] → SpellsItems (prettyItems depth items) (Draft.ofItems items)
  | [], _, _, hne => absurd rfl hne
  | [item], depth, hnumbers, _ => by
    have hitem := spells_prettyChars item depth fun n hn => hnumbers n (List.mem_append_left _ hn)
    rw [prettyItems]
    exact .one (hitem.prepend (blank_lineStart depth))
  | item :: next :: rest, depth, hnumbers, _ => by
    have hitem := spells_prettyChars item depth fun n hn => hnumbers n (List.mem_append_left _ hn)
    have hrest := spellsItems_prettyItems (next :: rest) depth (fun n hn => hnumbers n (List.mem_append_right _ hn))
      (List.cons_ne_nil _ _)
    rw [prettyItems, List.append_assoc (lineStart depth ++ item.prettyChars depth)]
    exact .cons (hitem.prepend (blank_lineStart depth)) hrest

/-- The pretty form of entries, each on its lines, spells the entries. -/
theorem spellsEntries_prettyEntries : ∀ (entries : List (String × Json)) (depth : Nat),
    (∀ n ∈ numbersOfEntries entries, n.Rereads) → entries ≠ [] →
    SpellsEntries (prettyEntries depth entries) (Draft.ofEntries entries)
  | [], _, _, hne => absurd rfl hne
  | [(key, value)], depth, hnumbers, _ => by
    have hvalue := spells_prettyChars value depth fun n hn => hnumbers n (List.mem_append_left _ hn)
    have hspace : Blank [' '] := List.forall_mem_singleton.mpr rfl
    -- the start of the line belongs to the key, the blank behind the colon to the value
    have hkey := (spellsKey_encodeText key).prepend (blank_lineStart depth)
    have hentry := SpellsEntries.one hkey (hvalue.prepend hspace)
    simp only [prettyEntries, List.append_assoc, List.cons_append, List.nil_append] at hentry ⊢
    exact hentry
  | (key, value) :: next :: rest, depth, hnumbers, _ => by
    have hvalue := spells_prettyChars value depth fun n hn => hnumbers n (List.mem_append_left _ hn)
    have hrest := spellsEntries_prettyEntries (next :: rest) depth
      (fun n hn => hnumbers n (List.mem_append_right _ hn)) (List.cons_ne_nil _ _)
    have hspace : Blank [' '] := List.forall_mem_singleton.mpr rfl
    have hkey := (spellsKey_encodeText key).prepend (blank_lineStart depth)
    have hentries := SpellsEntries.cons hkey (hvalue.prepend hspace) hrest
    simp only [prettyEntries, List.append_assoc, List.cons_append, List.nil_append] at hentries ⊢
    exact hentries

end

/-! ## Reading what was written -/

/-- A text that was written is read back as the draft of the document. -/
theorem Draft.read_pretty {j : Json} (hnumbers : ∀ n ∈ j.numbers, n.Rereads) :
    Draft.read j.pretty = (Draft.ofJson j, none) := by
  refine Draft.read_of_spells ?_
  rw [pretty, String.toList_ofList]
  exact spells_prettyChars j 0 hnumbers

/-- A document that was written is read back, when its numbers are and it is not too high. -/
theorem read_pretty {j : Json} (hnumbers : ∀ n ∈ j.numbers, n.Rereads) (hheight : j.height ≤ depthLimit - 1) :
    read j.pretty = .ok j := by
  unfold read
  rw [Draft.read_pretty hnumbers]
  dsimp only
  rw [Draft.buffer_ofJson j hheight]
  rfl

/-- A number that rereads is read back from its own text. -/
theorem read_compact_num {n : Number} (h : n.Rereads) : read (num n).compact = .ok (num n) :=
  read_pretty (j := num n) (List.forall_mem_singleton.mpr h) (Nat.zero_le _)

/-- A text that is a number is read as that number, or its number is too large. -/
theorem read_of_readParts {text : String} {parts : Number.Parts} (h : readParts text.toList = .ok (parts, [])) :
    read text = match Number.ofParts? parts with
      | some n => .ok (num n)
      | none => .error .outOfRange := by
  unfold read
  cases hnumber : Number.ofParts? parts with
  | none =>
    rw [Draft.read_of_spells (.ofToken (.unfitNumber h hnumber))]
    rfl
  | some n =>
    rw [Draft.read_of_spells (.ofToken (.number h hnumber))]
    rfl

end Signalbox.Json

namespace Signalbox

open Json

/-- A float is read back if the document that is the float alone is. -/
theorem Number.rereads_float {x : Float} (h : read (num (.float x)).compact = .ok (num (.float x))) :
    (Number.float x).Rereads := by
  have htext : (num (.float x)).compact.toList = encodeNumber (.float x) := String.toList_ofList
  by_cases hfinite : x.isFinite = true
  · obtain ⟨parts, hparts⟩ := exists_readParts_float hfinite
    refine ⟨parts, hparts, ?_⟩
    rw [read_of_readParts (by rw [htext]; exact hparts)] at h
    cases hnumber : Number.ofParts? parts with
    | none =>
      rw [hnumber] at h
      cases h
    | some n =>
      rw [hnumber] at h
      exact congrArg some (num.inj (Except.ok.inj h))
  · -- what is not finite is written as null
    have hnull : (num (.float x)).compact = null.compact := by
      show String.ofList (if x.isFinite then _ else _) = _
      rw [if_neg hfinite]
      rfl
    have hread : read null.compact = .ok null := read_pretty (j := null) (fun _ hn => nomatch hn) (Nat.zero_le _)
    rw [hnull, hread] at h
    cases h

end Signalbox
