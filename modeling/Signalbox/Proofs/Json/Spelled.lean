import Signalbox.Proofs.Json.Given
import Signalbox.Proofs.Json.Spelling

/-!
# What texts spell

A text in which the reader finds a document spells that document. A document has a text when each of its parts has
one, since the parts of a list or of a map can be put together in any order.

Main results:

* `Json.Draft.spells_of_readValue`: what a value was read from is a text of it.
* `Json.Draft.spells_of_read`: a whole text.
* `Json.exists_spells_list_iff` and `Json.exists_spells_object_iff`: lists and maps that have a text.
-/

namespace Signalbox.Json

namespace Draft

/-! ## What was read -/

/-- A word that was read stood in front of the text. -/
theorem eq_append_of_readWord {word cs rest : List Char} (h : readWord word cs = .ok rest) : cs = word ++ rest := by
  induction word generalizing cs with
  | nil => exact Except.ok.inj h
  | cons c word ih =>
    cases cs with
    | nil => cases h
    | cons c' cs =>
      rw [readWord] at h
      split_ifs at h with hc
      rw [hc, ih h]
      rfl

/-- What is left after a word is left after its text. -/
theorem eq_of_ofWord {value draft : Draft} {word cs rest : List Char}
    (h : ofWord value (readWord word cs) = (draft, some rest)) : cs = word ++ rest ∧ draft = value := by
  cases hword : readWord word cs with
  | error fault =>
    rw [hword] at h
    cases h
  | ok left =>
    rw [hword] at h
    obtain ⟨rfl, hleft⟩ := Prod.mk.inj h
    obtain rfl := Option.some.inj hleft
    exact ⟨eq_append_of_readWord hword, rfl⟩

/-- A text value that was read to its closing quote was spelled there. -/
theorem exists_spellsToken_of_ofString {cs rest : List Char} {draft : Draft}
    (h : ofString (readString cs) = (draft, some rest)) :
    ∃ text, cs = text ++ rest ∧ SpellsToken ('"' :: text) draft := by
  cases hread : readString cs with
  | error stop =>
    rw [hread] at h
    cases h
  | ok read =>
    obtain ⟨said, left⟩ := read
    rw [hread] at h
    obtain ⟨text, rfl, htext⟩ := exists_readString_append hread
    have halone : readString text = .ok (said, []) := by simpa using htext []
    cases said with
    | error fault =>
      obtain ⟨rfl, hleft⟩ := Prod.mk.inj h
      obtain rfl := Option.some.inj hleft
      exact ⟨text, rfl, .unfitText halone⟩
    | ok s =>
      obtain ⟨rfl, hleft⟩ := Prod.mk.inj h
      obtain rfl := Option.some.inj hleft
      exact ⟨text, rfl, .text halone⟩

/-- A number that was read was spelled in front of the text. -/
theorem exists_spellsToken_of_ofNumber {cs rest : List Char} {draft : Draft}
    (h : ofNumber (readParts cs) = (draft, some rest)) : ∃ text, cs = text ++ rest ∧ SpellsToken text draft := by
  cases hread : readParts cs with
  | error stop =>
    rw [hread] at h
    cases h
  | ok read =>
    obtain ⟨parts, left⟩ := read
    rw [hread, ofNumber] at h
    obtain ⟨text, rfl, htext⟩ := exists_takes_of_readParts hread
    -- the number is read alike when nothing follows
    have halone : readParts text = .ok (parts, []) := by simpa using htext [] startsLike_nil
    cases hnumber : Number.ofParts? parts with
    | none =>
      rw [hnumber] at h
      obtain ⟨rfl, hleft⟩ := Prod.mk.inj h
      obtain rfl := Option.some.inj hleft
      exact ⟨text, rfl, .unfitNumber halone hnumber⟩
    | some n =>
      rw [hnumber] at h
      obtain ⟨rfl, hleft⟩ := Prod.mk.inj h
      obtain rfl := Option.some.inj hleft
      exact ⟨text, rfl, .number halone hnumber⟩

/-- What was read of a list up to its end: nothing, or items that the text spells, after a comma unless they are the
first ones. -/
def ItemsRead (first : Bool) (cs : List Char) (items : List Draft) (rest : List Char) : Prop :=
  ∃ gap, Blank gap ∧
    ((items = [] ∧ cs = gap ++ ']' :: rest) ∨
      ∃ text, SpellsItems text items ∧ cs = gap ++ if first then text ++ ']' :: rest else ',' :: (text ++ ']' :: rest))

/-- What was read of a map up to its end. -/
def EntriesRead (first : Bool) (cs : List Char) (entries : List (Except Fault String × Draft)) (rest : List Char) :
    Prop :=
  ∃ gap, Blank gap ∧
    ((entries = [] ∧ cs = gap ++ '\x7d' :: rest) ∨
      ∃ text, SpellsEntries text entries ∧
        cs = gap ++ if first then text ++ '\x7d' :: rest else ',' :: (text ++ '\x7d' :: rest))

/-- Where an item begins, blanks stand in front of it, and a comma unless it is the first. -/
theorem Begins.exists_append {first : Bool} {cs start : List Char} (h : Begins first cs start) :
    ∃ gap, Blank gap ∧ cs = gap ++ if first then start else ',' :: start := by
  obtain ⟨gap, hgap, hcs⟩ := exists_blank_append cs
  exact ⟨gap, hgap, hcs.trans (by rw [show skipSpace cs = _ from h])⟩

/-- An item that is spelled in front of items that were read makes items that were read. -/
theorem itemsRead_cons {first : Bool} {cs start text left rest : List Char} {item : Draft} {items : List Draft}
    (hbegins : Begins first cs start) (hstart : start = text ++ left) (hitem : Spells text item)
    (hitems : ItemsRead false left items rest) : ItemsRead first cs (item :: items) rest := by
  obtain ⟨gap, hgap, hcs⟩ := hbegins.exists_append
  -- the blanks before the next comma or the end are those after the item
  have htext : ∃ text', SpellsItems text' (item :: items) ∧ start = text' ++ ']' :: rest := by
    obtain ⟨back, hback, ⟨rfl, rfl⟩ | ⟨others, hothers, rfl⟩⟩ := hitems
    · exact ⟨text ++ back, .one (hitem.append hback), by rw [hstart, List.append_assoc]⟩
    · refine ⟨text ++ back ++ ',' :: others, .cons (hitem.append hback) hothers, ?_⟩
      rw [hstart, if_neg Bool.false_ne_true]
      simp only [List.append_assoc, List.cons_append]
  obtain ⟨text', htext', rfl⟩ := htext
  exact ⟨gap, hgap, .inr ⟨text', htext', hcs⟩⟩

/-- An entry that is spelled in front of entries that were read makes entries that were read. -/
theorem entriesRead_cons {first : Bool} {cs start text gap afterColon value left rest : List Char}
    {key : Except Fault String} {draft : Draft} {entries : List (Except Fault String × Draft)}
    (hbegins : Begins first cs start) (htext : skipSpace start = '"' :: text)
    (hkey : readString text = .ok (key, gap)) (hcolon : skipSpace gap = ':' :: afterColon)
    (hvalue : afterColon = value ++ left) (hdraft : Spells value draft)
    (hentries : EntriesRead false left entries rest) :
    EntriesRead first cs ((key, draft) :: entries) rest := by
  obtain ⟨front, hfront, hcs⟩ := hbegins.exists_append
  -- the key with its blanks
  have hname : ∃ name, SpellsKey name key ∧ start = name ++ ':' :: afterColon := by
    obtain ⟨before, hbefore, hstart⟩ := exists_blank_append start
    obtain ⟨body, rfl, hbody⟩ := exists_readString_append hkey
    obtain ⟨after, hafter, hgap⟩ := exists_blank_append gap
    refine ⟨before ++ '"' :: (body ++ after), ⟨before, body, after, hbefore, by simpa using hbody [], hafter, rfl⟩, ?_⟩
    rw [hstart, htext, hgap, hcolon]
    simp only [List.append_assoc, List.cons_append]
  obtain ⟨name, hname, hstart⟩ := hname
  have hspells : ∃ text', SpellsEntries text' ((key, draft) :: entries) ∧ start = text' ++ '\x7d' :: rest := by
    obtain ⟨back, hback, ⟨rfl, rfl⟩ | ⟨others, hothers, rfl⟩⟩ := hentries
    · refine ⟨name ++ ':' :: (value ++ back), .one hname (hdraft.append hback), ?_⟩
      rw [hstart, hvalue]
      simp only [List.append_assoc, List.cons_append]
    · refine ⟨name ++ ':' :: (value ++ back ++ ',' :: others), .cons hname (hdraft.append hback) hothers, ?_⟩
      rw [hstart, hvalue, if_neg Bool.false_ne_true]
      simp only [List.append_assoc, List.cons_append]
  obtain ⟨text', htext', rfl⟩ := hspells
  exact ⟨front, hfront, .inr ⟨text', htext', hcs⟩⟩

/-- What was read up to its end was read from a text of it: a value, items and entries. -/
theorem spells_of_readValue (fuel : Nat) :
    (∀ cs draft rest, readValue fuel cs = (draft, some rest) → ∃ text, cs = text ++ rest ∧ Spells text draft) ∧
    (∀ first cs items stop rest, readItems fuel first cs = (items, stop, some rest) →
      stop = none ∧ ItemsRead first cs items rest) ∧
    ∀ first cs entries stop rest, readEntries fuel first cs = (entries, stop, some rest) →
      stop = none ∧ EntriesRead first cs entries rest := by
  -- the three readers call each other with one step less, so that all of it goes by one induction
  induction fuel with
  | zero =>
    refine ⟨fun cs draft rest h => ?_, fun first cs items stop rest h => ?_, fun first cs entries stop rest h => ?_⟩
    all_goals cases h
  | succ fuel ih =>
    obtain ⟨hvalue, hitems, hentries⟩ := ih
    refine ⟨?_, ?_, ?_⟩
    · intro cs draft rest h
      obtain ⟨gap, hgap, hcs⟩ := exists_blank_append cs
      -- a value that is no list and no map
      have htoken {text : List Char} (hskip : skipSpace cs = text ++ rest) (htext : SpellsToken text draft) :
          ∃ text, cs = text ++ rest ∧ Spells text draft := by
        refine ⟨gap ++ (text ++ []), ?_, .token hgap htext blank_nil⟩
        rw [hcs, hskip, List.append_nil, List.append_assoc]
      unfold readValue at h
      split at h
      · cases h
      next left hskip =>
        obtain ⟨rfl, rfl⟩ := eq_of_ofWord h
        exact htoken hskip .null
      next left hskip =>
        obtain ⟨rfl, rfl⟩ := eq_of_ofWord h
        exact htoken hskip .true
      next left hskip =>
        obtain ⟨rfl, rfl⟩ := eq_of_ofWord h
        exact htoken hskip .false
      next left hskip =>
        obtain ⟨text, rfl, htext⟩ := exists_spellsToken_of_ofString h
        exact htoken hskip htext
      next left hskip =>
        obtain ⟨items, stop, beyond, hread⟩ : ∃ items stop beyond, readItems fuel true left = (items, stop, beyond) :=
          ⟨_, _, _, rfl⟩
        rw [hread] at h
        obtain ⟨rfl, rfl⟩ := h
        obtain ⟨rfl, inside, hinside, ⟨rfl, rfl⟩ | ⟨text, htext, rfl⟩⟩ := hitems true left items stop rest hread
        · refine ⟨gap ++ '[' :: (inside ++ ']' :: []), ?_, .noItems hgap hinside blank_nil⟩
          rw [hcs, hskip]
          simp only [List.append_assoc, List.cons_append, List.nil_append]
        · refine ⟨gap ++ '[' :: (inside ++ text ++ ']' :: []), ?_, .list hgap (htext.prepend hinside) blank_nil⟩
          rw [hcs, hskip, if_pos rfl]
          simp only [List.append_assoc, List.cons_append, List.nil_append]
      next left hskip =>
        obtain ⟨entries, stop, beyond, hread⟩ :
          ∃ entries stop beyond, readEntries fuel true left = (entries, stop, beyond) := ⟨_, _, _, rfl⟩
        rw [hread] at h
        obtain ⟨rfl, rfl⟩ := h
        obtain ⟨rfl, inside, hinside, ⟨rfl, rfl⟩ | ⟨text, htext, rfl⟩⟩ := hentries true left entries stop rest hread
        · refine ⟨gap ++ '\x7b' :: (inside ++ '\x7d' :: []), ?_, .noEntries hgap hinside blank_nil⟩
          rw [hcs, hskip]
          simp only [List.append_assoc, List.cons_append, List.nil_append]
        · refine ⟨gap ++ '\x7b' :: (inside ++ text ++ '\x7d' :: []), ?_, .map hgap (htext.prepend hinside) blank_nil⟩
          rw [hcs, hskip, if_pos rfl]
          simp only [List.append_assoc, List.cons_append, List.nil_append]
      next c left _ _ _ _ _ _ hskip =>
        split_ifs at h
        · obtain ⟨text, htext, htoken'⟩ := exists_spellsToken_of_ofNumber h
          exact htoken (hskip.trans htext) htoken'
        · cases h
    · intro first cs items stop rest h
      rcases readItems_succ h with ⟨-, -, hrest⟩ | ⟨left, hclose, rfl, rfl, hrest⟩ |
        ⟨start, hbegins, ⟨-, -, -, -, hrest⟩ | ⟨item, left, others, hitem, hothers, rfl⟩⟩
      · cases hrest
      · obtain rfl := Option.some.inj hrest
        obtain ⟨gap, hgap, hcs⟩ := exists_blank_append cs
        exact ⟨rfl, gap, hgap, .inl ⟨rfl, hclose ▸ hcs⟩⟩
      · cases hrest
      · obtain ⟨text, htext, hspells⟩ := hvalue start item left hitem
        obtain ⟨hstop, hread⟩ := hitems false left others stop rest hothers
        exact ⟨hstop, itemsRead_cons hbegins htext hspells hread⟩
    · intro first cs entries stop rest h
      rcases readEntries_succ h with ⟨-, -, hrest⟩ | ⟨left, hclose, rfl, rfl, hrest⟩ | ⟨-, -, -, hrest⟩ |
        ⟨start, body, key, gap, afterColon, hbegins, hquote, hkey, hcolon,
          ⟨-, -, -, hrest⟩ | ⟨value, left, others, hread, hothers, rfl⟩⟩
      · cases hrest
      · obtain rfl := Option.some.inj hrest
        obtain ⟨gap, hgap, hcs⟩ := exists_blank_append cs
        exact ⟨rfl, gap, hgap, .inl ⟨rfl, hclose ▸ hcs⟩⟩
      · cases hrest
      · cases hrest
      · obtain ⟨text, htext, hspells⟩ := hvalue afterColon value left hread
        obtain ⟨hstop, hentriesRead⟩ := hentries false left others stop rest hothers
        exact ⟨hstop, entriesRead_cons hbegins hquote hkey hcolon htext hspells hentriesRead⟩

/-- A word that broke off cannot be passed over. -/
theorem skip_ne_ok_of_ofWord {value draft : Draft} {word : Except Fault (List Char)}
    (h : ofWord value word = (draft, none)) : draft.skip ≠ .ok () := by
  cases word with
  | error fault =>
    obtain ⟨rfl, -⟩ := h
    exact nofun
  | ok rest => cases (Prod.mk.inj h).2

/-- A text value that broke off cannot be passed over. -/
theorem skip_ne_ok_of_ofString {read : Except Stop (Except Fault String × List Char)} {draft : Draft}
    (h : ofString read = (draft, none)) : draft.skip ≠ .ok () := by
  match read with
  | .error stop =>
    obtain ⟨rfl, -⟩ := h
    exact nofun
  | .ok (.error fault, rest) => cases (Prod.mk.inj h).2
  | .ok (.ok s, rest) => cases (Prod.mk.inj h).2

/-- A number that broke off cannot be passed over. -/
theorem skip_ne_ok_of_ofNumber {read : Except Stop (Number.Parts × List Char)} {draft : Draft}
    (h : ofNumber read = (draft, none)) : draft.skip ≠ .ok () := by
  cases read with
  | error stop =>
    obtain ⟨rfl, -⟩ := h
    exact nofun
  | ok read =>
    rw [ofNumber] at h
    split at h <;> cases (Prod.mk.inj h).2

/-- The end of a list or a map is passed over where it was not broken off. -/
theorem passOver_eq_ok {stop : Option Stop} : passOver stop = .ok () ↔ stop = none := by
  cases stop with
  | none => exact ⟨fun _ => rfl, fun _ => rfl⟩
  | some stop => exact ⟨nofun, nofun⟩

/-- A list is passed over when its items are and it is closed. -/
theorem skip_list_eq_ok {items : List Draft} {stop : Option Stop} :
    (Draft.list items stop).skip = .ok () ↔ skipItems items = .ok () ∧ stop = none := by
  rw [skip, bind_eq_ok]
  exact ⟨fun ⟨_, hitems, hstop⟩ => ⟨hitems, passOver_eq_ok.mp hstop⟩,
    fun ⟨hitems, hstop⟩ => ⟨(), hitems, passOver_eq_ok.mpr hstop⟩⟩

/-- A map is passed over when its values are and it is closed. -/
theorem skip_map_eq_ok {entries : List (Except Fault String × Draft)} {stop : Option Stop} :
    (Draft.map entries stop).skip = .ok () ↔ skipEntries entries = .ok () ∧ stop = none := by
  rw [skip, bind_eq_ok]
  exact ⟨fun ⟨_, hentries, hstop⟩ => ⟨hentries, passOver_eq_ok.mp hstop⟩,
    fun ⟨hentries, hstop⟩ => ⟨(), hentries, passOver_eq_ok.mpr hstop⟩⟩

/-- Items are passed over when each one is. -/
theorem skipItems_eq_ok {items : List Draft} : skipItems items = .ok () ↔ ∀ item ∈ items, item.skip = .ok () := by
  induction items with
  | nil => exact ⟨fun _ => nofun, fun _ => rfl⟩
  | cons item rest ih =>
    rw [skipItems, bind_eq_ok, List.forall_mem_cons, ← ih]
    exact ⟨fun ⟨_, hitem, hrest⟩ => ⟨hitem, hrest⟩, fun ⟨hitem, hrest⟩ => ⟨(), hitem, hrest⟩⟩

/-- Entries are passed over when each value is. -/
theorem skipEntries_eq_ok {entries : List (Except Fault String × Draft)} :
    skipEntries entries = .ok () ↔ ∀ entry ∈ entries, entry.2.skip = .ok () := by
  induction entries with
  | nil => exact ⟨fun _ => nofun, fun _ => rfl⟩
  | cons entry rest ih =>
    rw [skipEntries, bind_eq_ok, List.forall_mem_cons, ← ih]
    exact ⟨fun ⟨_, hentry, hrest⟩ => ⟨hentry, hrest⟩, fun ⟨hentry, hrest⟩ => ⟨(), hentry, hrest⟩⟩

/-- Where reading broke off, a reader that passes over the document breaks off too. -/
theorem skip_ne_ok_of_readValue (fuel : Nat) :
    (∀ cs draft, readValue fuel cs = (draft, none) → draft.skip ≠ .ok ()) ∧
    (∀ first cs items stop, readItems fuel first cs = (items, stop, none) →
      skipItems items = .ok () → stop ≠ none) ∧
    ∀ first cs entries stop, readEntries fuel first cs = (entries, stop, none) →
      skipEntries entries = .ok () → stop ≠ none := by
  -- again one induction for the three readers; only the last part of a list or of a map can have broken off
  induction fuel with
  | zero =>
    refine ⟨fun cs draft h => ?_, fun first cs items stop h _ => ?_, fun first cs entries stop h _ => ?_⟩
    · obtain ⟨rfl, -⟩ := h
      exact nofun
    · obtain ⟨rfl, rfl, -⟩ := h
      exact Option.some_ne_none _
    · obtain ⟨rfl, rfl, -⟩ := h
      exact Option.some_ne_none _
  | succ fuel ih =>
    obtain ⟨hvalue, hitems, hentries⟩ := ih
    refine ⟨?_, ?_, ?_⟩
    · intro cs draft h
      unfold readValue at h
      split at h
      · obtain ⟨rfl, -⟩ := h
        exact nofun
      · exact skip_ne_ok_of_ofWord h
      · exact skip_ne_ok_of_ofWord h
      · exact skip_ne_ok_of_ofWord h
      · exact skip_ne_ok_of_ofString h
      next left _ =>
        obtain ⟨items, stop, beyond, hread⟩ : ∃ items stop beyond, readItems fuel true left = (items, stop, beyond) :=
          ⟨_, _, _, rfl⟩
        rw [hread] at h
        obtain ⟨rfl, rfl⟩ := h
        intro hskip
        obtain ⟨hskipItems, hstop⟩ := skip_list_eq_ok.mp hskip
        exact hitems true left items stop hread hskipItems hstop
      next left _ =>
        obtain ⟨entries, stop, beyond, hread⟩ :
          ∃ entries stop beyond, readEntries fuel true left = (entries, stop, beyond) := ⟨_, _, _, rfl⟩
        rw [hread] at h
        obtain ⟨rfl, rfl⟩ := h
        intro hskip
        obtain ⟨hskipEntries, hstop⟩ := skip_map_eq_ok.mp hskip
        exact hentries true left entries stop hread hskipEntries hstop
      · split_ifs at h
        · exact skip_ne_ok_of_ofNumber h
        · obtain ⟨rfl, -⟩ := h
          exact nofun
    · intro first cs items stop h hskip
      rcases readItems_succ h with ⟨-, hstop, -⟩ | ⟨rest, -, -, -, hrest⟩ |
        ⟨start, -, ⟨item, hitem, rfl, -⟩ | ⟨item, left, others, -, hothers, rfl⟩⟩
      · exact hstop
      · cases hrest
      · exact absurd (skipItems_eq_ok.mp hskip item List.mem_cons_self) (hvalue start item hitem)
      · exact hitems false left others stop hothers
          (skipItems_eq_ok.mpr fun other hother => skipItems_eq_ok.mp hskip other (List.mem_cons_of_mem _ hother))
    · intro first cs entries stop h hskip
      have hentry := skipEntries_eq_ok.mp hskip
      rcases readEntries_succ h with ⟨-, hstop, -⟩ | ⟨rest, -, -, -, hrest⟩ | ⟨key, broken, rfl, -⟩ |
        ⟨-, -, key, -, start, -, -, -, -, ⟨value, hread, rfl, -⟩ | ⟨value, left, others, -, hothers, rfl⟩⟩
      · exact hstop
      · cases hrest
      · cases hentry _ List.mem_cons_self
      · exact absurd (hentry _ List.mem_cons_self) (hvalue start value hread)
      · exact hentries false left others stop hothers
          (skipEntries_eq_ok.mpr fun other hother => hentry other (List.mem_cons_of_mem _ hother))

/-- A text in which the reader finds a document, up to the end of the text, spells that document. -/
theorem spells_of_read {text : String} {draft : Draft} (h : read text = (draft, none)) (hskip : draft.skip = .ok ()) :
    Spells text.toList draft := by
  unfold read at h
  dsimp only at h
  split at h
  next draft' hvalue =>
    obtain ⟨rfl, -⟩ := h
    -- a value that broke off is not passed over
    exact absurd hskip ((skip_ne_ok_of_readValue _).1 _ _ hvalue)
  next draft' rest hvalue =>
    split_ifs at h with hrest
    · obtain ⟨rfl, -⟩ := h
      obtain ⟨cs, hcs, hspells⟩ := (spells_of_readValue _).1 _ _ rest hvalue
      -- only blanks are left
      obtain ⟨gap, hgap, hblank⟩ := exists_blank_append rest
      rw [List.isEmpty_iff.mp hrest, List.append_nil] at hblank
      rw [hcs]
      exact hspells.append (hblank ▸ hgap)
    · cases (Prod.mk.inj h).2

/-- What can be taken in is whole. -/
theorem Fits.skip_eq_ok {depth : Nat} {draft : Draft} (h : draft.Fits depth) : draft.skip = .ok () := by
  obtain ⟨j, hj⟩ := h
  rw [eq_ofJson_of_buffer hj]
  exact skip_ofJson j

/-- A closed map is passed over when each of its values is. -/
theorem skip_object_eq_ok {entries : List (String × Draft)} :
    (object entries).skip = .ok () ↔ ∀ entry ∈ entries, entry.2.skip = .ok () := by
  rw [object, skip_map_eq_ok, skipEntries_eq_ok, fit, List.forall_mem_map, and_iff_left rfl]

end Draft

/-! ## Documents that have a text -/

/-- Each of the items that a text spells has a text of its own. -/
theorem SpellsItems.forall_exists_spells : ∀ {cs : List Char} {items : List Draft}, SpellsItems cs items →
    ∀ item ∈ items, ∃ cs, Spells cs item
  | cs, _, .one h => List.forall_mem_singleton.mpr ⟨cs, h⟩
  | _, _, .cons h hrest => List.forall_mem_cons.mpr ⟨⟨_, h⟩, hrest.forall_exists_spells⟩

/-- Each value of the entries that a text spells has a text of its own. -/
theorem SpellsEntries.forall_exists_spells : ∀ {cs : List Char} {entries : List (Except Fault String × Draft)},
    SpellsEntries cs entries → ∀ entry ∈ entries, ∃ cs, Spells cs entry.2
  | _, _, .one _ h => List.forall_mem_singleton.mpr ⟨_, h⟩
  | _, _, .cons _ h hrest => List.forall_mem_cons.mpr ⟨⟨_, h⟩, hrest.forall_exists_spells⟩

/-- Items that have texts have a text together. -/
theorem exists_spellsItems {items : List Draft} (h : ∀ item ∈ items, ∃ cs, Spells cs item) (hne : items ≠ []) :
    ∃ cs, SpellsItems cs items := by
  induction items with
  | nil => exact absurd rfl hne
  | cons item rest ih =>
    obtain ⟨⟨cs, hcs⟩, hrest⟩ := List.forall_mem_cons.mp h
    -- a comma follows unless it is the last one
    cases rest with
    | nil => exact ⟨cs, .one hcs⟩
    | cons =>
      obtain ⟨others, hothers⟩ := ih hrest (List.cons_ne_nil _ _)
      exact ⟨cs ++ ',' :: others, .cons hcs hothers⟩

/-- Entries whose values have texts have a text together. -/
theorem exists_spellsEntries {entries : List (String × Draft)} (h : ∀ entry ∈ entries, ∃ cs, Spells cs entry.2)
    (hne : entries ≠ []) : ∃ cs, SpellsEntries cs (fit entries) := by
  induction entries with
  | nil => exact absurd rfl hne
  | cons entry rest ih =>
    obtain ⟨⟨cs, hcs⟩, hrest⟩ := List.forall_mem_cons.mp h
    cases rest with
    | nil => exact ⟨_, .one (spellsKey_encodeText entry.1) hcs⟩
    | cons =>
      obtain ⟨others, hothers⟩ := ih hrest (List.cons_ne_nil _ _)
      exact ⟨_, .cons (spellsKey_encodeText entry.1) hcs hothers⟩

/-- A list has a text when its items do. -/
theorem exists_spells_list_iff {items : List Draft} :
    (∃ cs, Spells cs (.list items none)) ↔ ∀ item ∈ items, ∃ cs, Spells cs item := by
  constructor
  · rintro ⟨cs, h⟩
    cases h with
    | token _ h => cases h
    | noItems => exact nofun
    | list _ h => exact h.forall_exists_spells
  · intro h
    cases items with
    | nil => exact ⟨_, .noItems blank_nil blank_nil blank_nil⟩
    | cons =>
      obtain ⟨cs, hcs⟩ := exists_spellsItems h (List.cons_ne_nil _ _)
      exact ⟨_, .list blank_nil hcs blank_nil⟩

/-- A map has a text when the values of its entries do. -/
theorem exists_spells_object_iff {entries : List (String × Draft)} :
    (∃ cs, Spells cs (.object entries)) ↔ ∀ entry ∈ entries, ∃ cs, Spells cs entry.2 := by
  constructor
  · rintro ⟨cs, h⟩ entry hentry
    have hmem : (Except.ok entry.1, entry.2) ∈ fit entries := List.mem_map_of_mem hentry
    rw [Draft.object] at h
    generalize fit entries = keyed at h hmem
    -- of the forms of a text only those in braces are maps
    cases h with
    | token _ h => cases h
    | noEntries => cases hmem
    | map _ h => exact h.forall_exists_spells _ hmem
  · intro h
    cases entries with
    | nil => exact ⟨_, .noEntries blank_nil blank_nil blank_nil⟩
    | cons =>
      obtain ⟨cs, hcs⟩ := exists_spellsEntries h (List.cons_ne_nil _ _)
      exact ⟨_, .map blank_nil hcs blank_nil⟩

end Signalbox.Json
