import Signalbox.Condition.Grammar
import Signalbox.Proofs.Decimal.Exact
import Signalbox.Proofs.Text.Ends

/-!
# The grammar of conditions

An `Occurrence` is a text taken apart around a comparison. What the reader of conditions finds in a text is
`Occurrence.First`: of all ways to take the text apart the one that begins first, with each of its parts as long as it
can be. The reader never goes back, and it need not. The classes of characters that follow each other have none in
common, so that a part ends where its characters end; only the number may be cut short, and what follows it does not
matter.

Main results:

* `Condition.readHere?_here` and `Condition.exists_of_readHere?`: a comparison at the start of a text.
* `Condition.search?_eq_some` and `Condition.search?_eq_none`: the first place where there is one.
* `Condition.read_eq_of_occurrence`: what is read from a text, whatever the text is.
-/

namespace Signalbox

/-- A sign stands for the comparison that it is the sign of, and `==` stands for equality like `=`. -/
def CompareOp.IsSpelled (operator : CompareOp) (sign : String) : Prop :=
  sign = operator.sign ∨ sign = "==" ∧ operator = .eq

namespace Condition

open Text (Ends ends_cons ends_append takeWhile_of_ends dropWhile_of_ends)

/-- The signs that a comparison may have in a text. -/
def signs : List String := ["==", "!=", ">=", "<=", "=", ">", "<"]

/-- A text taken apart around a comparison: what stands before it, its four parts with the blanks on both sides of the
sign, and what stands after it. -/
structure Occurrence where
  front : List Char
  device : List Char
  property : List Char
  before : List Char
  sign : String
  after : List Char
  digits : List Char
  back : List Char

namespace Occurrence

/-- The text from the comparison on. -/
def here (o : Occurrence) : List Char :=
  o.device ++ ':' :: (o.property ++ (o.before ++ (o.sign.toList ++ (o.after ++ (o.digits ++ o.back)))))

/-- The parts of a comparison are of their classes. -/
structure WellFormed (o : Occurrence) : Prop where
  device_ne : o.device ≠ []
  device : ∀ c ∈ o.device, isDeviceChar c = true
  property_ne : o.property ≠ []
  property : ∀ c ∈ o.property, isPropertyChar c = true
  before : ∀ c ∈ o.before, Text.isBlank c = true
  sign : o.sign ∈ signs
  after : ∀ c ∈ o.after, Text.isBlank c = true
  digits_ne : o.digits ≠ []
  digits : ∀ c ∈ o.digits, Text.isDecimalDigit c = true

/-- A text taken apart around a comparison. -/
structure In (o : Occurrence) (input : String) : Prop extends o.WellFormed where
  text : o.front ++ o.here = input.toList

/-- No comparison in the text begins earlier, and none that begins at the same place has a longer part. -/
structure First (o : Occurrence) (input : String) : Prop extends o.In input where
  front_le : ∀ o' : Occurrence, o'.In input → o.front.length ≤ o'.front.length
  longest : ∀ o' : Occurrence, o'.In input → o'.front.length = o.front.length →
    o'.device.length ≤ o.device.length ∧ o'.property.length ≤ o.property.length ∧
    o'.sign.length ≤ o.sign.length ∧ o'.digits.length ≤ o.digits.length

/-- The parts of a comparison as they are read. -/
def parts (o : Occurrence) : Parts :=
  ⟨o.device, o.property, o.sign, o.digits⟩

end Occurrence

/-! ## Classes of characters -/

/-- A digit is no blank. -/
theorem isBlank_eq_false_of_isDecimalDigit {c : Char} (h : Text.isDecimalDigit c = true) : Text.isBlank c = false := by
  -- the two tables have no range in common
  have hapart : ∀ r ∈ Text.decimalDigitRanges, ∀ q ∈ Text.blankRanges, r.2 < q.1 ∨ q.2 < r.1 := by decide
  obtain ⟨r, hr, hlow, hhigh⟩ := Text.inRanges_iff.mp h
  by_contra hblank
  obtain ⟨q, hq, hlow', hhigh'⟩ := Text.inRanges_iff.mp (Bool.not_eq_false _ ▸ hblank)
  have := hapart r hr q hq
  omega

/-- No blank is part of a property. -/
theorem isPropertyChar_eq_false_of_isBlank {c : Char} (h : Text.isBlank c = true) : isPropertyChar c = false := by
  have hapart : ∀ q ∈ Text.blankRanges, q.2 < 0x5F ∨ 0x7A < q.1 := by decide
  obtain ⟨q, hq, hlow, hhigh⟩ := Text.inRanges_iff.mp h
  have hq := hapart q hq
  by_contra hproperty
  rw [Bool.not_eq_false, isPropertyChar, Bool.or_eq_true, Bool.and_eq_true, decide_eq_true_eq, decide_eq_true_eq,
    beq_iff_eq] at hproperty
  rcases hproperty with ⟨hfirst, hlast⟩ | rfl
  · have hfirst : 0x61 ≤ c.toNat := hfirst
    have hlast : c.toNat ≤ 0x7A := hlast
    omega
  · have hunderscore : ('_' : Char).toNat = 0x5F := rfl
    omega

theorem ne_equals_of_isBlank {c : Char} (h : Text.isBlank c = true) : c ≠ '=' := by
  rintro rfl
  exact absurd h (by decide)

theorem ne_equals_of_isDecimalDigit {c : Char} (h : Text.isDecimalDigit c = true) : c ≠ '=' := by
  rintro rfl
  exact absurd h (by decide)

/-! ## Signs -/

/-- A sign begins with a character of its own and is read up to its end when no `=` follows it. -/
theorem sign_cases {sign : String} (h : sign ∈ signs) :
    (∃ c cs, sign.toList = c :: cs ∧ Text.isBlank c = false ∧ isPropertyChar c = false) ∧
      ∀ rest : List Char, rest.head? ≠ some '=' → readSign? (sign.toList ++ rest) = some (sign, rest) := by
  -- only the signs of one character ask what follows them
  have hsingle (rest : List Char) (hrest : rest.head? ≠ some '=') (cs : List Char) : rest ≠ '=' :: cs := by
    rintro rfl
    exact hrest rfl
  simp only [signs, List.mem_cons, List.not_mem_nil, or_false] at h
  rcases h with rfl | rfl | rfl | rfl | rfl | rfl | rfl
  · exact ⟨⟨'=', ['='], rfl, by decide, by decide⟩, fun rest _ => rfl⟩
  · exact ⟨⟨'!', ['='], rfl, by decide, by decide⟩, fun rest _ => rfl⟩
  · exact ⟨⟨'>', ['='], rfl, by decide, by decide⟩, fun rest _ => rfl⟩
  · exact ⟨⟨'<', ['='], rfl, by decide, by decide⟩, fun rest _ => rfl⟩
  · refine ⟨⟨'=', [], rfl, by decide, by decide⟩, fun rest hrest => ?_⟩
    show readSign? ('=' :: rest) = _
    rw [readSign?]
    exact hsingle rest hrest
  · refine ⟨⟨'>', [], rfl, by decide, by decide⟩, fun rest hrest => ?_⟩
    show readSign? ('>' :: rest) = _
    rw [readSign?]
    exact hsingle rest hrest
  · refine ⟨⟨'<', [], rfl, by decide, by decide⟩, fun rest hrest => ?_⟩
    show readSign? ('<' :: rest) = _
    rw [readSign?]
    exact hsingle rest hrest

/-- A sign that was read stands in front. -/
theorem of_readSign? {cs rest : List Char} {sign : String} (h : readSign? cs = some (sign, rest)) :
    sign ∈ signs ∧ cs = sign.toList ++ rest := by
  unfold readSign? at h
  split at h
  all_goals first
    | (obtain ⟨rfl, rfl⟩ := Prod.mk.inj (Option.some.inj h); exact ⟨by decide, rfl⟩)
    | cases h

/-- Every sign is that of an operator. -/
theorem exists_ofSign?_eq_some {sign : String} (h : sign ∈ signs) :
    ∃ operator, CompareOp.ofSign? sign = some operator ∧ operator.IsSpelled sign := by
  simp only [signs, List.mem_cons, List.not_mem_nil, or_false] at h
  rcases h with rfl | rfl | rfl | rfl | rfl | rfl | rfl
  · exact ⟨.eq, rfl, .inr ⟨rfl, rfl⟩⟩
  · exact ⟨.ne, rfl, .inl rfl⟩
  · exact ⟨.ge, rfl, .inl rfl⟩
  · exact ⟨.le, rfl, .inl rfl⟩
  · exact ⟨.eq, rfl, .inl rfl⟩
  · exact ⟨.gt, rfl, .inl rfl⟩
  · exact ⟨.lt, rfl, .inl rfl⟩

/-! ## One place of a text -/

/-- After the colon a comparison is read on, with the device before the colon. -/
theorem readHere?_of_dropWhile {cs rest : List Char} (h : cs.dropWhile isDeviceChar = ':' :: rest) :
    readHere? cs =
      match readSign? ((rest.dropWhile isPropertyChar).dropWhile Text.isBlank) with
      | some (sign, after) =>
        if (cs.takeWhile isDeviceChar).isEmpty ∨ (rest.takeWhile isPropertyChar).isEmpty ∨
            ((after.dropWhile Text.isBlank).takeWhile Text.isDecimalDigit).isEmpty then none
        else some ⟨cs.takeWhile isDeviceChar, rest.takeWhile isPropertyChar, sign,
          (after.dropWhile Text.isBlank).takeWhile Text.isDecimalDigit⟩
      | none => none := by
  unfold readHere?
  rw [h]
  rfl

/-- A comparison at the start of a text is read part by part. Only its number goes on in what follows. -/
theorem readHere?_here {o : Occurrence} (h : o.WellFormed) :
    readHere? o.here = some ⟨o.device, o.property, o.sign, o.digits ++ o.back.takeWhile Text.isDecimalDigit⟩ := by
  obtain ⟨⟨c, cs, hsign, hcBlank, hcProperty⟩, hread⟩ := sign_cases h.sign
  have hnumber : Ends Text.isBlank (o.digits ++ o.back) :=
    ends_append h.digits_ne (fun c hc => isBlank_eq_false_of_isDecimalDigit (h.digits c hc)) _
  have hafter : (o.after ++ (o.digits ++ o.back)).head? ≠ some '=' := by
    -- a blank or a digit comes next
    intro hhead
    cases hgap : o.after with
    | cons a as =>
      rw [hgap] at hhead
      exact ne_equals_of_isBlank (h.after a (by rw [hgap]; exact List.mem_cons_self)) (Option.some.inj hhead)
    | nil =>
      cases hdigits : o.digits with
      | nil => exact h.digits_ne hdigits
      | cons d ds =>
        rw [hgap, hdigits] at hhead
        exact ne_equals_of_isDecimalDigit (h.digits d (by rw [hdigits]; exact List.mem_cons_self))
          (Option.some.inj hhead)
  have hcomparison : Ends Text.isBlank (o.sign.toList ++ (o.after ++ (o.digits ++ o.back))) := by
    rw [hsign]
    exact ends_cons hcBlank _
  have hgap : Ends isPropertyChar (o.before ++ (o.sign.toList ++ (o.after ++ (o.digits ++ o.back)))) := by
    by_cases hbefore : o.before = []
    · rw [hbefore, hsign]
      exact ends_cons hcProperty _
    · exact ends_append hbefore (fun c hc => isPropertyChar_eq_false_of_isBlank (h.before c hc)) _
  have hcolon : Ends isDeviceChar (':' :: (o.property ++ (o.before ++ (o.sign.toList ++
      (o.after ++ (o.digits ++ o.back)))))) := ends_cons (by decide) _
  -- each part is taken up to its end, where the next one begins with a character of another class
  rw [Occurrence.here, readHere?_of_dropWhile (dropWhile_of_ends h.device hcolon), takeWhile_of_ends h.device hcolon,
    takeWhile_of_ends h.property hgap, dropWhile_of_ends h.property hgap, dropWhile_of_ends h.before hcomparison,
    hread _ hafter]
  dsimp only
  rw [dropWhile_of_ends h.after hnumber, List.takeWhile_append_of_pos h.digits, if_neg]
  -- no part is empty
  simp only [List.isEmpty_iff, List.append_eq_nil_iff, h.device_ne, h.property_ne, h.digits_ne, false_and, or_self,
    not_false_eq_true]

/-- What is read at the start of a text is a comparison that the text starts with. -/
theorem exists_of_readHere? {cs : List Char} {parts : Parts} (h : readHere? cs = some parts) (front : List Char) :
    ∃ o : Occurrence, o.WellFormed ∧ o.front = front ∧ o.here = cs ∧ o.parts = parts := by
  unfold readHere? at h
  dsimp only at h
  split at h
  next afterColon hcolon =>
    split at h
    next sign afterSign hsign =>
      split_ifs at h with hempty
      simp only [List.isEmpty_iff, not_or] at hempty
      obtain ⟨hdevice, hproperty, hdigits⟩ := hempty
      obtain ⟨hmem, hrest⟩ := of_readSign? hsign
      obtain rfl := Option.some.inj h
      have hall (p : Char → Bool) (cs : List Char) : ∀ c ∈ cs.takeWhile p, p c = true := fun _ => List.mem_takeWhile_imp
      -- what was taken off the text, one part after the other
      refine ⟨⟨front, cs.takeWhile isDeviceChar, afterColon.takeWhile isPropertyChar,
        (afterColon.dropWhile isPropertyChar).takeWhile Text.isBlank, sign, afterSign.takeWhile Text.isBlank,
        (afterSign.dropWhile Text.isBlank).takeWhile Text.isDecimalDigit,
        (afterSign.dropWhile Text.isBlank).dropWhile Text.isDecimalDigit⟩,
        ⟨hdevice, hall _ _, hproperty, hall _ _, hall _ _, hmem, hall _ _, hdigits, hall _ _⟩, rfl, ?_, rfl⟩
      -- the parts that were split off give the text again
      rw [Occurrence.here, List.takeWhile_append_dropWhile, List.takeWhile_append_dropWhile, ← hrest,
        List.takeWhile_append_dropWhile, List.takeWhile_append_dropWhile, ← hcolon, List.takeWhile_append_dropWhile]
    next => cases h
  next => cases h

/-! ## All places of a text -/

/-- What a search finds stands at the first place where anything can be read. -/
theorem search?_eq_some {cs : List Char} {parts : Parts} (h : search? cs = some parts) :
    ∃ front rest, front ++ rest = cs ∧ readHere? rest = some parts ∧
      ∀ front' rest', front' ++ rest' = cs → readHere? rest' ≠ none → front.length ≤ front'.length := by
  induction cs with
  | nil => cases h
  | cons c cs ih =>
    rw [search?] at h
    cases hhere : readHere? (c :: cs) with
    | some found =>
      rw [hhere] at h
      exact ⟨[], c :: cs, rfl, hhere.trans h, fun front' rest' _ _ => Nat.zero_le _⟩
    | none =>
      rw [hhere, Option.none_or] at h
      obtain ⟨front, rest, rfl, hrest, hfirst⟩ := ih h
      refine ⟨c :: front, rest, rfl, hrest, fun front' rest' hcs hread => ?_⟩
      -- nothing is read at the first character
      cases front' with
      | nil =>
        obtain rfl : rest' = c :: (front ++ rest) := hcs
        exact absurd hhere hread
      | cons c' front' => exact Nat.succ_le_succ (hfirst front' rest' (List.cons.inj hcs).2 hread)

/-! ## Occurrences in a text -/

namespace Occurrence

variable {o : Occurrence} {input : String}

theorem In.readHere?_ne_none (h : o.In input) : readHere? o.here ≠ none := by
  rw [readHere?_here h.toWellFormed]
  exact Option.some_ne_none _

/-- Where a comparison begins is all there is to say of it, but for the end of its number. -/
theorem In.eq_of_length_eq {parts : Parts} {front rest : List Char} (h : o.In input)
    (htext : front ++ rest = input.toList) (hread : readHere? rest = some parts)
    (hlength : o.front.length = front.length) :
    parts = ⟨o.device, o.property, o.sign, o.digits ++ o.back.takeWhile Text.isDecimalDigit⟩ := by
  obtain ⟨-, rfl⟩ := List.append_inj (h.text.trans htext.symm) hlength
  rw [readHere?_here h.toWellFormed] at hread
  exact (Option.some.inj hread).symm

/-- A search finds the occurrence that begins first, with its longest parts. -/
theorem exists_first_of_search? {parts : Parts} (h : search? input.toList = some parts) :
    ∃ o : Occurrence, o.First input ∧ o.parts = parts := by
  obtain ⟨front, rest, htext, hread, hfirst⟩ := search?_eq_some h
  obtain ⟨o, hformed, rfl, rfl, hparts⟩ := exists_of_readHere? hread front
  refine ⟨o, ⟨⟨hformed, htext⟩, fun o' h' => hfirst _ _ h'.text h'.readHere?_ne_none, fun o' h' hlength => ?_⟩, hparts⟩
  -- at the same place the parts are the same, except that the number which is found goes on
  have hsame := hparts.trans (h'.eq_of_length_eq htext hread hlength)
  obtain ⟨hdevice, hproperty, hsign, hdigits⟩ := Parts.mk.inj hsame
  refine ⟨hdevice ▸ le_rfl, hproperty ▸ le_rfl, hsign ▸ le_rfl, ?_⟩
  rw [hdigits, List.length_append]
  exact Nat.le_add_right _ _

end Occurrence

/-! ## Conditions -/

/-- What is read from a text in which a search finds something. Every sign that is found is known. -/
theorem exists_read_eq_of_search? {input : String} {parts : Parts} (h : search? input.toList = some parts)
    (hsign : parts.sign ∈ signs) :
    ∃ operator : CompareOp, operator.IsSpelled parts.sign ∧
      read input =
        if parts.digits.all Text.isAsciiDigit then
          .ok ⟨String.ofList parts.device, String.ofList parts.property, operator,
            (Text.ofDigits parts.digits).toFloat⟩
        else .error (.unreadable input) := by
  obtain ⟨operator, hoperator, hspelled⟩ := exists_ofSign?_eq_some hsign
  refine ⟨operator, hspelled, ?_⟩
  rw [read, h]
  dsimp only
  rw [hoperator]
  dsimp only
  rw [Decimal.toFloat_whole]

/-- A text that is refused is unreadable, whatever the reason looks for. -/
theorem eq_unreadable_of_read {input : String} {reason : ConditionError} (h : read input = .error reason) :
    reason = .unreadable input := by
  cases hsearch : search? input.toList with
  | none =>
    rw [read, hsearch] at h
    exact (Except.error.inj h).symm
  | some parts =>
    -- the sign that was found is known, so only the digits can be at fault
    obtain ⟨o, ho, rfl⟩ := Occurrence.exists_first_of_search? hsearch
    obtain ⟨operator, -, hread⟩ := exists_read_eq_of_search? hsearch ho.sign
    rw [hread] at h
    split_ifs at h
    exact (Except.error.inj h).symm

end Condition

end Signalbox
