import Signalbox.Json.Reader
import Signalbox.Proofs.Json.Number
import Signalbox.Proofs.Json.Outcome
import Signalbox.Proofs.Text.Ends

/-!
# Number tokens

A number is read as far as it goes: where something follows that is not part of it, the reader stops in front
of that and has read the same number as without it.

Main results:

* `Json.readParts_append`: what follows a number does not matter.
* `Json.exists_takes_of_readParts`: the text of a number.
* `Json.exists_cons_of_readParts`: how a number starts.
-/

namespace Signalbox.Json

/-- The characters that numbers are made of. -/
def isNumberChar (c : Char) : Bool :=
  Text.isAsciiDigit c || c == '-' || c == '+' || c == '.' || c == 'e' || c == 'E'

/-- A number in front of the text ends there. -/
def EndsNumber (rest : List Char) : Prop :=
  ∀ c ∈ rest.head?, isNumberChar c = false

theorem endsNumber_nil : EndsNumber [] := fun _ h => nomatch h

theorem endsNumber_cons {c : Char} (h : isNumberChar c = false) (rest : List Char) :
    EndsNumber (c :: rest) := by
  intro c' hc'
  obtain rfl := Option.some.inj hc'
  exact h

namespace EndsNumber

variable {c : Char} {rest : List Char}

/-- No digit follows a number. -/
theorem not_digit (h : EndsNumber (c :: rest)) : Text.isAsciiDigit c = false := by
  have hc := h c rfl
  simp only [isNumberChar, Bool.or_eq_false_iff] at hc
  exact hc.1.1.1.1.1

theorem ne_point (h : EndsNumber (c :: rest)) : c ≠ '.' := by
  rintro rfl
  exact absurd (h '.' rfl) (by decide)

/-- No exponent follows a number. -/
theorem ne_e (h : EndsNumber (c :: rest)) : ¬ (c = 'e' ∨ c = 'E') := by
  rintro (rfl | rfl)
  · exact absurd (h 'e' rfl) (by decide)
  · exact absurd (h 'E' rfl) (by decide)

end EndsNumber

/-! ## What follows a number -/

theorem takeWhile_digits_append (cs : List Char) {rest : List Char} (h : EndsNumber rest) :
    (cs ++ rest).takeWhile Text.isAsciiDigit = cs.takeWhile Text.isAsciiDigit := by
  induction cs with
  | nil =>
    cases rest with
    | nil => rfl
    | cons c rest => exact List.takeWhile_cons_of_neg (by rw [h.not_digit]; exact Bool.false_ne_true)
  | cons c cs ih =>
    by_cases hc : Text.isAsciiDigit c
    · rw [List.cons_append, List.takeWhile_cons_of_pos hc, List.takeWhile_cons_of_pos hc, ih]
    · rw [List.cons_append, List.takeWhile_cons_of_neg hc, List.takeWhile_cons_of_neg hc]

theorem dropWhile_digits_append (cs : List Char) {rest : List Char} (h : EndsNumber rest) :
    (cs ++ rest).dropWhile Text.isAsciiDigit = cs.dropWhile Text.isAsciiDigit ++ rest := by
  induction cs with
  | nil =>
    cases rest with
    | nil => rfl
    | cons c rest => exact List.dropWhile_cons_of_neg (by rw [h.not_digit]; exact Bool.false_ne_true)
  | cons c cs ih =>
    by_cases hc : Text.isAsciiDigit c
    · rw [List.cons_append, List.dropWhile_cons_of_pos hc, List.dropWhile_cons_of_pos hc, ih]
    · rw [List.cons_append, List.dropWhile_cons_of_neg hc, List.dropWhile_cons_of_neg hc, List.cons_append]

section

variable {cs left rest : List Char} (hends : EndsNumber rest)

include hends

/-- Digits are read the same in front of something that is not part of a number. -/
theorem readDigits_append {digits : List Char} (h : readDigits cs = .ok (digits, left)) :
    readDigits (cs ++ rest) = .ok (digits, left ++ rest) := by
  unfold readDigits at h ⊢
  dsimp only at h ⊢
  rw [takeWhile_digits_append cs hends, dropWhile_digits_append cs hends]
  split_ifs at h ⊢ with hempty
  obtain ⟨rfl, rfl⟩ := Prod.mk.inj (Except.ok.inj h)
  rfl

/-- So are the digits before the point. -/
theorem readWhole_append {digits : List Char} (h : readWhole cs = .ok (digits, left)) :
    readWhole (cs ++ rest) = .ok (digits, left ++ rest) := by
  unfold readWhole at h ⊢
  split at h
  next cs =>
    rw [List.cons_append]
    -- whether a digit follows the zero does not change
    have hhead : ((cs ++ rest).head?.map Text.isAsciiDigit).getD false =
        (cs.head?.map Text.isAsciiDigit).getD false := by
      cases cs with
      | cons => rfl
      | nil =>
        cases rest with
        | nil => rfl
        | cons c rest => exact hends.not_digit
    change (if ((cs ++ rest).head?.map Text.isAsciiDigit).getD false then _ else _) = _
    rw [hhead]
    split_ifs at h ⊢
    obtain ⟨rfl, rfl⟩ := Prod.mk.inj (Except.ok.inj h)
    rfl
  next hzero =>
    have happend := readDigits_append hends h
    cases cs with
    | nil => exact nomatch h
    | cons c cs =>
      rw [List.cons_append] at happend ⊢
      split
      next heq =>
        obtain ⟨rfl, -⟩ := List.cons.inj heq
        exact absurd rfl (hzero cs)
      next => exact happend

/-- So is a fraction, or that there is none. -/
theorem readFraction_append {fraction : Option (List Char)} (h : readFraction cs = .ok (fraction, left)) :
    readFraction (cs ++ rest) = .ok (fraction, left ++ rest) := by
  unfold readFraction at h
  split at h
  next cs =>
    cases hdigits : readDigits cs with
    | error stop =>
      rw [hdigits] at h
      exact nomatch h
    | ok read =>
      obtain ⟨digits, left'⟩ := read
      rw [hdigits] at h
      -- no fraction, and none begins with what follows
      obtain ⟨rfl, rfl⟩ := Prod.mk.inj (Except.ok.inj h)
      rw [List.cons_append, readFraction, readDigits_append hends hdigits]
      rfl
  next hpoint =>
    obtain ⟨rfl, rfl⟩ := Prod.mk.inj (Except.ok.inj h)
    unfold readFraction
    split
    next cs' heq =>
      cases cs with
      | nil =>
        obtain rfl : rest = '.' :: cs' := heq
        exact absurd rfl hends.ne_point
      | cons c cs =>
        obtain ⟨rfl, -⟩ := List.cons.inj heq
        exact absurd rfl (hpoint cs)
    next => rfl

/-- The sign of an exponent, true if it is negative, and what follows it. -/
def splitExponentSign : List Char → Bool × List Char
  | '-' :: rest => (true, rest)
  | '+' :: rest => (false, rest)
  | rest => (false, rest)

omit hends in
/-- The sign of an exponent is the same whatever follows. -/
theorem splitExponentSign_append {cs : List Char} (hcs : cs ≠ []) (rest : List Char) :
    splitExponentSign (cs ++ rest) = ((splitExponentSign cs).1, (splitExponentSign cs).2 ++ rest) := by
  cases cs with
  | nil => exact absurd rfl hcs
  | cons c cs =>
    by_cases hminus : c = '-'
    · subst hminus
      rfl
    · by_cases hplus : c = '+'
      · subst hplus
        rfl
      · rw [List.cons_append]
        unfold splitExponentSign
        simp [hminus, hplus]

omit hends in
/-- An exponent is its sign and the digits behind it. -/
theorem readExponent_cons {c : Char} (he : c = 'e' ∨ c = 'E') (cs : List Char) :
    readExponent (c :: cs) = (readDigits (splitExponentSign cs).2).map fun (digits, rest) =>
      (some (if (splitExponentSign cs).1 then -(Text.ofDigits digits : Int) else Text.ofDigits digits), rest) := by
  refine (if_pos he).trans ?_
  change (readDigits (splitExponentSign cs).2 >>= fun read => _) = _
  cases readDigits (splitExponentSign cs).2 <;> rfl

/-- An exponent is read the same, or that there is none, in front of something that is not part of a number. -/
theorem readExponent_append {exponent : Option Int} (h : readExponent cs = .ok (exponent, left)) :
    readExponent (cs ++ rest) = .ok (exponent, left ++ rest) := by
  cases cs with
  | nil =>
    obtain ⟨rfl, rfl⟩ := Prod.mk.inj (Except.ok.inj h)
    cases rest with
    | nil => rfl
    | cons c rest => exact if_neg hends.ne_e
  | cons c cs =>
    -- an exponent begins with its letter; without it there is none, and none begins with what follows
    by_cases he : c = 'e' ∨ c = 'E'
    · rw [readExponent_cons he] at h
      cases hdigits : readDigits (splitExponentSign cs).2 with
      | error stop =>
        rw [hdigits] at h
        exact nomatch h
      | ok read =>
        -- there are digits after the sign
        have hcs : cs ≠ [] := by
          rintro rfl
          exact nomatch hdigits
        rw [hdigits] at h
        obtain ⟨rfl, rfl⟩ := Prod.mk.inj (Except.ok.inj h)
        rw [List.cons_append, readExponent_cons he, splitExponentSign_append hcs, readDigits_append hends hdigits]
        rfl
    · obtain ⟨rfl, rfl⟩ := Prod.mk.inj (Except.ok.inj ((if_neg he).symm.trans h))
      exact if_neg he

/-- The sign of a number, true if it is negative, and what follows it. -/
def splitSign : List Char → Bool × List Char
  | '-' :: rest => (true, rest)
  | cs => (false, cs)

omit hends in
/-- The sign of a number is the same whatever follows. -/
theorem splitSign_append {cs : List Char} (hcs : cs ≠ []) (rest : List Char) :
    splitSign (cs ++ rest) = ((splitSign cs).1, (splitSign cs).2 ++ rest) := by
  cases cs with
  | nil => exact absurd rfl hcs
  | cons c cs =>
    by_cases hminus : c = '-'
    · subst hminus
      rfl
    · rw [List.cons_append]
      unfold splitSign
      simp [hminus]

omit hends in
/-- The parts of a number, one after the other. -/
theorem readParts_eq_ok {parts : Number.Parts} :
    readParts cs = .ok (parts, left) ↔
      ∃ whole cs₁ fraction cs₂ exponent, readWhole (splitSign cs).2 = .ok (whole, cs₁) ∧
        readFraction cs₁ = .ok (fraction, cs₂) ∧ readExponent cs₂ = .ok (exponent, left) ∧
        parts = ⟨(splitSign cs).1, whole, fraction, exponent⟩ := by
  constructor
  · intro h
    obtain ⟨⟨whole, cs₁⟩, hwhole, h⟩ := bind_eq_ok.mp (h : (readWhole (splitSign cs).2 >>= fun read => _) = _)
    obtain ⟨⟨fraction, cs₂⟩, hfraction, h⟩ := bind_eq_ok.mp h
    obtain ⟨⟨exponent, cs₃⟩, hexponent, h⟩ := bind_eq_ok.mp h
    obtain ⟨rfl, rfl⟩ := Prod.mk.inj (Except.ok.inj h)
    exact ⟨whole, cs₁, fraction, cs₂, exponent, hwhole, hfraction, hexponent, rfl⟩
  · rintro ⟨whole, cs₁, fraction, cs₂, exponent, hwhole, hfraction, hexponent, rfl⟩
    exact bind_eq_ok.mpr ⟨_, hwhole, bind_eq_ok.mpr ⟨_, hfraction, bind_eq_ok.mpr ⟨_, hexponent, rfl⟩⟩⟩

/-- A number is read the same in front of something that is not part of it. -/
theorem readParts_append {parts : Number.Parts} (h : readParts cs = .ok (parts, left)) :
    readParts (cs ++ rest) = .ok (parts, left ++ rest) := by
  have hcs : cs ≠ [] := by
    rintro rfl
    exact nomatch h
  obtain ⟨whole, cs₁, fraction, cs₂, exponent, hwhole, hfraction, hexponent, rfl⟩ := readParts_eq_ok.mp h
  -- each part is read in front of the next one, and the last one in front of what follows
  refine readParts_eq_ok.mpr ⟨whole, cs₁ ++ rest, fraction, cs₂ ++ rest, exponent, ?_,
    readFraction_append hends hfraction, readExponent_append hends hexponent, ?_⟩
  · rw [splitSign_append hcs]
    exact readWhole_append hends hwhole
  · rw [splitSign_append hcs]

end

/-! ## How a number starts -/

variable {cs left : List Char}

/-- The digits before the point start with one of them. -/
theorem exists_cons_of_readWhole {digits : List Char} (h : readWhole cs = .ok (digits, left)) :
    ∃ c rest, cs = c :: rest ∧ Text.isAsciiDigit c := by
  cases cs with
  | nil => exact nomatch h
  | cons c rest =>
    refine ⟨c, rest, rfl, ?_⟩
    by_contra hdigit
    -- otherwise there are no digits in front
    have hzero : c ≠ '0' := by
      rintro rfl
      exact hdigit rfl
    have hdigits : readWhole (c :: rest) = readDigits (c :: rest) := by
      unfold readWhole
      simp [hzero]
    have hnone : (c :: rest).takeWhile Text.isAsciiDigit = [] := List.takeWhile_cons_of_neg hdigit
    rw [hdigits, readDigits, hnone] at h
    exact nomatch h

/-- A number starts with a minus or a digit. -/
theorem exists_cons_of_readParts {parts : Number.Parts} (h : readParts cs = .ok (parts, left)) :
    ∃ c rest, cs = c :: rest ∧ (c = '-' ∨ Text.isAsciiDigit c) := by
  obtain ⟨whole, cs₁, fraction, cs₂, exponent, hwhole, -⟩ := readParts_eq_ok.mp h
  obtain ⟨c, rest, hcs, hc⟩ := exists_cons_of_readWhole hwhole
  unfold splitSign at hcs
  split at hcs
  · exact ⟨_, _, rfl, .inl rfl⟩
  · exact ⟨c, rest, hcs, .inr hc⟩

/-- A digit is no blank. -/
theorem not_isSpace_of_isAsciiDigit {c : Char} (h : Text.isAsciiDigit c = true) : isSpace c = false := by
  by_contra hspace
  rw [Bool.not_eq_false] at hspace
  simp only [isSpace, Bool.or_eq_true, beq_iff_eq] at hspace
  rcases hspace with ((rfl | rfl) | rfl) | rfl <;> exact absurd h (by decide)

/-! ## The text of a number -/

/-- The text is over or starts with the same character. -/
def StartsLike (left' left : List Char) : Prop :=
  ∀ c ∈ left'.head?, c ∈ left.head?

theorem startsLike_nil : StartsLike [] left := nofun

theorem startsLike_append (text : List Char) {left' : List Char} (h : StartsLike left' left) :
    StartsLike (text ++ left') (text ++ left) := by
  cases text with
  | nil => exact h
  | cons c text => exact fun _ hc => hc

theorem ends_of_startsLike {p : Char → Bool} {left' : List Char} (h : Text.Ends p left)
    (hleft : StartsLike left' left) : Text.Ends p left' :=
  fun c hc => h c (hleft c hc)

/-- A reader takes this text for this value in front of whatever starts like the rest. -/
def Takes (read : List Char → Except Stop (α × List Char)) (text : List Char) (a : α) (left : List Char) : Prop :=
  ∀ left', StartsLike left' left → read (text ++ left') = .ok (a, left')

/-- Digits that were read are the whole of their text. -/
theorem takes_of_readDigits {digits : List Char} (h : readDigits cs = .ok (digits, left)) :
    cs = digits ++ left ∧ digits ≠ [] ∧ Takes readDigits digits digits left := by
  unfold readDigits at h
  dsimp only at h
  split_ifs at h with hempty
  obtain ⟨rfl, rfl⟩ := Prod.mk.inj (Except.ok.inj h)
  refine ⟨List.takeWhile_append_dropWhile.symm, fun hnil => hempty (by rw [hnil]; rfl), fun left' hleft => ?_⟩
  -- what follows the digits is no digit
  have hends := ends_of_startsLike (Text.ends_dropWhile Text.isAsciiDigit cs) hleft
  have hall : ∀ c ∈ cs.takeWhile Text.isAsciiDigit, Text.isAsciiDigit c = true := fun _ => List.mem_takeWhile_imp
  unfold readDigits
  dsimp only
  rw [Text.takeWhile_of_ends hall hends, Text.dropWhile_of_ends hall hends, if_neg hempty]

/-- The digits before the point that were read are the whole of their text. -/
theorem takes_of_readWhole {whole : List Char} (h : readWhole cs = .ok (whole, left)) :
    cs = whole ++ left ∧ Takes readWhole whole whole left := by
  -- a zero stands by itself, and other digits go on as far as they can
  unfold readWhole at h
  split at h
  next rest =>
    split_ifs at h with hdigit
    obtain ⟨rfl, rfl⟩ := Prod.mk.inj (Except.ok.inj h)
    refine ⟨rfl, fun left' hleft => ?_⟩
    have hends : Text.Ends Text.isAsciiDigit rest := by
      intro c hc
      rw [hc] at hdigit
      exact Bool.eq_false_iff.mpr hdigit
    have hnone : ¬ (left'.head?.map Text.isAsciiDigit).getD false = true := by
      cases left' with
      | nil => exact Bool.false_ne_true
      | cons c left' =>
        have hc : Text.isAsciiDigit c = false := ends_of_startsLike hends hleft c rfl
        exact Bool.eq_false_iff.mp hc
    exact if_neg hnone
  next hzero =>
    obtain ⟨rfl, hne, htakes⟩ := takes_of_readDigits h
    refine ⟨rfl, fun left' hleft => ?_⟩
    -- the first digit is the same
    obtain ⟨d, digits, rfl⟩ := List.exists_cons_of_ne_nil hne
    have hfirst : ∀ rest, d :: digits ++ left' ≠ '0' :: rest := by
      rintro rest heq
      obtain ⟨rfl, -⟩ := List.cons.inj heq
      exact hzero _ rfl
    rw [readWhole]
    · exact htakes left' hleft
    · exact hfirst

/-- A fraction that was read is the fraction of a text of its own. -/
theorem exists_takes_of_readFraction {fraction : Option (List Char)} (h : readFraction cs = .ok (fraction, left)) :
    ∃ text, cs = text ++ left ∧ Takes readFraction text fraction left := by
  unfold readFraction at h
  split at h
  next rest =>
    obtain ⟨⟨digits, left'⟩, hdigits, h⟩ := bind_eq_ok.mp h
    obtain ⟨rfl, rfl⟩ := Prod.mk.inj (Except.ok.inj h)
    obtain ⟨rfl, -, htakes⟩ := takes_of_readDigits hdigits
    refine ⟨'.' :: digits, rfl, fun left' hleft => ?_⟩
    rw [List.cons_append, readFraction, htakes left' hleft]
    rfl
  next hpoint =>
    obtain ⟨rfl, rfl⟩ := Prod.mk.inj (Except.ok.inj h)
    refine ⟨[], rfl, fun left' hleft => ?_⟩
    rw [List.nil_append, readFraction]
    · rfl
    · rintro rest rfl
      -- no point either
      obtain ⟨rest', hcs⟩ : ∃ rest', cs = '.' :: rest' := List.head?_eq_some_iff.mp (hleft '.' rfl)
      exact hpoint rest' hcs

/-- The sign of an exponent has a text of its own, perhaps the empty one. -/
theorem exists_splitExponentSign (cs : List Char) :
    ∃ sign, cs = sign ++ (splitExponentSign cs).2 ∧ ∀ left', StartsLike left' (splitExponentSign cs).2 →
      splitExponentSign (sign ++ left') = ((splitExponentSign cs).1, left') := by
  unfold splitExponentSign
  split
  · exact ⟨['-'], rfl, fun left' _ => rfl⟩
  · exact ⟨['+'], rfl, fun left' _ => rfl⟩
  next hminus hplus =>
    refine ⟨[], rfl, fun left' hleft => ?_⟩
    rw [List.nil_append]
    split
    · obtain ⟨rest, hcs⟩ := List.head?_eq_some_iff.mp (hleft '-' rfl)
      exact absurd hcs (hminus rest)
    · obtain ⟨rest, hcs⟩ := List.head?_eq_some_iff.mp (hleft '+' rfl)
      exact absurd hcs (hplus rest)
    · rfl

/-- An exponent that was read is the exponent of a text of its own. -/
theorem exists_takes_of_readExponent {exponent : Option Int} (h : readExponent cs = .ok (exponent, left)) :
    ∃ text, cs = text ++ left ∧ Takes readExponent text exponent left := by
  by_cases he : ∃ c rest, cs = c :: rest ∧ (c = 'e' ∨ c = 'E')
  · -- the letter, the sign and the digits make up the text
    -- the letter, a sign or none, and the digits
    obtain ⟨c, rest, rfl, he⟩ := he
    rw [readExponent_cons he] at h
    obtain ⟨⟨digits, left'⟩, hdigits, h⟩ := map_eq_ok.mp h
    obtain ⟨rfl, rfl⟩ := Prod.mk.inj h
    obtain ⟨sign, hsign, hsplit⟩ := exists_splitExponentSign rest
    obtain ⟨hrest, hne, htakes⟩ := takes_of_readDigits hdigits
    refine ⟨c :: (sign ++ digits), ?_, fun left' hleft => ?_⟩
    · rw [List.cons_append, List.append_assoc, ← hrest, ← hsign]
    · rw [List.cons_append, List.append_assoc, readExponent_cons he,
        hsplit _ (hrest ▸ startsLike_append digits hleft), htakes left' hleft]
      rfl
  · -- nothing is taken, and nothing that starts alike is an exponent
    have hnone : ∀ left', StartsLike left' cs → readExponent left' = .ok (none, left') := by
      intro left' hleft
      cases left' with
      | nil => rfl
      | cons c rest =>
        obtain ⟨rest', hcs⟩ := List.head?_eq_some_iff.mp (hleft c rfl)
        exact if_neg fun hc => he ⟨c, rest', hcs, hc⟩
    rw [hnone cs fun _ hc => hc] at h
    obtain ⟨rfl, rfl⟩ := Prod.mk.inj (Except.ok.inj h)
    exact ⟨[], rfl, hnone⟩

/-- The sign of a number has a text of its own, perhaps the empty one. -/
theorem exists_splitSign (cs : List Char) :
    ∃ sign, cs = sign ++ (splitSign cs).2 ∧ ∀ left', StartsLike left' (splitSign cs).2 →
      splitSign (sign ++ left') = ((splitSign cs).1, left') := by
  -- there is a minus or there is no sign at all
  unfold splitSign
  split
  · exact ⟨['-'], rfl, fun left' _ => rfl⟩
  next hminus =>
    refine ⟨[], rfl, fun left' hleft => ?_⟩
    rw [List.nil_append]
    split
    · obtain ⟨rest, hcs⟩ := List.head?_eq_some_iff.mp (hleft '-' rfl)
      exact absurd hcs (hminus rest)
    · rfl

/-- A number that was read is the number of a text of its own. -/
theorem exists_takes_of_readParts {parts : Number.Parts} (h : readParts cs = .ok (parts, left)) :
    ∃ text, cs = text ++ left ∧ Takes readParts text parts left := by
  obtain ⟨whole, cs₁, fraction, cs₂, exponent, hwhole, hfraction, hexponent, rfl⟩ := readParts_eq_ok.mp h
  obtain ⟨sign, hsign, hsplit⟩ := exists_splitSign cs
  obtain ⟨hcs, htakesWhole⟩ := takes_of_readWhole hwhole
  obtain ⟨fractionText, rfl, htakesFraction⟩ := exists_takes_of_readFraction hfraction
  obtain ⟨exponentText, rfl, htakesExponent⟩ := exists_takes_of_readExponent hexponent
  refine ⟨sign ++ (whole ++ (fractionText ++ exponentText)), ?_, fun left' hleft => ?_⟩
  · rw [List.append_assoc, List.append_assoc, List.append_assoc, ← hcs, ← hsign]
  · -- every part is followed by the next one
    have hafterFraction := startsLike_append exponentText hleft
    have hafterWhole := startsLike_append fractionText hafterFraction
    have hafterSign := startsLike_append whole hafterWhole
    rw [← hcs] at hafterSign
    rw [List.append_assoc, List.append_assoc, List.append_assoc]
    refine readParts_eq_ok.mpr ⟨whole, fractionText ++ (exponentText ++ left'), fraction, exponentText ++ left',
      exponent, ?_, htakesFraction _ hafterFraction, htakesExponent _ hleft, ?_⟩
    · rw [hsplit _ hafterSign]
      exact htakesWhole _ hafterWhole
    · rw [hsplit _ hafterSign]

end Signalbox.Json
