import Signalbox.Lenient.Reader
import Signalbox.Proofs.Decimal.Exact
import Signalbox.Proofs.Json.Reread

/-!
# Plain numbers in lenient documents

A number of a plain document is a numeral of a lenient one, with the same parts. What such a numeral is worth is
another matter: it is always the float that is nearest to it, also where a plain document keeps a whole number.

Main results:

* `Lenient.readNumeral_of_readParts`: the numeral that is read for a number.
* `Numeral.toFloat_ofCount`: the float that is read for a count.
-/

namespace Signalbox

/-- The numeral with the parts of a number. -/
def Numeral.ofParts (p : Number.Parts) : Numeral :=
  ⟨if p.negative then .minus else .none, .decimal p.whole p.fraction p.exponent⟩

namespace Lenient

variable {cs left : List Char}

/-! ## The parts of a number -/

/-- Digits that the strict reader takes are those in front of the text, at least one. -/
theorem readDigits_eq_ok {digits : List Char} (h : Json.readDigits cs = .ok (digits, left)) :
    cs.takeWhile Text.isAsciiDigit = digits ∧ cs.dropWhile Text.isAsciiDigit = left ∧ digits ≠ [] := by
  unfold Json.readDigits at h
  dsimp only at h
  split_ifs at h with hempty
  obtain ⟨rfl, rfl⟩ := Prod.mk.inj (Except.ok.inj h)
  exact ⟨rfl, rfl, fun heq => hempty (List.isEmpty_iff.mpr heq)⟩

/-- A whole part that the strict reader takes is taken by this one too. -/
theorem readWhole_of_plain {whole : List Char} (h : Json.readWhole cs = .ok (whole, left)) :
    readWhole cs = (whole, left) ∧ whole ≠ [] := by
  unfold Json.readWhole at h
  split at h
  next rest =>
    split_ifs at h
    obtain ⟨rfl, rfl⟩ := Prod.mk.inj (Except.ok.inj h)
    exact ⟨rfl, List.cons_ne_nil _ _⟩
  next hzero =>
    obtain ⟨rfl, rfl, hne⟩ := readDigits_eq_ok h
    refine ⟨?_, hne⟩
    unfold readWhole
    split
    next rest => exact absurd rfl (hzero rest)
    next => rfl

/-- An exponent that the strict reader takes is taken by this one too. -/
theorem readExponent_of_plain {exponent : Option Int} (h : Json.readExponent cs = .ok (exponent, left)) :
    readExponent cs = (exponent, left) := by
  cases cs with
  | nil =>
    obtain ⟨rfl, rfl⟩ := Prod.mk.inj (Except.ok.inj h)
    rfl
  | cons c cs =>
    -- with the letter there are digits behind it; without it there is no exponent
    by_cases he : c = 'e' ∨ c = 'E'
    · rw [Json.readExponent_cons he] at h
      obtain ⟨⟨digits, rest⟩, hdigits, h⟩ := map_eq_ok.mp h
      obtain ⟨rfl, rfl⟩ := Prod.mk.inj h
      obtain ⟨rfl, rfl, hne⟩ := readDigits_eq_ok hdigits
      refine (if_pos he).trans ?_
      show (if (List.takeWhile Text.isAsciiDigit (Json.splitExponentSign cs).2).isEmpty then _ else _) = _
      rw [if_neg (by simpa using hne)]
      rfl
    · obtain ⟨rfl, rfl⟩ := Prod.mk.inj (Except.ok.inj ((if_neg he).symm.trans h))
      exact if_neg he

/-- A decimal numeral with a point. -/
theorem readDecimal_of_point {whole rest : List Char} (hwhole : readWhole cs = (whole, '.' :: rest))
    (hne : whole ≠ []) : readDecimal cs =
      some (.decimal whole (some (rest.takeWhile Text.isAsciiDigit))
        (readExponent (rest.dropWhile Text.isAsciiDigit)).1, (readExponent (rest.dropWhile Text.isAsciiDigit)).2) := by
  unfold readDecimal
  rw [hwhole]
  exact if_neg (by simp [hne])

/-- A decimal numeral without a point. -/
theorem readDecimal_of_no_point {whole rest : List Char} (hwhole : readWhole cs = (whole, rest)) (hne : whole ≠ [])
    (hpoint : ∀ tail, rest = '.' :: tail → False) :
    readDecimal cs = some (.decimal whole none (readExponent rest).1, (readExponent rest).2) := by
  have hdigits : whole.isEmpty = false := by simpa using hne
  unfold readDecimal
  simp only [hwhole, hdigits, Bool.false_eq_true, if_false]

/-- Digits, and what may stand behind them, are a decimal numeral. -/
theorem readDecimal_of_plain {whole afterWhole afterFraction : List Char} {fraction : Option (List Char)}
    {exponent : Option Int} (hwhole : Json.readWhole cs = .ok (whole, afterWhole))
    (hfraction : Json.readFraction afterWhole = .ok (fraction, afterFraction))
    (hexponent : Json.readExponent afterFraction = .ok (exponent, left)) :
    readDecimal cs = some (.decimal whole fraction exponent, left) := by
  obtain ⟨hwhole', hne⟩ := readWhole_of_plain hwhole
  have hexponent' := readExponent_of_plain hexponent
  unfold Json.readFraction at hfraction
  -- with a point or without one
  split at hfraction
  next rest =>
    obtain ⟨⟨digits, rest'⟩, hread, hfound⟩ := bind_eq_ok.mp hfraction
    obtain ⟨rfl, rfl⟩ := Prod.mk.inj (Except.ok.inj hfound)
    obtain ⟨rfl, rfl, -⟩ := readDigits_eq_ok hread
    rw [readDecimal_of_point hwhole' hne, hexponent']
  next hpoint =>
    obtain ⟨rfl, rfl⟩ := Prod.mk.inj (Except.ok.inj hfraction)
    rw [readDecimal_of_no_point hwhole' hne hpoint, hexponent']

/-- Where a hexadecimal numeral begins, a plain number is a zero alone. -/
theorem left_of_hex {x : Char} {rest : List Char} {parts : Number.Parts} (hx : x = 'x' ∨ x = 'X')
    (hcs : (Json.splitSign cs).2 = '0' :: x :: rest) (h : Json.readParts cs = .ok (parts, left)) :
    left = x :: rest := by
  obtain ⟨whole, afterWhole, fraction, afterFraction, exponent, hwhole, hfraction, hexponent, -⟩ :=
    Json.readParts_eq_ok.mp h
  rw [hcs] at hwhole
  rcases hx with rfl | rfl
  all_goals
    obtain ⟨-, rfl⟩ := Prod.mk.inj (Except.ok.inj hwhole)
    obtain ⟨-, rfl⟩ := Prod.mk.inj (Except.ok.inj hfraction)
    obtain ⟨-, rfl⟩ := Prod.mk.inj (Except.ok.inj hexponent)
    rfl

/-- Behind its sign, a plain number is read as a magnitude, unless the magnitude goes on as a hexadecimal one. -/
theorem readMagnitude_of_readParts {parts : Number.Parts} (h : Json.readParts cs = .ok (parts, left))
    (hleft : ∀ c ∈ left.head?, c ≠ 'x' ∧ c ≠ 'X') :
    readMagnitude (Json.splitSign cs).2 = some (.decimal parts.whole parts.fraction parts.exponent, left) := by
  have hhex : ∀ x rest, x = 'x' ∨ x = 'X' → (Json.splitSign cs).2 = '0' :: x :: rest → left = x :: rest :=
    fun _ _ hx hcs => left_of_hex hx hcs h
  obtain ⟨whole, afterWhole, fraction, afterFraction, exponent, hwhole, hfraction, hexponent, rfl⟩ :=
    Json.readParts_eq_ok.mp h
  have hdecimal := readDecimal_of_plain hwhole hfraction hexponent
  obtain ⟨c, rest, hcs, hc⟩ := Json.exists_cons_of_readWhole hwhole
  rw [hcs] at hdecimal hhex ⊢
  -- the words for other magnitudes do not start with a digit
  unfold readMagnitude
  split
  next heq =>
    obtain ⟨rfl, -⟩ := List.cons.inj heq
    exact absurd hc (by decide)
  next heq =>
    obtain ⟨rfl, -⟩ := List.cons.inj heq
    exact absurd hc (by decide)
  next x rest' heq =>
    obtain ⟨rfl, rfl⟩ := List.cons.inj heq
    rw [if_neg]
    · exact hdecimal
    · rintro ⟨hx, -⟩
      obtain rfl := hhex x rest' hx rfl
      exact hx.elim (hleft x rfl).1 (hleft x rfl).2
  next => exact hdecimal

/-- A plain number is read as a numeral with its parts, unless the numeral goes on as a hexadecimal one. -/
theorem readNumeral_of_readParts {parts : Number.Parts} (h : Json.readParts cs = .ok (parts, left))
    (hleft : ∀ c ∈ left.head?, c ≠ 'x' ∧ c ≠ 'X') : readNumeral cs = some (.ofParts parts, left) := by
  have hmagnitude := readMagnitude_of_readParts h hleft
  have hnegative : parts.negative = (Json.splitSign cs).1 := by
    obtain ⟨_, _, _, _, _, -, -, -, rfl⟩ := Json.readParts_eq_ok.mp h
    rfl
  unfold Numeral.ofParts
  rw [hnegative]
  -- the sign of a plain number is a minus or none
  obtain ⟨first, others, rfl, hfirst⟩ := Json.exists_cons_of_readParts h
  have hplus : first ≠ '+' := by
    rintro rfl
    exact absurd hfirst (by decide)
  by_cases hminus : first = '-'
  · subst hminus
    show (readMagnitude others).map _ = _
    rw [show others = (Json.splitSign ('-' :: others)).2 from rfl, hmagnitude]
    rfl
  · have hsign : Json.splitSign (first :: others) = (false, first :: others) := by
      unfold Json.splitSign
      simp [hminus]
    rw [hsign] at hmagnitude ⊢
    have hnone : readNumeral (first :: others) =
        (readMagnitude (first :: others)).map fun read => (⟨.none, read.1⟩, read.2) := by
      unfold readNumeral
      simp [hplus, hminus]
    rw [hnone, hmagnitude]
    rfl

end Lenient

/-! ## Counts -/

/-- The float that is read for a count is the one nearest to it. -/
theorem Numeral.toFloat_ofCount {n : Nat} (h : n < 2 ^ 64) :
    (Numeral.ofParts ⟨false, Nat.toDigits 10 n, none, none⟩).toFloat = .ok n.toFloat := by
  have hvalue : Decimal.toFloat ⟨Text.ofDigits (Nat.toDigits 10 n ++ []), 0 - (0 : Nat)⟩ = n.toFloat := by
    rw [List.append_nil, ofDigits_toDigits]
    exact Decimal.toFloat_whole _
  show (if (Decimal.toFloat ⟨Text.ofDigits (Nat.toDigits 10 n ++ []), 0 - (0 : Nat)⟩).isFinite then
    Except.ok (Decimal.toFloat ⟨Text.ofDigits (Nat.toDigits 10 n ++ []), 0 - (0 : Nat)⟩) else _) = _
  rw [hvalue, if_pos (isFinite_natToFloat h)]

end Signalbox
