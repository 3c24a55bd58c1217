import Signalbox.Proofs.Json.Reread

/-!
# Floats as numbers of documents

Every finite float is written as a number that a reader goes through to the end, whatever its digits and
wherever its point. What the reader makes of the digits is not said here: the float that it gives may be
another one.

Main results:

* `Binary.exists_ofFloat?_eq_some`: finite floats have digits.
* `Json.exists_readParts_float`: the text of a finite float.
-/

namespace Signalbox

open Float.Model Float.Model.UnpackedFloat in
/-- A finite float has a mantissa and an exponent. -/
theorem Binary.exists_ofFloat?_eq_some {x : Float} (h : x.isFinite = true) : ∃ b, ofFloat? x = some b := by
  -- the bits of the exponent are not all ones
  have hscale : x.toBits.toNat / hiddenBit % 2048 ≠ 2047 := by
    intro hones
    have hexponent : (unpackExponent x.toModel.toBits.toBitVec : BitVec Format.binary64.exponentBits) = -1#_ := by
      refine BitVec.eq_of_toNat_eq ?_
      show x.toBits.toNat >>> 52 % 2048 = 2047
      rw [Nat.shiftRight_eq_div_pow]
      exact hones
    have hfinite : (UnpackedFloat.unpack .binary64 x.toModel.toBits.toBitVec).isFinite = true := h
    unfold UnpackedFloat.unpack at hfinite
    dsimp only at hfinite
    rw [if_pos hexponent] at hfinite
    split_ifs at hfinite <;> exact absurd hfinite Bool.false_ne_true
  unfold ofFloat?
  dsimp only
  rw [if_neg hscale]
  split_ifs <;> exact ⟨_, rfl⟩

namespace Json

/-! ## Rows of digits -/

/-- A row of digits, which is not empty. -/
def IsDigits (ds : List Char) : Prop :=
  ds ≠ [] ∧ ∀ c ∈ ds, Text.isAsciiDigit c = true

/-- The text of a number without its sign. -/
def IsMagnitude (cs : List Char) : Prop :=
  ∃ whole cs₁ fraction cs₂ exponent, readWhole cs = .ok (whole, cs₁) ∧ readFraction cs₁ = .ok (fraction, cs₂) ∧
    readExponent cs₂ = .ok (exponent, [])

section

variable {ds rest : List Char}

theorem notDigit_nil : ∀ c ∈ ([] : List Char).head?, Text.isAsciiDigit c = false :=
  fun _ h => nomatch h

theorem notDigit_cons {c : Char} (h : Text.isAsciiDigit c = false) (rest : List Char) :
    ∀ c' ∈ (c :: rest).head?, Text.isAsciiDigit c' = false :=
  fun _ hc => Option.some.inj hc ▸ h

/-- Digits are read up to the first character that is none. -/
theorem readDigits_append_of_isDigits (h : IsDigits ds) (hrest : ∀ c ∈ rest.head?, Text.isAsciiDigit c = false) :
    readDigits (ds ++ rest) = .ok (ds, rest) := by
  have htake : rest.takeWhile Text.isAsciiDigit = [] ∧ rest.dropWhile Text.isAsciiDigit = rest := by
    cases rest with
    | nil => exact ⟨rfl, rfl⟩
    | cons c rest =>
      have hc : ¬ Text.isAsciiDigit c = true := by simp [hrest c rfl]
      exact ⟨List.takeWhile_cons_of_neg hc, List.dropWhile_cons_of_neg hc⟩
  unfold readDigits
  dsimp only
  rw [List.takeWhile_append_of_pos h.2, List.dropWhile_append_of_pos h.2, htake.1, htake.2, List.append_nil,
    if_neg (by simp [h.1])]

/-- A row of digits that starts with another one than zero, or a zero alone, is whole. -/
theorem readWhole_append_of_isDigits (h : IsDigits ds) (hhead : ds = ['0'] ∨ ds.head? ≠ some '0')
    (hrest : ∀ c ∈ rest.head?, Text.isAsciiDigit c = false) : readWhole (ds ++ rest) = .ok (ds, rest) := by
  rcases hhead with rfl | hhead
  · show (if (rest.head?.map Text.isAsciiDigit).getD false then _ else _) = _
    cases rest with
    | nil => rfl
    | cons c rest =>
      rw [List.head?_cons, Option.map_some, Option.getD_some, hrest c rfl]
      rfl
  · rw [← readDigits_append_of_isDigits h hrest]
    obtain ⟨c, cs, rfl⟩ := List.exists_cons_of_ne_nil h.1
    rw [List.cons_append]
    unfold readWhole
    split
    next heq => exact absurd (congrArg some (List.cons.inj heq).1) hhead
    next => rfl

/-- The digits behind the point are read as the fraction. -/
theorem readFraction_point (h : IsDigits ds) (hrest : ∀ c ∈ rest.head?, Text.isAsciiDigit c = false) :
    readFraction ('.' :: (ds ++ rest)) = .ok (some ds, rest) := by
  rw [readFraction, readDigits_append_of_isDigits h hrest]
  rfl

/-- Digits around a point are a magnitude. -/
theorem isMagnitude_point {whole fraction : List Char} (hwhole : IsDigits whole)
    (hhead : whole = ['0'] ∨ whole.head? ≠ some '0') (hfraction : IsDigits fraction) :
    IsMagnitude (whole ++ '.' :: fraction) := by
  have hread := readFraction_point hfraction notDigit_nil
  rw [List.append_nil] at hread
  refine ⟨whole, '.' :: fraction, some fraction, [], none, ?_, hread, rfl⟩
  exact readWhole_append_of_isDigits hwhole hhead (notDigit_cons rfl _)

/-- An exponent with its sign is read to its end. -/
theorem readExponent_sign {sign : Char} (hsign : sign = '-' ∨ sign = '+') (h : IsDigits ds) :
    ∃ e, readExponent ('e' :: sign :: ds) = .ok (some e, []) := by
  have hsplit : (splitExponentSign (sign :: ds)).2 = ds := by rcases hsign with rfl | rfl <;> rfl
  have hread := readDigits_append_of_isDigits h notDigit_nil
  rw [List.append_nil] at hread
  rw [readExponent_cons (.inl rfl), hsplit, hread]
  exact ⟨_, rfl⟩

end

/-! ## Layouts -/

theorem isDigits_toDigits (n : Nat) : IsDigits (Nat.toDigits 10 n) :=
  ⟨Nat.toDigits_ne_nil, fun _ => isAsciiDigit_of_mem_toDigits⟩

/-- The digits of a decimal that is not zero start with another one than zero. -/
theorem isDigits_significand {d : Decimal} (h : d.digits ≠ 0) :
    IsDigits d.significand.1 ∧ d.significand.1.head? ≠ some '0' := by
  have hall := isDigits_toDigits d.digits
  have hhead := head_toDigits_ne_zero h
  unfold Decimal.significand
  dsimp only
  generalize Nat.toDigits 10 d.digits = all at hall hhead ⊢
  -- the digits are those that are kept and the zeros behind them
  generalize hkept : (all.reverse.dropWhile (· == '0')).reverse = kept
  have hsplit : kept ++ (all.reverse.takeWhile (· == '0')).reverse = all := by
    rw [← hkept, ← List.reverse_append, List.takeWhile_append_dropWhile, List.reverse_reverse]
  have hne : kept ≠ [] := by
    rintro rfl
    obtain ⟨c, cs, rfl⟩ := List.exists_cons_of_ne_nil hall.1
    have hmem : c ∈ ((c :: cs).reverse.takeWhile (· == '0')).reverse := by
      rw [List.nil_append] at hsplit
      rw [hsplit]
      exact List.mem_cons_self
    have hzero := List.mem_takeWhile_imp (List.mem_reverse.mp hmem)
    exact hhead (congrArg some (by simpa using hzero))
  rw [if_neg (by simpa using hne)]
  refine ⟨⟨hne, fun c hc => hall.2 c (hsplit ▸ List.mem_append_left _ hc)⟩, ?_⟩
  rwa [← hsplit, List.head?_append, Option.or_of_isSome (by simpa using hne)] at hhead

section

variable {digits : List Char}

/-- A digit, perhaps a point and other digits, and an exponent are a magnitude. -/
theorem isMagnitude_exponent {first sign : Char} {others ds : List Char} (hdigits : IsDigits (first :: others))
    (hfirst : first ≠ '0') (hsign : sign = '-' ∨ sign = '+') (hexponent : IsDigits ds) :
    IsMagnitude ((match first :: others with
      | first :: [] => [first]
      | first :: others => first :: '.' :: others
      | [] => []) ++ 'e' :: sign :: ds) := by
  have hone : IsDigits [first] := ⟨List.cons_ne_nil _ _, by simpa using hdigits.2 first List.mem_cons_self⟩
  have hhead : [first].head? ≠ some '0' := fun h => hfirst (Option.some.inj h)
  have hwhole := fun c rest (hc : Text.isAsciiDigit c = false) =>
    readWhole_append_of_isDigits hone (.inr hhead) (notDigit_cons hc rest)
  have hmark : Text.isAsciiDigit 'e' = false := rfl
  obtain ⟨e, hexponent⟩ := readExponent_sign hsign hexponent
  -- a single digit stands without a point
  cases others with
  | nil => exact ⟨[first], _, none, _, some e, hwhole 'e' _ hmark, rfl, hexponent⟩
  | cons second others =>
    have hothers : IsDigits (second :: others) :=
      ⟨List.cons_ne_nil _ _, fun c hc => hdigits.2 c (List.mem_cons_of_mem _ hc)⟩
    have hfraction := readFraction_point hothers (notDigit_cons hmark (sign :: ds))
    exact ⟨[first], _, some (second :: others), _, some e, hwhole '.' _ rfl, hfraction, hexponent⟩

/-- The scientific form, one digit before the point and an exponent, is a magnitude. -/
theorem isMagnitude_scientific (h : IsDigits digits) (hhead : digits.head? ≠ some '0') (point : Int) :
    IsMagnitude (Decimal.scientific digits point) := by
  obtain ⟨first, others, rfl⟩ := List.exists_cons_of_ne_nil h.1
  have hfirst : first ≠ '0' := fun heq => hhead (congrArg some heq)
  unfold Decimal.scientific
  dsimp only
  rw [List.append_assoc]
  refine isMagnitude_exponent h hfirst ?_ (isDigits_toDigits (point - 1).natAbs)
  split_ifs <;> simp

/-- The form without an exponent is a magnitude, also where it is filled up with zeros. -/
theorem isMagnitude_positional (h : IsDigits digits) (hhead : digits.head? ≠ some '0') (point : Int) :
    IsMagnitude (Decimal.positional digits point true) := by
  have hzeros : ∀ n, ∀ c ∈ List.replicate n '0', Text.isAsciiDigit c = true := by
    intro n c hc
    rw [(List.mem_replicate.mp hc).2]
    rfl
  unfold Decimal.positional
  rw [if_pos rfl]
  -- the point stands before the digits, behind them or among them
  split_ifs with hsmall hlarge
  · -- zeros between the point and the digits
    have hzero : IsDigits ['0'] := ⟨by simp, by simp [Text.isAsciiDigit]⟩
    have hfraction : IsDigits (List.replicate (-point).toNat '0' ++ digits) := by
      refine ⟨by simp [h.1], ?_⟩
      intro c hc
      exact (List.mem_append.mp hc).elim (hzeros _ c) (h.2 c)
    exact isMagnitude_point hzero (.inl rfl) hfraction
  · -- zeros between the digits and the point
    refine isMagnitude_point ⟨by simp [h.1], ?_⟩ (.inr ?_) ⟨by simp, by simp [Text.isAsciiDigit]⟩
    · intro c hc
      exact (List.mem_append.mp hc).elim (h.2 c) (hzeros _ c)
    · rwa [List.head?_append, Option.or_of_isSome (by simpa using h.1)]
  · -- the point between two digits
    have hpoint : 0 < point.toNat ∧ point.toNat < digits.length := by omega
    rw [List.append_assoc, List.singleton_append]
    refine isMagnitude_point ⟨?_, fun c hc => h.2 c (List.mem_of_mem_take hc)⟩ (.inr ?_)
      ⟨?_, fun c hc => h.2 c (List.mem_of_mem_drop hc)⟩
    · simp [h.1]
      omega
    · rwa [List.head?_take, if_neg (by omega)]
    · simp
      omega

end

/-- A decimal is written as a magnitude. -/
theorem isMagnitude_write (d : Decimal) : IsMagnitude (d.write .document) := by
  unfold Decimal.write
  split_ifs with hzero
  · exact ⟨['0'], ['.', '0'], some ['0'], [], none, rfl, rfl, rfl⟩
  · exact absurd rfl (by assumption)
  obtain ⟨hdigits, hhead⟩ := isDigits_significand hzero
  dsimp only
  split_ifs
  · exact isMagnitude_scientific hdigits hhead _
  · exact isMagnitude_positional hdigits hhead _

/-! ## Signs -/

/-- A magnitude is a number, with a minus in front of it and without one. -/
theorem IsMagnitude.exists_readParts {cs : List Char} (h : IsMagnitude cs) (negative : Bool) :
    ∃ parts, readParts ((if negative then ['-'] else []) ++ cs) = .ok (parts, []) := by
  obtain ⟨whole, cs₁, fraction, cs₂, exponent, hwhole, hfraction, hexponent⟩ := h
  obtain ⟨c, rest, rfl, hc⟩ := exists_cons_of_readWhole hwhole
  -- a magnitude does not start with a minus of its own
  have hsign : splitSign ((if negative then ['-'] else []) ++ c :: rest) = (negative, c :: rest) := by
    cases negative with
    | true => rfl
    | false =>
      have hminus : c ≠ '-' := by
        rintro rfl
        exact absurd hc (by decide)
      show splitSign (c :: rest) = _
      unfold splitSign
      simp [hminus]
  refine ⟨_, readParts_eq_ok.mpr ⟨whole, cs₁, fraction, cs₂, exponent, ?_, hfraction, hexponent, rfl⟩⟩
  rw [hsign]
  exact hwhole

/-- A finite float is written as a number. -/
theorem exists_readParts_float {x : Float} (h : x.isFinite = true) :
    ∃ parts, readParts (encodeNumber (.float x)) = .ok (parts, []) := by
  obtain ⟨b, hb⟩ := Binary.exists_ofFloat?_eq_some h
  have htext : encodeNumber (.float x) =
      (if isSigned x then ['-'] else []) ++ b.shortest.write .document := by
    show (if x.isFinite then (Layout.document.write x).toList else _) = _
    rw [if_pos h, Layout.write, hb]
    exact String.toList_ofList
  rw [htext]
  exact (isMagnitude_write _).exists_readParts _

end Json

end Signalbox
