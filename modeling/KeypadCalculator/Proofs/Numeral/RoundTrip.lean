import KeypadCalculator.Numeral.Normal
import Mathlib.Tactic.FieldSimp
import Mathlib.Tactic.IntervalCases
import Mathlib.Tactic.Ring

/-!
# What is written can be read

A result is written to a number of decimals and read again before the next operation. This file
follows a value through that passage. The digits of the whole part and those of the fraction are
printed apart, the fraction is padded to full length and then loses the zeros at its end, and
reading joins the digits that are left into one number over another power of ten; all of this
cancels.

* `Numeral.parse?_text`: the text of a numeral is read as that numeral.
* `Numeral.isCanonical_ofUnits`: what is written has no superfluous zero or sign, under either
  reading of the number of decimals.
* `Numeral.value_ofUnits`, `Numeral.read?_write`: where a scale is faithful, reading what was
  written gives the rounded value.
-/

namespace KeypadCalculator

/-! ## Faithful scales -/

namespace Scale

/-- A scale is faithful up to a number of decimals if the exponents up to there are the numbers of
decimals themselves. -/
def IsFaithful (scale : Scale) (decimals : Nat) : Prop :=
  ∀ k ≤ decimals, scale.exponent k = k

/-- The scale of the exact exponents is faithful for every number of decimals. -/
theorem isFaithful_exact (decimals : Nat) : exact.IsFaithful decimals :=
  fun _ _ => rfl

/-- The scale of the wrapped exponents is faithful below `2 ^ 32` decimals. -/
theorem isFaithful_wrapped {decimals : Nat} (h : decimals < 2 ^ 32) : wrapped.IsFaithful decimals :=
  fun _ hk => exponent_wrapped_of_lt (Nat.lt_of_le_of_lt hk h)

/-- A scale that is faithful up to a number of decimals is so up to every smaller one. -/
theorem IsFaithful.mono {scale : Scale} {k decimals : Nat} (h : scale.IsFaithful decimals)
    (hk : k ≤ decimals) : scale.IsFaithful k :=
  fun j hj => h j (Nat.le_trans hj hk)

/-- The units in one are the power of ten of the exponent. -/
theorem units_eq_pow (scale : Scale) (decimals : Nat) :
    scale.units decimals = 10 ^ scale.exponent decimals := rfl

/-- On the exact scale the exponent is the number of decimals. -/
@[simp] theorem units_exact (decimals : Nat) : exact.units decimals = 10 ^ decimals := rfl

/-- On a faithful scale the exponent is the number of decimals. -/
theorem IsFaithful.units_eq {scale : Scale} {decimals : Nat} (h : scale.IsFaithful decimals) :
    scale.units decimals = 10 ^ decimals := by
  rw [units_eq_pow, h decimals (Nat.le_refl _)]

/-- Under either reading, there are no more units than the number of decimals says. -/
theorem units_le (scale : Scale) (decimals : Nat) : scale.units decimals ≤ 10 ^ decimals := by
  refine Nat.pow_le_pow_right (by decide) ?_
  cases scale with
  | wrapped => exact Nat.mod_le _ _
  | exact => exact Nat.le_refl _

end Scale

namespace Numeral

/-! ## The text of a numeral -/

/-- No digit is the decimal point. -/
theorem ne_point_of_isDigit {c : Char} (h : c.isDigit = true) : c ≠ '.' := by
  rintro rfl
  exact absurd h (by decide)

/-- No digit is the minus sign. -/
theorem ne_minus_of_isDigit {c : Char} (h : c.isDigit = true) : c ≠ '-' := by
  rintro rfl
  exact absurd h (by decide)

/-- The point and the fraction of a numeral as they are written. -/
def fractionText (fraction : List Char) : List Char :=
  if fraction.isEmpty then [] else '.' :: fraction

/-- Nothing of the fraction stands in front of the point. -/
theorem takeWhile_fractionText (fraction : List Char) :
    (fractionText fraction).takeWhile (· ≠ '.') = [] := by
  cases fraction <;> rfl

/-- What stands behind the point is the fraction. -/
theorem drop_dropWhile_fractionText (fraction : List Char) :
    ((fractionText fraction).dropWhile (· ≠ '.')).drop 1 = fraction := by
  cases fraction <;> rfl

/-- Digits are read up to the first point, and what is behind it is the fraction. -/
theorem ofBody?_append {n : Numeral} {tail : List Char} (hnil : n.digits ≠ [])
    (h : ∀ c ∈ n.digits, c.isDigit = true) (htail : tail.takeWhile (· ≠ '.') = [])
    (hfraction : (tail.dropWhile (· ≠ '.')).drop 1 = n.fraction) :
    ofBody? n.negative (n.whole ++ tail) = some n := by
  have hwhole : ∀ c ∈ n.whole, decide (c ≠ '.') = true := fun c hc =>
    decide_eq_true (ne_point_of_isDigit (h c (List.mem_append_left _ hc)))
  have hall : n.digits.all Char.isDigit = true := List.all_eq_true.mpr h
  unfold ofBody?
  simp only [List.takeWhile_append_of_pos hwhole, List.dropWhile_append_of_pos hwhole, htail,
    hfraction, List.append_nil]
  rw [if_pos ⟨hnil, hall⟩]

/-- Digits without a sign in front are split at their first point. -/
theorem ofBody?_append_fractionText {n : Numeral} (hnil : n.digits ≠ [])
    (h : ∀ c ∈ n.digits, c.isDigit = true) :
    ofBody? n.negative (n.whole ++ fractionText n.fraction) = some n :=
  ofBody?_append hnil h (takeWhile_fractionText _) (drop_dropWhile_fractionText _)

/-- The sign of a numeral as it is written. -/
def signText (negative : Bool) : List Char :=
  if negative then ['-'] else []

/-- The text of a numeral is the sign, the whole part and the fraction with its point. -/
theorem text_eq_signText_append (n : Numeral) :
    n.text = signText n.negative ++ (n.whole ++ fractionText n.fraction) :=
  List.append_assoc _ _ _

/-- A minus sign at the start is the sign. -/
theorem parse?_signText_append {negative : Bool} {body : List Char} (h : body.head? ≠ some '-') :
    parse? (signText negative ++ body) = ofBody? negative body := by
  cases negative with
  | true => rfl
  | false =>
    show parse? body = _
    unfold parse?
    split
    · exact absurd rfl h
    · rfl

/-- Digits, and what follows them, do not start with a sign. -/
theorem head?_append_ne_minus {whole tail : List Char} (h : ∀ c ∈ whole, c.isDigit = true)
    (htail : tail.head? ≠ some '-') : (whole ++ tail).head? ≠ some '-' := by
  cases whole with
  | nil => exact htail
  | cons c cs =>
    intro hhead
    exact ne_minus_of_isDigit (h c List.mem_cons_self) (Option.some.inj hhead)

/-- The text of a numeral behind its sign does not start with a sign. -/
theorem head?_append_fractionText_ne_minus {n : Numeral} (h : ∀ c ∈ n.digits, c.isDigit = true) :
    (n.whole ++ fractionText n.fraction).head? ≠ some '-' := by
  apply head?_append_ne_minus fun c hc => h c (List.mem_append_left _ hc)
  cases n.fraction <;> simp [fractionText]

/-- The text of a numeral is read as that numeral. -/
theorem parse?_text {n : Numeral} (hnil : n.digits ≠ []) (h : ∀ c ∈ n.digits, c.isDigit = true) :
    parse? n.text = some n := by
  rw [text_eq_signText_append, parse?_signText_append (head?_append_fractionText_ne_minus h),
    ofBody?_append_fractionText hnil h]

/-- A canonical numeral has at least one digit. -/
theorem IsCanonical.digits_ne_nil {n : Numeral} (h : n.IsCanonical) : n.digits ≠ [] :=
  List.append_ne_nil_of_left_ne_nil h.whole_ne_nil _

/-- The text of a canonical numeral is read as that numeral. -/
theorem IsCanonical.parse?_text {n : Numeral} (h : n.IsCanonical) : parse? n.text = some n :=
  Numeral.parse?_text h.digits_ne_nil h.isDigit

/-! ## Digits of a number of units -/

/-- The zeros that a list of digits starts with are so many copies of zero. -/
theorem takeWhile_eq_replicate_zero (digits : List Char) :
    digits.takeWhile (· = '0') = List.replicate (digits.takeWhile (· = '0')).length '0' :=
  List.eq_replicate_of_mem fun c hc =>
    of_decide_eq_true (List.all_eq_true.mp List.all_takeWhile c hc)

/-- What is trimmed away are zeros. -/
theorem exists_trimZeros_append_replicate (digits : List Char) :
    ∃ k, trimZeros digits ++ List.replicate k '0' = digits := by
  refine ⟨(digits.reverse.takeWhile (· = '0')).length, ?_⟩
  have hsplit := List.takeWhile_append_dropWhile (p := (· = '0')) (l := digits.reverse)
  rw [takeWhile_eq_replicate_zero] at hsplit
  rw [trimZeros, ← List.reverse_inj, List.reverse_append, List.reverse_reverse,
    List.reverse_replicate, hsplit]

/-- Zeros at the end of the digits multiply the number by a power of ten. -/
theorem ofDigitChars_append_replicate_zero (digits : List Char) (k : Nat) :
    Nat.ofDigitChars 10 (digits ++ List.replicate k '0') 0 =
      10 ^ k * Nat.ofDigitChars 10 digits 0 := by
  rw [Nat.ofDigitChars_append, Nat.ofDigitChars_replicate_zero]

/-- Zeros in front of the digits do not change the number. -/
theorem ofDigitChars_replicate_zero_append (k : Nat) (digits : List Char) :
    Nat.ofDigitChars 10 (List.replicate k '0' ++ digits) 0 = Nat.ofDigitChars 10 digits 0 := by
  rw [Nat.ofDigitChars_append, Nat.ofDigitChars_replicate_zero, Nat.mul_zero]

/-- Padding digits with zeros does not change the number. -/
theorem ofDigitChars_leftpad (decimals : Nat) (digits : List Char) :
    Nat.ofDigitChars 10 (digits.leftpad decimals '0') 0 = Nat.ofDigitChars 10 digits 0 :=
  ofDigitChars_replicate_zero_append _ digits

/-- Digits that are padded with zeros are digits still. -/
theorem isDigit_of_mem_leftpad {decimals : Nat} {digits : List Char}
    (h : ∀ c ∈ digits, c.isDigit = true) {c : Char} (hc : c ∈ digits.leftpad decimals '0') :
    c.isDigit = true := by
  rcases List.mem_append.mp hc with hzero | hc
  · rw [List.eq_of_mem_replicate hzero]
    rfl
  · exact h c hc

/-- The digits of a fraction, with the zeros that were trimmed away, are as many as there are
decimals, and they spell the units of the fraction. -/
theorem exists_length_fractionDigits_add {decimals rest : Nat} (h : rest < 10 ^ decimals) :
    ∃ k, (fractionDigits decimals rest).length + k = decimals ∧
      10 ^ k * Nat.ofDigitChars 10 (fractionDigits decimals rest) 0 = rest := by
  by_cases hrest : rest = 0
  · subst hrest
    exact ⟨decimals, by simp⟩
  have hdecimals : 0 < decimals := by
    refine Nat.pos_of_ne_zero ?_
    rintro rfl
    omega
  have hlength : (Nat.toDigits 10 rest).length ≤ decimals :=
    (Nat.length_toDigits_le_iff (by decide) hdecimals).mpr h
  obtain ⟨k, hk⟩ :=
    exists_trimZeros_append_replicate ((Nat.toDigits 10 rest).leftpad decimals '0')
  refine ⟨k, ?_, ?_⟩
  · have := congrArg List.length hk
    rw [List.length_append, List.length_replicate, List.length_leftpad] at this
    rw [fractionDigits, if_neg hrest, this]
    omega
  · rw [fractionDigits, if_neg hrest, ← ofDigitChars_append_replicate_zero, hk,
      ofDigitChars_leftpad, Nat.ofDigitChars_ten_toDigits]

/-- The fraction that is written has digits alone. -/
theorem isDigit_of_mem_fractionDigits {decimals rest : Nat} {c : Char}
    (hc : c ∈ fractionDigits decimals rest) : c.isDigit = true := by
  unfold fractionDigits at hc
  split at hc
  · cases hc
  · exact isDigit_of_mem_leftpad
      (fun _ h => Nat.isDigit_of_mem_toDigits (by decide) (by decide) h) (mem_of_mem_trimZeros hc)

/-- The digits of a fraction do not end in a zero. -/
theorem getLast?_fractionDigits (decimals rest : Nat) :
    (fractionDigits decimals rest).getLast? ≠ some '0' := by
  unfold fractionDigits
  split
  · simp
  · exact getLast?_trimZeros _

/-- Digits that are all zero spell zero. -/
theorem exists_ne_zero_of_ofDigitChars_ne_zero (digits : List Char)
    (h : Nat.ofDigitChars 10 digits 0 ≠ 0) : ∃ c ∈ digits, c ≠ '0' := by
  by_contra hnone
  have hzero : ∀ c ∈ digits, c = '0' := fun c hc => by_contra fun hne => hnone ⟨c, hc, hne⟩
  rw [List.eq_replicate_of_mem hzero, Nat.ofDigitChars_replicate_zero] at h
  exact h rfl

/-- The digits of a number start with a zero only if the number is zero. -/
theorem head?_toDigits (n : Nat) :
    Nat.toDigits 10 n = ['0'] ∨ (Nat.toDigits 10 n).head? ≠ some '0' := by
  induction n using Nat.base_induction 10 (by decide) with
  | single m hm =>
    rw [Nat.toDigits_of_lt_base hm]
    interval_cases m <;> simp
  | digit m k hk hm ih =>
    right
    rw [← Nat.toDigits_append_toDigits (by decide) hm hk,
      List.head?_append_of_ne_nil _ Nat.toDigits_ne_nil]
    rcases ih with hzero | hhead
    · have := congrArg (fun digits => Nat.ofDigitChars 10 digits 0) hzero
      simp only [Nat.ofDigitChars_ten_toDigits] at this
      exact absurd this (Nat.ne_of_gt hm)
    · exact hhead

/-! ## What is written -/

variable {scale : Scale} {decimals : Nat}

/-- The numeral that is written has digits alone. -/
theorem isDigit_of_mem_digits_ofUnits {units : Int} {c : Char}
    (hc : c ∈ (ofUnits scale decimals units).digits) : c.isDigit = true := by
  rcases List.mem_append.mp hc with hwhole | hfraction
  · exact Nat.isDigit_of_mem_toDigits (by decide) (by decide) hwhole
  · exact isDigit_of_mem_fractionDigits hfraction

/-- The units of a fraction are fewer than there are in one. -/
theorem mod_units_lt (scale : Scale) (decimals n : Nat) :
    n % scale.units decimals < 10 ^ decimals :=
  Nat.lt_of_lt_of_le (Nat.mod_lt _ (scale.units_pos decimals)) (scale.units_le decimals)

/-- A number of units that is not zero has a digit that is not zero. -/
theorem exists_ne_zero_ofUnits {units : Int} (h : units ≠ 0) :
    ∃ c ∈ (ofUnits scale decimals units).digits, c ≠ '0' := by
  by_cases hrest : units.natAbs % scale.units decimals = 0
  · have hwhole : units.natAbs / scale.units decimals ≠ 0 := by
      intro hquotient
      have := Nat.div_add_mod units.natAbs (scale.units decimals)
      rw [hquotient, hrest, Nat.mul_zero] at this
      exact h (Int.natAbs_eq_zero.mp this.symm)
    obtain ⟨c, hc, hne⟩ := exists_ne_zero_of_ofDigitChars_ne_zero
      (Nat.toDigits 10 (units.natAbs / scale.units decimals))
      (by rwa [Nat.ofDigitChars_ten_toDigits])
    exact ⟨c, List.mem_append_left _ hc, hne⟩
  · obtain ⟨k, -, hk⟩ :=
      exists_length_fractionDigits_add (mod_units_lt scale decimals units.natAbs)
    obtain ⟨c, hc, hne⟩ := exists_ne_zero_of_ofDigitChars_ne_zero
      (fractionDigits decimals (units.natAbs % scale.units decimals)) (by
        intro hzero
        rw [hzero, Nat.mul_zero] at hk
        exact hrest hk.symm)
    exact ⟨c, List.mem_append_right _ hc, hne⟩

/-- What is written has no superfluous zero or sign. -/
theorem isCanonical_ofUnits (scale : Scale) (decimals : Nat) (units : Int) :
    (ofUnits scale decimals units).IsCanonical where
  isDigit _ hc := isDigit_of_mem_digits_ofUnits hc
  whole_ne_nil := Nat.toDigits_ne_nil
  head?_whole := head?_toDigits _
  getLast?_fraction := getLast?_fractionDigits _ _
  exists_ne_zero hneg := exists_ne_zero_ofUnits (Int.ne_of_lt (of_decide_eq_true hneg))

/-- Every text that is written is canonical. -/
theorem isCanonicalText_write (scale : Scale) (decimals : Nat) (r : Rat) :
    IsCanonicalText (write scale decimals r) :=
  ⟨_, isCanonical_ofUnits scale decimals _, toList_write scale decimals r⟩

/-- There are no more digits behind the point than decimals. -/
theorem length_fraction_ofUnits_le (scale : Scale) (decimals : Nat) (units : Int) :
    (ofUnits scale decimals units).fraction.length ≤ decimals := by
  obtain ⟨k, hk, -⟩ := exists_length_fractionDigits_add (mod_units_lt scale decimals units.natAbs)
  exact Nat.le.intro hk

/-- The digits that are written spell the units, once the zeros that were trimmed away are put
back. -/
theorem exists_unitCount_ofUnits (h : scale.units decimals = 10 ^ decimals) (units : Int) :
    ∃ k, (ofUnits scale decimals units).fraction.length + k = decimals ∧
      10 ^ k * (ofUnits scale decimals units).unitCount = units := by
  obtain ⟨k, hlength, hrest⟩ :=
    exists_length_fractionDigits_add (mod_units_lt scale decimals units.natAbs)
  refine ⟨k, hlength, ?_⟩
  have hcount : 10 ^ k * Nat.ofDigitChars 10 (ofUnits scale decimals units).digits 0 =
      units.natAbs := by
    show 10 ^ k * Nat.ofDigitChars 10 (Nat.toDigits 10 (units.natAbs / scale.units decimals) ++
      fractionDigits decimals (units.natAbs % scale.units decimals)) 0 = _
    rw [Nat.ofDigitChars_append, Nat.ofDigitChars_ten_toDigits,
      Nat.ofDigitChars_eq_ofDigitChars_zero, Nat.mul_add, hrest, ← Nat.mul_assoc, ← Nat.pow_add,
      Nat.add_comm k, hlength, h]
    exact Nat.div_add_mod _ _
  have hcast : (10 : Int) ^ k *
      (Nat.ofDigitChars 10 (ofUnits scale decimals units).digits 0 : Int) = units.natAbs := by
    exact_mod_cast hcount
  by_cases hneg : units < 0
  · rw [unitCount, if_pos (show (ofUnits scale decimals units).negative = true from
      decide_eq_true hneg), Int.mul_neg, hcast]
    omega
  · rw [unitCount, if_neg (show ¬(ofUnits scale decimals units).negative = true from
      fun h => hneg (of_decide_eq_true h)), hcast]
    omega

/-- The value of what is written is the number of units over the units of the last decimal. -/
theorem value_ofUnits (h : scale.IsFaithful decimals) (units : Int) :
    value scale (ofUnits scale decimals units) = units / 10 ^ decimals := by
  obtain ⟨k, hlength, hcount⟩ := exists_unitCount_ofUnits h.units_eq units
  have hfraction := h.mono (length_fraction_ofUnits_le scale decimals units)
  have hcast : (10 : Rat) ^ k * ((ofUnits scale decimals units).unitCount : Rat) = units := by
    exact_mod_cast hcount
  have hpow : (10 : Rat) ^ decimals =
      10 ^ (ofUnits scale decimals units).fraction.length * 10 ^ k := by
    rw [← pow_add, hlength]
  rw [value, hfraction.units_eq, ← hcast, hpow]
  push_cast
  field_simp

/-! ## Faithful scales read and round alike -/

/-- Where a scale is faithful for its fraction, a numeral has its exact value. -/
theorem value_eq_value_exact {n : Numeral} (h : scale.IsFaithful n.fraction.length) :
    value scale n = value .exact n := by
  rw [value, value, h.units_eq, Scale.units_exact]

/-- Where a scale is faithful, it rounds as the exact one. -/
theorem rounded_eq_rounded_exact (h : scale.IsFaithful decimals) (r : Rat) :
    rounded scale decimals r = rounded .exact decimals r := by
  rw [rounded, rounded, roundedUnits, roundedUnits, h.units_eq, Scale.units_exact]

/-- What is written denotes the rounded value. -/
theorem value_exact_ofUnits (h : scale.IsFaithful decimals) (r : Rat) :
    (ofUnits scale decimals (roundedUnits scale decimals r)).value .exact =
      rounded .exact decimals r := by
  rw [← value_eq_value_exact (h.mono (length_fraction_ofUnits_le _ _ _)), value_ofUnits h,
    ← rounded_eq_rounded_exact h, rounded, h.units_eq]
  push_cast
  rfl

/-! ## Reading what was written -/

/-- What was written is read as the numeral of the rounded units. -/
theorem read?_write_eq_value (scale : Scale) (decimals : Nat) (r : Rat) :
    read? scale (write scale decimals r) =
      some (value scale (ofUnits scale decimals (roundedUnits scale decimals r))) := by
  rw [read?, toList_write, (isCanonical_ofUnits _ _ _).parse?_text]
  rfl

/-- Whatever is written can be read, also where the number of decimals wraps around. -/
theorem isSome_read?_write (scale : Scale) (decimals : Nat) (r : Rat) :
    (read? scale (write scale decimals r)).isSome = true := by
  rw [read?_write_eq_value]
  rfl

/-- Reading what was written gives the rounded value. -/
theorem read?_write (h : scale.IsFaithful decimals) (r : Rat) :
    read? scale (write scale decimals r) = some (rounded scale decimals r) := by
  rw [read?_write_eq_value, value_ofUnits h, rounded, h.units_eq]
  push_cast
  rfl

end Numeral

end KeypadCalculator
