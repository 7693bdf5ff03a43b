import KeypadCalculator.Proofs.Numeral.RoundTrip
import Mathlib.Data.List.Induction

/-!
# Canonical numerals, integers and texts of digits

A value has one canonical numeral. This is what results are compared by: two ways of writing are one
as soon as both are canonical and denote the same. Integers and texts of digits are the two kinds of
numerals that need no rounding.

* `Numeral.eq_of_ofDigitChars_eq`: equally many digits that spell one number are the same.
* `Numeral.toDigits_ofDigitChars`: digits without leading zeros are those of the number they spell.
* `Numeral.eq_of_isCanonical`: canonical numerals of one value are the same.
* `Numeral.IsInteger`, `Numeral.ofInt`: numerals of integers, and the canonical one for an integer.
* `Numeral.IsInteger.read?_text`: what the text of a numeral of an integer denotes.
* `Numeral.write_intCast`, `Numeral.text_ofInt`: an integer is written as its usual text.
* `Numeral.IsCanonical.eq_ofInt`: each integer has one canonical numeral.
* `IsDigits.append`: more digits behind digits.
* `IsDigits.parse?_eq`: the numeral of such a text.
* `IsDigits.read?_eq`, `IsDigits.read?_eq_zero_iff`: the value, and when it is zero.
-/

namespace KeypadCalculator

/-!
## One canonical numeral for a value

Digits of a fixed number spell different numbers, and so do digits without leading zeros. A
canonical numeral is both: its whole part has no leading zero, and the length of its fraction is
the least number of decimals that the value needs, because the last digit of the fraction carries
something.
-/

namespace Numeral

/-! ### Digits and the number they spell -/

/-- One more digit at the end shifts the number by one place. -/
theorem ofDigitChars_concat (digits : List Char) (c : Char) :
    Nat.ofDigitChars 10 (digits ++ [c]) 0 = 10 * Nat.ofDigitChars 10 digits 0 + (c.toNat - 48) := by
  rw [Nat.ofDigitChars_append, Nat.ofDigitChars_cons, Nat.ofDigitChars_nil]
  rfl

/-- Digits followed by more digits spell the first number, shifted by as many places as there are
more. -/
theorem ofDigitChars_append_eq (whole fraction : List Char) :
    Nat.ofDigitChars 10 (whole ++ fraction) 0 =
      10 ^ fraction.length * Nat.ofDigitChars 10 whole 0 + Nat.ofDigitChars 10 fraction 0 := by
  rw [Nat.ofDigitChars_append, Nat.ofDigitChars_eq_ofDigitChars_zero]

/-- The codes of the digits are those from 48 to 57. -/
theorem toNat_of_isDigit {c : Char} (h : c.isDigit = true) : 48 ≤ c.toNat ∧ c.toNat ≤ 57 :=
  Char.isDigit_iff_toNat.mp h

/-- Only the digit zero stands for zero. -/
theorem eq_zero_of_toNat_eq {c : Char} (h : c.isDigit = true) (hc : c.toNat - 48 = 0) :
    c = '0' := by
  obtain ⟨hlow, -⟩ := toNat_of_isDigit h
  have hnat : c.toNat = '0'.toNat := by
    show c.toNat = 48
    omega
  exact Char.toNat_inj.mp hnat

/-- A number has no more digits than its size allows. -/
theorem ofDigitChars_lt {digits : List Char} (h : ∀ c ∈ digits, c.isDigit = true) :
    Nat.ofDigitChars 10 digits 0 < 10 ^ digits.length := by
  induction digits using List.reverseRecOn with
  | nil => decide
  | append_singleton digits c ih =>
    have hc := toNat_of_isDigit (h c (by simp))
    have := ih fun d hd => h d (List.mem_append_left _ hd)
    rw [ofDigitChars_concat, List.length_append, List.length_singleton, pow_succ]
    omega

/-- Equally many digits that spell one number are the same. -/
theorem eq_of_ofDigitChars_eq {digits others : List Char} (h : ∀ c ∈ digits, c.isDigit = true)
    (h' : ∀ c ∈ others, c.isDigit = true) (hlength : digits.length = others.length)
    (hcount : Nat.ofDigitChars 10 digits 0 = Nat.ofDigitChars 10 others 0) : digits = others := by
  induction digits using List.reverseRecOn generalizing others with
  | nil => exact (List.length_eq_zero_iff.mp hlength.symm).symm
  | append_singleton digits c ih =>
    obtain rfl | ⟨others, d, rfl⟩ := List.eq_nil_or_concat' others
    · simp at hlength
    have hc := toNat_of_isDigit (h c (by simp))
    have hd := toNat_of_isDigit (h' d (by simp))
    rw [ofDigitChars_concat, ofDigitChars_concat] at hcount
    have hinit : digits = others := by
      refine ih (fun e he => h e (List.mem_append_left _ he))
        (fun e he => h' e (List.mem_append_left _ he)) ?_ ?_
      · simpa using hlength
      · omega
    have hlast : c = d := Char.toNat_inj.mp (by omega)
    rw [hinit, hlast]

/-- Digits that do not start with a zero spell a number of that many digits. -/
theorem pow_le_ofDigitChars {c : Char} (digits : List Char) (hc : c.isDigit = true)
    (hne : c ≠ '0') : 10 ^ digits.length ≤ Nat.ofDigitChars 10 (c :: digits) 0 := by
  have hpos : 1 ≤ c.toNat - 48 := by
    by_contra hlt
    exact hne (eq_zero_of_toNat_eq hc (by omega))
  have hcons := ofDigitChars_append_eq [c] digits
  have hfirst : Nat.ofDigitChars 10 [c] 0 = c.toNat - 48 := by
    simpa using ofDigitChars_concat [] c
  rw [List.singleton_append, hfirst] at hcons
  rw [hcons]
  calc 10 ^ digits.length = 10 ^ digits.length * 1 := (Nat.mul_one _).symm
    _ ≤ 10 ^ digits.length * (c.toNat - 48) := Nat.mul_le_mul_left _ hpos
    _ ≤ _ := Nat.le_add_right _ _

/-- Digits without leading zeros are those of the number they spell. -/
theorem toDigits_ofDigitChars {digits : List Char} (h : ∀ c ∈ digits, c.isDigit = true)
    (hnil : digits ≠ []) (hhead : digits = ['0'] ∨ digits.head? ≠ some '0') :
    Nat.toDigits 10 (Nat.ofDigitChars 10 digits 0) = digits := by
  rcases hhead with rfl | hhead
  · rfl
  cases digits with
  | nil => exact absurd rfl hnil
  | cons c digits =>
    have hne : c ≠ '0' := by
      rintro rfl
      exact hhead rfl
    have hlow := pow_le_ofDigitChars digits (h c List.mem_cons_self) hne
    have hhigh := ofDigitChars_lt h
    have hle : (Nat.toDigits 10 (Nat.ofDigitChars 10 (c :: digits) 0)).length ≤
        digits.length + 1 :=
      (Nat.length_toDigits_le_iff (by decide) (Nat.succ_pos _)).mpr hhigh
    have hge : ¬(Nat.toDigits 10 (Nat.ofDigitChars 10 (c :: digits) 0)).length ≤
        digits.length := by
      intro hle
      cases hzero : digits.length with
      | zero =>
        rw [hzero] at hle
        exact Nat.toDigits_ne_nil (List.length_eq_zero_iff.mp (Nat.le_zero.mp hle))
      | succ k =>
        have := (Nat.length_toDigits_le_iff (by decide) (hzero ▸ Nat.succ_pos k)).mp hle
        omega
    refine eq_of_ofDigitChars_eq
      (fun _ hd => Nat.isDigit_of_mem_toDigits (by decide) (by decide) hd) h ?_ ?_
    · rw [List.length_cons]
      omega
    · exact Nat.ofDigitChars_ten_toDigits

/-- Digits spell zero exactly if all of them are zeros. -/
theorem ofDigitChars_eq_zero_iff {digits : List Char} (h : ∀ c ∈ digits, c.isDigit = true) :
    Nat.ofDigitChars 10 digits 0 = 0 ↔ ∀ c ∈ digits, c = '0' := by
  constructor
  · intro hcount
    have hzeros : digits = List.replicate digits.length '0' := by
      refine eq_of_ofDigitChars_eq h ?_ (by simp) ?_
      · intro c hc
        rw [List.eq_of_mem_replicate hc]
        rfl
      · rw [hcount, Nat.ofDigitChars_replicate_zero, Nat.mul_zero]
    intro c hc
    rw [hzeros] at hc
    exact List.eq_of_mem_replicate hc
  · intro hzeros
    rw [List.eq_replicate_of_mem hzeros, Nat.ofDigitChars_replicate_zero, Nat.mul_zero]

/-! ### Canonical numerals -/

/-- The sign of a canonical numeral is that of the number its digits spell. -/
theorem IsCanonical.negative_iff {n : Numeral} (h : n.IsCanonical) :
    n.negative = true ↔ n.unitCount < 0 := by
  cases hneg : n.negative with
  | false =>
    simp only [unitCount, hneg, Bool.false_eq_true, if_false, false_iff]
    omega
  | true =>
    have hcount : Nat.ofDigitChars 10 n.digits 0 ≠ 0 := by
      intro hzero
      obtain ⟨c, hc, hne⟩ := h.exists_ne_zero hneg
      exact hne ((ofDigitChars_eq_zero_iff h.isDigit).mp hzero c hc)
    simp only [unitCount, hneg, if_true, true_iff]
    omega

/-- The last digit behind the point of a canonical numeral carries something, so the number that
its digits spell is no multiple of ten. -/
theorem IsCanonical.not_ten_dvd_unitCount {n : Numeral} (h : n.IsCanonical)
    (hfraction : n.fraction ≠ []) : ¬(10 : Int) ∣ n.unitCount := by
  obtain hnil | ⟨digits, c, hc⟩ := List.eq_nil_or_concat' n.fraction
  · exact absurd hnil hfraction
  have hdigit : c.isDigit = true := h.isDigit c (List.mem_append_right _ (by simp [hc]))
  have hne : c ≠ '0' := by
    rintro rfl
    exact h.getLast?_fraction (by simp [hc])
  have hbounds := toNat_of_isDigit hdigit
  have hlast : c.toNat - 48 ≠ 0 := fun hzero => hne (eq_zero_of_toNat_eq hdigit hzero)
  have hcount : Nat.ofDigitChars 10 n.digits 0 =
      10 * Nat.ofDigitChars 10 (n.whole ++ digits) 0 + (c.toNat - 48) := by
    rw [Numeral.digits, hc, ← List.append_assoc, ofDigitChars_concat]
  unfold unitCount
  simp only [hcount]
  split <;> omega

/-- Canonical numerals of one value have equally many digits behind the point: the shorter fraction
would make the last digit of the longer one a zero. -/
theorem length_fraction_le_of_isCanonical {n m : Numeral} (hm : m.IsCanonical)
    (h : n.unitCount * 10 ^ m.fraction.length = m.unitCount * 10 ^ n.fraction.length) :
    m.fraction.length ≤ n.fraction.length := by
  by_contra hlt
  have hne : m.fraction ≠ [] := by
    intro hnil
    simp [hnil] at hlt
  obtain ⟨k, hk⟩ := Nat.exists_eq_add_of_lt (Nat.lt_of_not_le hlt)
  refine hm.not_ten_dvd_unitCount hne ⟨n.unitCount * 10 ^ k, ?_⟩
  have hpos : (10 : Int) ^ n.fraction.length ≠ 0 := pow_ne_zero _ (by decide)
  refine mul_right_cancel₀ hpos ?_
  rw [← h, hk, pow_succ, pow_add]
  ring

/-- The digits of the whole part of a canonical numeral are those of a quotient. -/
theorem IsCanonical.whole_eq {n : Numeral} (h : n.IsCanonical) :
    n.whole =
      Nat.toDigits 10 (Nat.ofDigitChars 10 n.digits 0 / 10 ^ n.fraction.length) := by
  have hlt : Nat.ofDigitChars 10 n.fraction 0 < 10 ^ n.fraction.length :=
    ofDigitChars_lt fun c hc => h.isDigit c (List.mem_append_right _ hc)
  rw [digits, ofDigitChars_append_eq, Nat.mul_add_div (by positivity), Nat.div_eq_of_lt hlt,
    Nat.add_zero]
  exact (toDigits_ofDigitChars (fun c hc => h.isDigit c (List.mem_append_left _ hc))
    h.whole_ne_nil h.head?_whole).symm

/-- The number that the fraction spells is the remainder of all digits by one unit. -/
theorem IsCanonical.ofDigitChars_fraction {n : Numeral} (h : n.IsCanonical) :
    Nat.ofDigitChars 10 n.fraction 0 =
      Nat.ofDigitChars 10 n.digits 0 % 10 ^ n.fraction.length := by
  have hlt : Nat.ofDigitChars 10 n.fraction 0 < 10 ^ n.fraction.length :=
    ofDigitChars_lt fun c hc => h.isDigit c (List.mem_append_right _ hc)
  rw [digits, ofDigitChars_append_eq, Nat.mul_add_mod, Nat.mod_eq_of_lt hlt]

/-- Canonical numerals of one value are the same. -/
theorem eq_of_isCanonical {n m : Numeral} (hn : n.IsCanonical) (hm : m.IsCanonical)
    (h : n.value .exact = m.value .exact) : n = m := by
  have hcross : n.unitCount * 10 ^ m.fraction.length = m.unitCount * 10 ^ n.fraction.length := by
    simp only [value, Scale.units_exact] at h
    push_cast at h
    rw [div_eq_div_iff (by positivity) (by positivity)] at h
    exact_mod_cast h
  have hlength : n.fraction.length = m.fraction.length :=
    Nat.le_antisymm (length_fraction_le_of_isCanonical hn hcross.symm)
      (length_fraction_le_of_isCanonical hm hcross)
  have hunits : n.unitCount = m.unitCount := by
    rw [hlength] at hcross
    exact mul_right_cancel₀ (pow_ne_zero _ (by decide)) hcross
  have hnegative : n.negative = m.negative := by
    rw [Bool.eq_iff_iff, hn.negative_iff, hm.negative_iff, hunits]
  have hcount : Nat.ofDigitChars 10 n.digits 0 = Nat.ofDigitChars 10 m.digits 0 := by
    unfold unitCount at hunits
    rw [hnegative] at hunits
    simp only at hunits
    split at hunits <;> omega
  have hwhole : n.whole = m.whole := by
    rw [hn.whole_eq, hm.whole_eq, hcount, hlength]
  have hfraction : n.fraction = m.fraction := by
    refine eq_of_ofDigitChars_eq (fun c hc => hn.isDigit c (List.mem_append_right _ hc))
      (fun c hc => hm.isDigit c (List.mem_append_right _ hc)) hlength ?_
    rw [hn.ofDigitChars_fraction, hm.ofDigitChars_fraction, hcount, hlength]
  obtain ⟨negative, whole, fraction⟩ := n
  obtain ⟨negative', whole', fraction'⟩ := m
  simp only at hnegative hwhole hfraction
  rw [hnegative, hwhole, hfraction]

end Numeral

/-!
## Numerals of integers

A numeral without a fraction denotes an integer, and an integer is written without a fraction: a
power of ten is multiplied in for the rounding, leaves nothing to round, and is divided out again.
This needs no bound on the digits, and none on the decimals either, since the power that is divided
out is the one that was multiplied in even where its exponent wraps around.
-/

namespace Numeral

/-- A numeral of an integer: ASCII digits in front of the point, and nothing behind it. -/
structure IsInteger (n : Numeral) : Prop where
  /-- Every digit is an ASCII digit. -/
  isDigit : ∀ c ∈ n.whole, c.isDigit = true
  /-- There is a digit. -/
  whole_ne_nil : n.whole ≠ []
  /-- There is no fraction. -/
  fraction_eq_nil : n.fraction = []

/-- Whether a numeral is an integer can be decided. -/
instance (n : Numeral) : Decidable n.IsInteger :=
  decidable_of_iff (n.whole.all Char.isDigit = true ∧ n.whole ≠ [] ∧ n.fraction = [])
    ⟨fun h => ⟨List.all_eq_true.mp h.1, h.2.1, h.2.2⟩,
      fun h => ⟨List.all_eq_true.mpr h.isDigit, h.whole_ne_nil, h.fraction_eq_nil⟩⟩

/-- The canonical numeral of an integer. -/
def ofInt (z : Int) : Numeral where
  negative := decide (z < 0)
  whole := Nat.toDigits 10 z.natAbs
  fraction := []

variable {n : Numeral}

/-- The digits of an integer are those of its whole part. -/
theorem IsInteger.digits_eq (h : n.IsInteger) : n.digits = n.whole := by
  rw [digits, h.fraction_eq_nil, List.append_nil]

/-- The text of an integer is read as its numeral. -/
theorem IsInteger.parse?_text (h : n.IsInteger) : parse? n.text = some n := by
  apply Numeral.parse?_text
  · rw [h.digits_eq]
    exact h.whole_ne_nil
  · rw [h.digits_eq]
    exact h.isDigit

/-- The value of an integer is its number of units, on any scale. -/
theorem IsInteger.value_eq (h : n.IsInteger) (scale : Scale) :
    n.value scale = (n.unitCount : Rat) := by
  have hunits : scale.units n.fraction.length = 1 := by
    rw [h.fraction_eq_nil]
    cases scale <;> rfl
  rw [value, hunits, Nat.cast_one, div_one]

/-- The text of an integer denotes the number that its digits spell, with its sign. -/
theorem IsInteger.read?_text (h : n.IsInteger) (scale : Scale) :
    read? scale (String.ofList n.text) = some (n.unitCount : Rat) := by
  rw [read?, String.toList_ofList, h.parse?_text, Option.map_some, h.value_eq]

/-- The text of an integer has no point. -/
theorem IsInteger.point_not_mem_text (h : n.IsInteger) : '.' ∉ n.text := by
  intro hpoint
  rw [text, h.fraction_eq_nil] at hpoint
  rcases List.mem_append.mp hpoint with hpoint | hpoint
  · rcases List.mem_append.mp hpoint with hsign | hwhole
    · split at hsign <;> simp at hsign
    · exact ne_point_of_isDigit (h.isDigit _ hwhole) rfl
  · cases hpoint

/-! ### Writing an integer -/

/-- A multiple of the units in one leaves no units for a fraction. -/
theorem ofUnits_mul_units (scale : Scale) (decimals : Nat) (z : Int) :
    ofUnits scale decimals (z * scale.units decimals) = ofInt z := by
  have hpos := scale.units_pos decimals
  have hcast : (0 : Int) < scale.units decimals := by exact_mod_cast hpos
  have hnegative : z * scale.units decimals < 0 ↔ z < 0 := by
    constructor
    · intro h
      exact neg_of_mul_neg_left h hcast.le
    · intro h
      exact mul_neg_of_neg_of_pos h hcast
  simp only [ofUnits, ofInt, hnegative, Int.natAbs_mul, Int.natAbs_natCast,
    Nat.mul_div_cancel _ hpos, Nat.mul_mod_left, fractionDigits_zero]

/-- The numeral of an integer is an integer. -/
theorem isInteger_ofInt (z : Int) : (ofInt z).IsInteger where
  isDigit _ hc := Nat.isDigit_of_mem_toDigits (by decide) (by decide) hc
  whole_ne_nil := Nat.toDigits_ne_nil
  fraction_eq_nil := rfl

/-- The numeral of an integer is canonical. -/
theorem isCanonical_ofInt (z : Int) : (ofInt z).IsCanonical :=
  ofUnits_mul_units .exact 0 z ▸ isCanonical_ofUnits .exact 0 _

/-- The units of the numeral of an integer are the integer. -/
@[simp] theorem unitCount_ofInt (z : Int) : (ofInt z).unitCount = z := by
  have hcount : Nat.ofDigitChars 10 (ofInt z).digits 0 = z.natAbs := by
    rw [(isInteger_ofInt z).digits_eq]
    exact Nat.ofDigitChars_ten_toDigits
  have hnegative : (ofInt z).negative = true ↔ z < 0 := decide_eq_true_iff
  simp only [unitCount, hcount, hnegative]
  split <;> omega

/-- The canonical numeral of an integer is its usual text. -/
theorem text_ofInt (z : Int) : (ofInt z).text = (toString z).toList := by
  cases z with
  | ofNat k =>
    show _ = (Nat.repr k).toList
    simp [ofInt, text]
  | negSucc k =>
    show _ = ("-" ++ Nat.repr (k + 1)).toList
    simp [ofInt, text, Int.negSucc_lt_zero k]

/-- An integer is written in full, whatever the number of decimals. -/
theorem write_intCast (scale : Scale) (decimals : Nat) (z : Int) :
    write scale decimals (z : Rat) = String.ofList (ofInt z).text := by
  have hscaled : (z : Rat) * (scale.units decimals : Rat) =
      ((z * scale.units decimals : Int) : Rat) := by
    push_cast
    rfl
  rw [write, roundedUnits, hscaled, roundHalfEven_intCast, ofUnits_mul_units]

/-- A canonical numeral without a fraction is the canonical numeral of an integer. -/
theorem IsCanonical.eq_ofInt (h : n.IsCanonical) (hn : n.IsInteger) : n = ofInt n.unitCount := by
  apply eq_of_isCanonical h (isCanonical_ofInt _)
  rw [hn.value_eq, (isInteger_ofInt _).value_eq, unitCount_ofInt]

end Numeral

/-!
## Texts of digits

What the digit keys type is a text of ASCII digits. Such a text can always be read, it denotes the
whole number that its digits spell, and that is zero only if all of them are zeros.
-/

section

/-- A text of ASCII digits, with one digit at least. -/
structure IsDigits (text : String) : Prop where
  /-- There is a digit. -/
  toList_ne_nil : text.toList ≠ []
  /-- There is nothing else. -/
  isDigit : ∀ c ∈ text.toList, c.isDigit = true

/-- Whether a text has digits alone can be decided. -/
instance (text : String) : Decidable (IsDigits text) :=
  decidable_of_iff (text.toList ≠ [] ∧ text.toList.all Char.isDigit = true)
    ⟨fun h => ⟨h.1, List.all_eq_true.mp h.2⟩,
      fun h => ⟨h.toList_ne_nil, List.all_eq_true.mpr h.isDigit⟩⟩

variable {text : String} {c : Char}

/-- A single digit is a text of digits. -/
theorem isDigits_toString (h : c.isDigit = true) : IsDigits c.toString := by
  have hlist : c.toString.toList = [c] := by simp
  constructor
  · rw [hlist]
    exact List.cons_ne_nil _ _
  · rw [hlist]
    exact List.forall_mem_singleton.mpr h

/-- Texts of digits may be joined. -/
theorem IsDigits.append {before : String} (h : IsDigits before) (h' : IsDigits text) :
    IsDigits (before ++ text) := by
  constructor
  · rw [String.toList_append]
    intro hnil
    exact h.toList_ne_nil (List.append_eq_nil_iff.mp hnil).1
  · rw [String.toList_append]
    exact List.forall_mem_append.mpr ⟨h.isDigit, h'.isDigit⟩

/-- A text of digits is the whole part of an integer. -/
theorem IsDigits.isInteger (h : IsDigits text) :
    ({ negative := false, whole := text.toList, fraction := [] } : Numeral).IsInteger :=
  ⟨h.isDigit, h.toList_ne_nil, rfl⟩

/-- A text of digits is read as the digits of an integer. -/
theorem IsDigits.parse?_eq (h : IsDigits text) :
    Numeral.parse? text.toList =
      some { negative := false, whole := text.toList, fraction := [] } := by
  have hparse := h.isInteger.parse?_text
  simpa [Numeral.text] using hparse

/-- A text of digits denotes the number that its digits spell. -/
theorem IsDigits.read?_eq (h : IsDigits text) (scale : Scale) :
    Numeral.read? scale text = some (Nat.ofDigitChars 10 text.toList 0 : Rat) := by
  rw [Numeral.read?, h.parse?_eq, Option.map_some, h.isInteger.value_eq, Numeral.unitCount,
    h.isInteger.digits_eq]
  rfl

/-- A text of digits denotes zero exactly if all its digits are zeros. -/
theorem IsDigits.read?_eq_zero_iff (h : IsDigits text) (scale : Scale) :
    Numeral.read? scale text = some 0 ↔ ∀ c ∈ text.toList, c = '0' := by
  rw [h.read?_eq, Option.some.injEq, Nat.cast_eq_zero]
  exact Numeral.ofDigitChars_eq_zero_iff h.isDigit

end

end KeypadCalculator
