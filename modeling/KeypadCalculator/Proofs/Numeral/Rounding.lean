import KeypadCalculator.Proofs.Numeral.Canonical
import Mathlib.Data.Rat.Floor
import Mathlib.Tactic.Linarith

/-!
# Rounding half to even

The rule of the rounding, said without it, and what follows for the values that are written: each is
the nearest decimal, in the order of what it was rounded from, on either side of zero alike, and its
text is a matter of the rounded value alone.

* `IsNearestEven`: the rule, as a property of an integer.
* `isNearestEven_iff`: rounding half to even gives the only integer with the property.
* `IsNearestEven.mono`: larger numbers have larger nearest integers.
* `IsNearestEven.abs_sub_le_abs_sub`: no other integer is nearer.
* `Numeral.read?_write_nearest`: what is read after it was written.
* `OnGrid`: a whole number of units of the last decimal.
* `OnGrid.add`, `OnGrid.sub`: sums and differences stay on the grid.
* `OnGrid.rounded_eq`, `onGrid_rounded`: rounding leaves the grid alone and leads to it.
* `abs_rounded_sub_le`: how far rounding moves a number.
* `Numeral.onGrid_value`: numerals of few decimals are on the grid.
* `roundHalfEven_neg`, `roundHalfEven_mono`: the rounding.
* `Numeral.oppositeText`: the opposite of a text.
* `Numeral.toList_write_neg`: the opposite of a value has the opposite text.
* `Numeral.write_monotone_symmetric`: both laws.
* `IsRoundedTo`: a value rounded half to even, said without the rounding.
* `Numeral.IsCanonical.fraction_eq_nil_iff`, `Numeral.IsCanonical.negative_iff_value_lt`: what the
  parts of a canonical numeral say of its value.
* `Numeral.write_eq_write_iff`: values with one text.
* `Numeral.write_rounded_canonical`: all of it.
-/

namespace KeypadCalculator

/-!
## What is written is the nearest decimal

Rounding half to even starts from the integer below and looks at the rest. Said without that
integer, it gives an integer that is at most half a unit away, and an even one if it is exactly half
a unit away. There is one such integer, so this is all there is to say of the rule, on either side
of zero.

Written to a number of decimals and read again, a value becomes the multiple of a unit of the last
decimal that this rule selects.
-/

section

/-- An integer nearest to `x`, and an even one if `x` lies half way between two integers. -/
structure IsNearestEven (x : Rat) (k : Int) : Prop where
  /-- It is at most half a unit away. -/
  abs_sub_le_half : |x - k| ≤ 1 / 2
  /-- It is even if it is half a unit away. -/
  even_of_abs_sub_eq_half : |x - k| = 1 / 2 → Even k

variable {x : Rat} {k m : Int}

/-! ### The rule of the rounding -/

/-- The function that rounds gives the nearest integer, and the even one of two. -/
theorem isNearestEven_roundHalfEven (x : Rat) : IsNearestEven x (roundHalfEven x) := by
  have hlow : (x.floor : Rat) ≤ x := Int.floor_le x
  have hhigh : x < x.floor + 1 := Int.lt_floor_add_one x
  unfold roundHalfEven
  simp only
  split_ifs with hover htie
  · -- past the middle
    have habs : |x - (x.floor + 1 : Int)| < 1 / 2 := by
      rw [abs_lt]
      push_cast
      constructor <;> linarith
    exact ⟨habs.le, fun heq => absurd heq habs.ne⟩
  · -- in the middle, above an odd integer
    obtain ⟨hmiddle, hodd⟩ := htie
    refine ⟨?_, fun _ => ?_⟩
    · rw [abs_le]
      push_cast
      constructor <;> linarith
    · rw [Int.even_iff]
      omega
  · have habs : |x - x.floor| = x - x.floor := abs_of_nonneg (by linarith)
    rw [not_lt] at hover
    refine ⟨habs.trans_le hover, fun heq => ?_⟩
    have heven : ¬x.floor % 2 = 1 := fun hodd => htie ⟨habs.symm.trans heq, hodd⟩
    rw [Int.even_iff]
    omega

/-- Nearest integers are in the order of the numbers. Two in the wrong order would be neighbours
with one number half way between them, and one of them would be odd. -/
theorem IsNearestEven.mono {y : Rat} (hxy : x ≤ y) (hk : IsNearestEven x k)
    (hm : IsNearestEven y m) : k ≤ m := by
  by_contra hlt
  obtain ⟨hkx, -⟩ := abs_le.mp hk.abs_sub_le_half
  obtain ⟨-, hmy⟩ := abs_le.mp hm.abs_sub_le_half
  have hstep : (m : Rat) + 1 ≤ k := by exact_mod_cast not_le.mp hlt
  have hnext : k = m + 1 := by
    have hupper : (k : Rat) ≤ m + 1 := by linarith
    exact le_antisymm (by exact_mod_cast hupper) (by omega)
  have hxk : |x - k| = 1 / 2 := by
    rw [abs_of_nonpos] <;> linarith
  have hym : |y - m| = 1 / 2 := by
    rw [abs_of_nonneg] <;> linarith
  obtain ⟨a, ha⟩ := hk.even_of_abs_sub_eq_half hxk
  obtain ⟨b, hb⟩ := hm.even_of_abs_sub_eq_half hym
  omega

/-- Rounding half to even gives the only nearest integer that is even half way between two. -/
theorem isNearestEven_iff : IsNearestEven x k ↔ roundHalfEven x = k := by
  constructor
  · intro h
    have hround := isNearestEven_roundHalfEven x
    exact le_antisymm (hround.mono le_rfl h) (h.mono le_rfl hround)
  · rintro rfl
    exact isNearestEven_roundHalfEven x

/-- No integer is nearer. -/
theorem IsNearestEven.abs_sub_le_abs_sub (h : IsNearestEven x k) (m : Int) :
    |x - k| ≤ |x - m| := by
  by_cases hkm : k = m
  · rw [hkm]
  have hgap : (1 : Rat) ≤ |(k : Rat) - m| := by
    exact_mod_cast Int.one_le_abs (sub_ne_zero.mpr hkm)
  have htriangle := abs_sub_le (k : Rat) x m
  rw [abs_sub_comm (k : Rat) x] at htriangle
  have hhalf := h.abs_sub_le_half
  linarith

/-! ### Multiples of a unit -/

/-- How far a multiple of a unit is away, counted in that unit. -/
theorem abs_sub_div_eq (r : Rat) (k : Int) {unit : Rat} (h : 0 < unit) :
    |r - k / unit| = |r * unit - k| / unit := by
  have hsub : r - k / unit = (r * unit - k) / unit := by
    rw [sub_div, mul_div_cancel_right₀ _ h.ne']
  rw [hsub, abs_div, abs_of_pos h]

namespace Numeral

/-- A value that was written to a number of decimals is read as the nearest multiple of a unit of
the last decimal, and as the even one of two that are equally near. -/
theorem read?_write_nearest {decimals : Nat} (h : decimals < 2 ^ 32) (r : Rat) :
    ∃ k : Int, read? .wrapped (write .wrapped decimals r) = some ((k : Rat) / 10 ^ decimals) ∧
      |r * 10 ^ decimals - k| ≤ 1 / 2 ∧ (|r * 10 ^ decimals - k| = 1 / 2 → Even k) ∧
      ∀ m : Int, |r - (k : Rat) / 10 ^ decimals| ≤ |r - (m : Rat) / 10 ^ decimals| := by
  have hfaithful := Scale.isFaithful_wrapped h
  have hunits : ((Scale.wrapped.units decimals : Nat) : Rat) = 10 ^ decimals := by
    rw [hfaithful.units_eq]
    push_cast
    rfl
  have hnearest := isNearestEven_roundHalfEven (r * 10 ^ decimals)
  have hpos : (0 : Rat) < 10 ^ decimals := by positivity
  refine ⟨roundHalfEven (r * 10 ^ decimals), ?_, hnearest.abs_sub_le_half,
    hnearest.even_of_abs_sub_eq_half, fun m => ?_⟩
  · rw [read?_write hfaithful, rounded, roundedUnits, hunits]
  · rw [abs_sub_div_eq r _ hpos, abs_sub_div_eq r _ hpos]
    exact div_le_div_of_nonneg_right (hnearest.abs_sub_le_abs_sub m) hpos.le

/-- With two decimals, `-9.995` lies half way between `-9.99` and `-10`. -/
theorem read?_write_nearest_of_negative_tie :
    write .wrapped 2 (-1999 / 200) = "-10" ∧ read? .wrapped "-10" = some (-1000 / 10 ^ 2) ∧
      |(-1999 / 200 : Rat) * 10 ^ 2 - (-1000)| = 1 / 2 ∧
      ∃ k : Int, read? .wrapped (write .wrapped 2 (-1999 / 200)) = some ((k : Rat) / 10 ^ 2) ∧
        |(-1999 / 200 : Rat) * 10 ^ 2 - k| ≤ 1 / 2 ∧
        (|(-1999 / 200 : Rat) * 10 ^ 2 - k| = 1 / 2 → Even k) := by
  obtain ⟨k, hread, hhalf, heven, -⟩ :=
    read?_write_nearest (show 2 < 2 ^ 32 by decide) (-1999 / 200)
  refine ⟨by decide +kernel, by decide +kernel, ?_, k, hread, hhalf, heven⟩
  rw [abs_of_pos] <;> norm_num

end Numeral

end

/-!
## Whole numbers of units

What is written to a number of decimals is a whole number of units of the last one. Such numbers are
closed under addition and subtraction, and rounding leaves them alone. A product or a quotient of
two of them is in general none, and rounding moves it by half a unit at most.
-/

section

/-- A whole number of units of the last decimal. -/
def OnGrid (decimals : Nat) (value : Rat) : Prop :=
  ∃ k : Int, value = k / 10 ^ decimals

variable {decimals : Nat} {a b r : Rat}

/-- Values with a number of decimals may be added. -/
theorem OnGrid.add (ha : OnGrid decimals a) (hb : OnGrid decimals b) : OnGrid decimals (a + b) := by
  obtain ⟨k, rfl⟩ := ha
  obtain ⟨m, rfl⟩ := hb
  exact ⟨k + m, by rw [Int.cast_add, add_div]⟩

/-- Values with a number of decimals may be subtracted. -/
theorem OnGrid.sub (ha : OnGrid decimals a) (hb : OnGrid decimals b) : OnGrid decimals (a - b) := by
  obtain ⟨k, rfl⟩ := ha
  obtain ⟨m, rfl⟩ := hb
  exact ⟨k - m, by rw [Int.cast_sub, sub_div]⟩

/-! ### Rounding and the grid -/

/-- The rounded value is the rounded number of units over the units in one. -/
theorem rounded_exact_eq (decimals : Nat) (r : Rat) :
    Numeral.rounded .exact decimals r =
      (roundHalfEven (r * 10 ^ decimals) : Rat) / 10 ^ decimals := by
  rw [Numeral.rounded, Numeral.roundedUnits, Scale.units_exact]
  push_cast
  rfl

/-- Rounding leads to the grid. -/
theorem onGrid_rounded (decimals : Nat) (r : Rat) :
    OnGrid decimals (Numeral.rounded .exact decimals r) :=
  ⟨_, rounded_exact_eq decimals r⟩

/-- Rounding leaves the grid alone. -/
theorem OnGrid.rounded_eq (h : OnGrid decimals r) : Numeral.rounded .exact decimals r = r := by
  obtain ⟨k, rfl⟩ := h
  have hpos : (0 : Rat) < 10 ^ decimals := by positivity
  rw [rounded_exact_eq, div_mul_cancel₀ _ hpos.ne', roundHalfEven_intCast]

/-- Rounding moves a number by half a unit at most. -/
theorem abs_rounded_sub_le (decimals : Nat) (r : Rat) :
    |Numeral.rounded .exact decimals r - r| ≤ 1 / 2 / 10 ^ decimals := by
  have hpos : (0 : Rat) < 10 ^ decimals := by positivity
  rw [rounded_exact_eq, abs_sub_comm, abs_sub_div_eq r _ hpos]
  exact div_le_div_of_nonneg_right (isNearestEven_roundHalfEven _).abs_sub_le_half hpos.le

/-- A numeral is on the grid if it has no more digits behind the point than decimals. -/
theorem Numeral.onGrid_value {scale : Scale} {n : Numeral}
    (h : scale.IsFaithful n.fraction.length) (hlength : n.fraction.length ≤ decimals) :
    OnGrid decimals (n.value scale) := by
  obtain ⟨k, rfl⟩ := Nat.exists_eq_add_of_le hlength
  refine ⟨n.unitCount * 10 ^ k, ?_⟩
  rw [value, h.units_eq, pow_add]
  push_cast
  field_simp

end

/-!
## Rounding keeps the order, and the sign changes nothing else

Rounding half to even starts from the integer below, which lies on one side of a positive number and
on the other side of a negative one. The rule that it follows knows of no side, so it is the same
for a number and for its opposite; and where a number is half way between two decimals, both it and
all numbers above it are rounded to the even one or to something larger.

On the text, to take the opposite of a value is to take away the minus sign or to put one in front.
Only zero is written as before, and what is written as zero need not be zero.
-/

section

/-! ### The rounding -/

variable {x y : Rat} {k : Int}

/-- The opposite value has the opposite nearest integer. -/
theorem IsNearestEven.neg (h : IsNearestEven x k) : IsNearestEven (-x) (-k) := by
  have habs : |-x - ((-k : Int) : Rat)| = |x - k| := by
    rw [Int.cast_neg, ← neg_sub', abs_neg]
  refine ⟨habs ▸ h.abs_sub_le_half, fun hhalf => ?_⟩
  exact (h.even_of_abs_sub_eq_half (habs ▸ hhalf)).neg

/-- Rounding is symmetric about zero. -/
theorem roundHalfEven_neg (x : Rat) : roundHalfEven (-x) = -roundHalfEven x :=
  isNearestEven_iff.mp (isNearestEven_roundHalfEven x).neg

/-- Rounding keeps the order of values. -/
theorem roundHalfEven_mono (h : x ≤ y) : roundHalfEven x ≤ roundHalfEven y :=
  (isNearestEven_roundHalfEven x).mono h (isNearestEven_roundHalfEven y)

namespace Numeral

variable {scale : Scale} {decimals : Nat}

/-- Rounding to decimals keeps the order of values. -/
theorem rounded_mono (h : x ≤ y) : rounded .exact decimals x ≤ rounded .exact decimals y := by
  have hpos : (0 : Rat) < 10 ^ decimals := by positivity
  rw [rounded_exact_eq, rounded_exact_eq]
  apply div_le_div_of_nonneg_right _ hpos.le
  exact_mod_cast roundHalfEven_mono (mul_le_mul_of_nonneg_right h hpos.le)

/-- The opposite value has the opposite number of units. -/
theorem roundedUnits_neg (scale : Scale) (decimals : Nat) (r : Rat) :
    roundedUnits scale decimals (-r) = -roundedUnits scale decimals r := by
  rw [roundedUnits, roundedUnits, neg_mul, roundHalfEven_neg]

/-! ### The opposite text -/

/-- The text with the opposite sign: a minus sign in front is taken away, and one is put in front of
every other text but that of zero. -/
def oppositeText : List Char → List Char
  | '-' :: body => body
  | ['0'] => ['0']
  | body => '-' :: body

/-- The digits of the opposite number of units are the same. -/
theorem ofUnits_neg (scale : Scale) (decimals : Nat) (units : Int) :
    ofUnits scale decimals (-units) =
      { ofUnits scale decimals units with negative := decide (0 < units) } := by
  simp only [ofUnits, Int.natAbs_neg, Int.neg_neg_iff_pos]

variable {n : Numeral}

/-- Only zero is written as a single zero. -/
theorem IsCanonical.text_ne_zero (h : n.IsCanonical) (hne : ∃ c ∈ n.digits, c ≠ '0') :
    n.text ≠ ['0'] := by
  intro htext
  have hparse : some n = parse? ['0'] := htext ▸ h.parse?_text.symm
  obtain rfl : n = { negative := false, whole := ['0'], fraction := [] } := Option.some.inj hparse
  obtain ⟨c, hc, hzero⟩ := hne
  exact hzero (List.mem_singleton.mp hc)

/-- The opposite text of a canonical numeral other than zero is that of the same digits with the
opposite sign. -/
theorem IsCanonical.oppositeText_text (h : n.IsCanonical) (hne : ∃ c ∈ n.digits, c ≠ '0') :
    oppositeText n.text = { n with negative := !n.negative }.text := by
  have hzero := h.text_ne_zero hne
  have hhead := head?_append_fractionText_ne_minus h.isDigit
  rw [text_eq_signText_append] at hzero ⊢
  rw [text_eq_signText_append]
  cases hnegative : n.negative with
  | true => rfl
  | false =>
    rw [hnegative] at hzero
    show oppositeText (n.whole ++ fractionText n.fraction) = _
    unfold oppositeText
    split
    · rename_i body hbody
      rw [hbody] at hhead
      exact absurd rfl hhead
    · rename_i hbody
      exact absurd hbody hzero
    · rfl

/-- The opposite of a value is written as the opposite text. -/
theorem toList_write_neg (scale : Scale) (decimals : Nat) (r : Rat) :
    (write scale decimals (-r)).toList = oppositeText (write scale decimals r).toList := by
  rw [toList_write, toList_write, roundedUnits_neg]
  by_cases hunits : roundedUnits scale decimals r = 0
  · rw [hunits, neg_zero, ofUnits_zero]
    rfl
  · have hsign : decide (0 < roundedUnits scale decimals r) =
        !decide (roundedUnits scale decimals r < 0) := by
      rw [← decide_not, decide_eq_decide]
      omega
    rw [(isCanonical_ofUnits _ _ _).oppositeText_text (exists_ne_zero_ofUnits hunits), ofUnits_neg,
      hsign]
    rfl

/-- The larger of two values is not written as a smaller number than the other, and the opposite of
a value is written as the opposite text. -/
theorem write_monotone_symmetric (hdecimals : decimals < 2 ^ 32) (r s : Rat) :
    (∃ a b, read? .wrapped (write .wrapped decimals r) = some a ∧
      read? .wrapped (write .wrapped decimals s) = some b ∧ (r ≤ s → a ≤ b)) ∧
    (write .wrapped decimals (-r)).toList = oppositeText (write .wrapped decimals r).toList := by
  have hfaithful := Scale.isFaithful_wrapped hdecimals
  refine ⟨⟨_, _, read?_write hfaithful r, read?_write hfaithful s, fun h => ?_⟩, ?_⟩
  · rw [rounded_eq_rounded_exact hfaithful, rounded_eq_rounded_exact hfaithful]
    exact rounded_mono h
  · exact toList_write_neg .wrapped decimals r

/-- With one decimal, `0.05`, `0.15` and `-0.15` lie half way between two decimals. The first two
are rounded in opposite directions and stay in order, and the last one is rounded away from zero as
its opposite is. -/
theorem write_monotone_symmetric_of_ties :
    write .wrapped 1 (1 / 20) = "0" ∧ write .wrapped 1 (3 / 20) = "0.2" ∧
      (∃ a b, read? .wrapped "0" = some a ∧ read? .wrapped "0.2" = some b ∧ a ≤ b) ∧
      (write .wrapped 1 (-(3 / 20))).toList = "-0.2".toList := by
  have hlow : write .wrapped 1 (1 / 20) = "0" := by decide +kernel
  have hhigh : write .wrapped 1 (3 / 20) = "0.2" := by decide +kernel
  obtain ⟨⟨a, b, ha, hb, hle⟩, -⟩ :=
    write_monotone_symmetric (show 1 < 2 ^ 32 by decide) (1 / 20) (3 / 20)
  obtain ⟨-, hneg⟩ := write_monotone_symmetric (show 1 < 2 ^ 32 by decide) (3 / 20) (3 / 20)
  rw [hlow] at ha
  rw [hhigh] at hb hneg
  exact ⟨hlow, hhigh, ⟨a, b, ha, hb, hle (by norm_num)⟩, hneg⟩

end Numeral

end

/-!
## What is written for a value

A value is written as the canonical numeral of the value rounded, and this is all that the text
depends on. It has a point only if the rounded value is no integer, and a sign only if that is
negative: what is negative and rounds to zero has lost its sign. Two values have one text exactly if
they are rounded to one value, also where they are rounded to different numbers of decimals, since
no zero is kept that would tell how many there were.
-/

/-- A value that `r` is rounded to: the multiple of a unit of the last decimal that is nearest, and
an even multiple if `r` lies half way between two. -/
def IsRoundedTo (decimals : Nat) (r value : Rat) : Prop :=
  ∃ k : Int, IsNearestEven (r * 10 ^ decimals) k ∧ value = k / 10 ^ decimals

/-- The rounded value is the only one that the rule of rounding allows. -/
theorem isRoundedTo_iff {decimals : Nat} {r value : Rat} :
    IsRoundedTo decimals r value ↔ value = Numeral.rounded .exact decimals r := by
  constructor
  · rintro ⟨k, hk, rfl⟩
    rw [rounded_exact_eq, isNearestEven_iff.mp hk]
  · rintro rfl
    exact ⟨_, isNearestEven_roundHalfEven _, rounded_exact_eq decimals r⟩

namespace Numeral

/-! ### The parts of a canonical numeral -/

variable {n : Numeral}

/-- There is nothing behind the point exactly if the value is an integer, which has a canonical
numeral of its own. -/
theorem IsCanonical.fraction_eq_nil_iff (h : n.IsCanonical) :
    n.fraction = [] ↔ ∃ z : Int, n.value .exact = z := by
  constructor
  · intro hfraction
    refine ⟨n.unitCount, ?_⟩
    rw [value, hfraction, List.length_nil, Scale.units_exact, pow_zero, Nat.cast_one, div_one]
  · rintro ⟨z, hz⟩
    have hvalue : n.value .exact = (ofInt z).value .exact := by
      rw [hz, (isInteger_ofInt z).value_eq, unitCount_ofInt]
    rw [eq_of_isCanonical h (isCanonical_ofInt z) hvalue]
    rfl

/-- There is a sign exactly if the value is negative. -/
theorem IsCanonical.negative_iff_value_lt (h : n.IsCanonical) :
    n.negative = true ↔ n.value .exact < 0 := by
  have hpos : (0 : Rat) < (Scale.exact.units n.fraction.length : Rat) := by
    exact_mod_cast Scale.exact.units_pos _
  rw [h.negative_iff, value, div_lt_iff₀ hpos, zero_mul, Int.cast_lt_zero]

/-! ### Values with one text -/

/-- Two values have one text exactly if they are rounded to one value. -/
theorem write_eq_write_iff {scale : Scale} {decimals decimals' : Nat}
    (h : scale.IsFaithful decimals) (h' : scale.IsFaithful decimals') (r s : Rat) :
    write scale decimals r = write scale decimals' s ↔
      rounded .exact decimals r = rounded .exact decimals' s := by
  constructor
  · intro heq
    have hread := congrArg (read? scale) heq
    rw [read?_write h, read?_write h', Option.some.injEq] at hread
    rwa [rounded_eq_rounded_exact h, rounded_eq_rounded_exact h'] at hread
  · intro heq
    rw [← value_exact_ofUnits h, ← value_exact_ofUnits h'] at heq
    rw [write, write, eq_of_isCanonical (isCanonical_ofUnits _ _ _) (isCanonical_ofUnits _ _ _) heq]

/-- A value is written as a canonical numeral, with no more digits behind the point than decimals,
with none exactly if the rounded value is an integer, and with a sign exactly if the rounded value
is negative. Another value has the same text exactly if it is rounded to the same value, to whatever
number of decimals. -/
theorem write_rounded_canonical {decimals : Nat} (hdecimals : decimals < 2 ^ 32) (r : Rat) :
    ∃ (n : Numeral) (value : Rat), IsRoundedTo decimals r value ∧
      (write .wrapped decimals r).toList = n.text ∧ n.IsCanonical ∧
      n.fraction.length ≤ decimals ∧ (n.fraction = [] ↔ ∃ z : Int, value = z) ∧
      (n.negative = true ↔ value < 0) ∧
      ∀ decimals' < 2 ^ 32, ∀ s value' : Rat, IsRoundedTo decimals' s value' →
        (write .wrapped decimals r = write .wrapped decimals' s ↔ value = value') := by
  have hfaithful := Scale.isFaithful_wrapped hdecimals
  have hcanonical := isCanonical_ofUnits .wrapped decimals (roundedUnits .wrapped decimals r)
  have hvalue := value_exact_ofUnits hfaithful r
  refine ⟨_, rounded .exact decimals r, isRoundedTo_iff.mpr rfl, toList_write .wrapped decimals r,
    hcanonical, length_fraction_ofUnits_le _ _ _, ?_, ?_, ?_⟩
  · rw [hcanonical.fraction_eq_nil_iff, hvalue]
  · rw [hcanonical.negative_iff_value_lt, hvalue]
  · intro decimals' hdecimals' s value' hs
    rw [isRoundedTo_iff.mp hs]
    exact write_eq_write_iff hfaithful (Scale.isFaithful_wrapped hdecimals') r s

/-- With two decimals, `-1.995` is half way between `-1.99` and `-2`. It is written as `-2.00004` is
with four decimals, and not as it is with five. -/
theorem write_rounded_canonical_of_negative_tie :
    IsRoundedTo 2 (-399 / 200) (-2) ∧ IsRoundedTo 4 (-200004 / 100000) (-2) ∧
      write .wrapped 2 (-399 / 200) = "-2" ∧
      write .wrapped 2 (-399 / 200) = write .wrapped 4 (-200004 / 100000) ∧
      write .wrapped 2 (-399 / 200) ≠ write .wrapped 5 (-200004 / 100000) := by
  have htwo : IsRoundedTo 2 (-399 / 200) (-2) := isRoundedTo_iff.mpr (by decide +kernel)
  have hfour : IsRoundedTo 4 (-200004 / 100000) (-2) := isRoundedTo_iff.mpr (by decide +kernel)
  have hfive : IsRoundedTo 5 (-200004 / 100000) (-200004 / 100000) :=
    isRoundedTo_iff.mpr (by decide +kernel)
  obtain ⟨n, value, hvalue, -, -, -, -, -, hwrite⟩ :=
    write_rounded_canonical (show 2 < 2 ^ 32 by decide) (-399 / 200)
  obtain rfl : value = -2 := (isRoundedTo_iff.mp hvalue).trans (isRoundedTo_iff.mp htwo).symm
  refine ⟨htwo, hfour, by decide +kernel, (hwrite 4 (by decide) _ _ hfour).mpr rfl, ?_⟩
  rw [Ne, hwrite 5 (by decide) _ _ hfive]
  norm_num

end Numeral

end KeypadCalculator
