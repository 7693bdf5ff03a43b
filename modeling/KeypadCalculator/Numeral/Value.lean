/-!
# Decimal numerals and their values

A numeral is a row of digits with a sign and a point. It denotes a rational number, exactly; and a
rational number is written as a numeral, rounded half to even to a given number of decimals and
without the zeros at the end of the fraction.

* `Numeral.parse?` reads a text, `Numeral.text` writes a numeral.
* `Numeral.isDigit_of_mem_digits_of_parse?` and `Numeral.digits_ne_nil_of_parse?` say what
  every accepted numeral is made of.
* `roundHalfEven`: the rounding, which leaves integers alone (`roundHalfEven_intCast`).
* `Scale.units`: how many units of the last decimal make one; never zero (`Scale.units_pos`), so
  dividing by it is sound.
* `Numeral.read?` and `Numeral.write` are the two directions on text.
* `Numeral.value` and `Numeral.ofUnits` are the two directions on numerals; a value is handed
  to `ofUnits` as a whole number of units of the last decimal.
* `Numeral.write_of_round_eq_zero`: what rounds to zero is written `0`.
-/

namespace KeypadCalculator

/-!
## Numerals as digit sequences

A numeral is a sign and two digit sequences, one on each side of the decimal point. Its digits
are kept as they were written, so leading and trailing zeros survive. The grammar is plain: at
most one leading `-`, ASCII digits, at most one point, at least one digit in all. There is no
`+`, no exponent and no separator of thousands.
-/

/-- A decimal numeral as it is written. -/
structure Numeral where
  /-- Whether a minus sign stands in front. -/
  negative : Bool
  /-- The digits before the decimal point. -/
  whole : List Char
  /-- The digits after the decimal point. -/
  fraction : List Char
  deriving DecidableEq, Repr

namespace Numeral

/-- All digits in order, without the point. -/
def digits (n : Numeral) : List Char :=
  n.whole ++ n.fraction

/-- Splits an unsigned text at its first point. It is refused if what stands on either side is
not made of ASCII digits only, or if there is no digit at all. -/
def ofBody? (negative : Bool) (body : List Char) : Option Numeral :=
  let n : Numeral :=
    { negative
      whole := body.takeWhile (· ≠ '.')
      fraction := (body.dropWhile (· ≠ '.')).drop 1 }
  if n.digits ≠ [] ∧ n.digits.all Char.isDigit then some n else none

/-- Reads a numeral; `none` if the text is not a plain decimal. -/
def parse? : List Char → Option Numeral
  | '-' :: body => ofBody? true body
  | body => ofBody? false body

/-- Writes a numeral. The point stands only in front of at least one digit. -/
def text (n : Numeral) : List Char :=
  (if n.negative then ['-'] else []) ++ n.whole ++
    (if n.fraction.isEmpty then [] else '.' :: n.fraction)

/-! ### What is accepted -/

/-- What is accepted behind a sign has a digit, and ASCII digits only. -/
theorem ofBody?_eq_some {negative : Bool} {body : List Char} {n : Numeral}
    (h : ofBody? negative body = some n) :
    n.digits ≠ [] ∧ n.digits.all Char.isDigit = true := by
  simp only [ofBody?, Option.ite_none_right_eq_some, Option.some.injEq] at h
  exact h.2 ▸ h.1

/-- Every accepted numeral is accepted behind a sign or behind none. -/
theorem exists_ofBody?_of_parse? {cs : List Char} {n : Numeral} (h : parse? cs = some n) :
    ∃ negative body, ofBody? negative body = some n := by
  unfold parse? at h
  split at h
  · exact ⟨_, _, h⟩
  · exact ⟨_, _, h⟩

/-- An accepted text has a digit. -/
theorem digits_ne_nil_of_parse? {cs : List Char} {n : Numeral} (h : parse? cs = some n) :
    n.digits ≠ [] :=
  let ⟨_, _, h⟩ := exists_ofBody?_of_parse? h
  (ofBody?_eq_some h).1

/-- Every digit of an accepted text is an ASCII digit. -/
theorem isDigit_of_mem_digits_of_parse? {cs : List Char} {n : Numeral} (h : parse? cs = some n)
    {c : Char} (hc : c ∈ n.digits) : c.isDigit = true :=
  let ⟨_, _, h⟩ := exists_ofBody?_of_parse? h
  List.all_eq_true.mp (ofBody?_eq_some h).2 c hc

end Numeral

/-!
## Rounding half to even

The nearest integer to a rational number, where a number half way between two integers goes to
the even one. Nothing here knows about decimals or text: a result is first multiplied by the
units of its last decimal and then rounded by this rule.
-/

/-- The integer nearest to `x`, and the even one of two that are equally near. -/
def roundHalfEven (x : Rat) : Int :=
  let below := x.floor
  let rest := x - below
  if 1 / 2 < rest then below + 1
  else if rest = 1 / 2 ∧ below % 2 = 1 then below + 1
  else below

/-- An integer is left alone. -/
@[simp] theorem roundHalfEven_intCast (n : Int) : roundHalfEven n = n := by
  have h : (n : Rat) - n = 0 := Rat.sub_self
  have h₁ : ¬(1 / 2 : Rat) < 0 := by decide +kernel
  have h₂ : ¬(0 : Rat) = 1 / 2 := by decide +kernel
  simp only [roundHalfEven, Rat.floor_intCast, h, h₁, h₂, if_false, false_and]

/-!
## Scales: how a number of decimals becomes a power of ten

Results keep a bounded number of decimals, so reading and writing a number both go through a
power of ten. The exponent of that power is a machine word of 32 bits in the calculator, and the
number of decimals therefore counts modulo `2 ^ 32`. Both readings of the exponent are kept here
under one type, so that a computation can be run under either and the two runs compared.
-/

/-- A reading of a number of decimals as the exponent of a power of ten. -/
inductive Scale where
  /-- The exponent is a 32-bit word: decimals count modulo `2 ^ 32`. -/
  | wrapped
  /-- The exponent is the number of decimals itself. -/
  | exact
  deriving DecidableEq, Repr

namespace Scale

/-- The exponent that stands for a number of decimals. -/
def exponent : Scale → Nat → Nat
  | wrapped, decimals => decimals % UInt32.size
  | exact, decimals => decimals

/-- The number of units of the last decimal in one. -/
def units (scale : Scale) (decimals : Nat) : Nat :=
  Nat.pow 10 (scale.exponent decimals)

/-- Where nothing wraps around, the exponent is the number of decimals. -/
@[simp] theorem exponent_exact (decimals : Nat) : exact.exponent decimals = decimals := rfl

/-- Below `2 ^ 32` decimals nothing wraps around. -/
theorem exponent_wrapped_of_lt {decimals : Nat} (h : decimals < UInt32.size) :
    wrapped.exponent decimals = decimals :=
  Nat.mod_eq_of_lt h

/-- One is made of at least one unit. -/
theorem units_pos (scale : Scale) (decimals : Nat) : 0 < scale.units decimals :=
  Nat.pow_pos (by decide)

end Scale

/-!
## The value of a numeral, and the numeral of a value

Reading is exact: a numeral denotes the rational number that its digits spell. Writing rounds
half to even to a given number of decimals and then drops the zeros at the end of the fraction,
so that `7` is written for seven whatever the number of decimals. Zero has no sign.
-/

namespace Numeral

/-! ### Reading -/

/-- The number that all digits in order spell, with the sign of the numeral. -/
def unitCount (n : Numeral) : Int :=
  let count : Int := Nat.ofDigitChars 10 n.digits 0
  if n.negative then -count else count

/-- The rational number that a numeral denotes: its digits as one number, divided by the units
of its last decimal. -/
def value (scale : Scale) (n : Numeral) : Rat :=
  (n.unitCount : Rat) / (scale.units n.fraction.length : Rat)

/-- The rational number that a text denotes; `none` if the text is not a plain decimal. -/
def read? (scale : Scale) (text : String) : Option Rat :=
  (parse? text.toList).map (value scale)

/-! ### Writing -/

/-- Drops the zeros at the end of a digit sequence. -/
def trimZeros (digits : List Char) : List Char :=
  (digits.reverse.dropWhile (· = '0')).reverse

/-- The digits after the point of `rest` units: none for no units, else `decimals` digits
without the zeros at the end. -/
def fractionDigits (decimals rest : Nat) : List Char :=
  if rest = 0 then [] else trimZeros ((Nat.toDigits 10 rest).leftpad decimals '0')

/-- The shortest numeral of a whole number of units of the last decimal. -/
def ofUnits (scale : Scale) (decimals : Nat) (units : Int) : Numeral where
  negative := decide (units < 0)
  whole := Nat.toDigits 10 (units.natAbs / scale.units decimals)
  fraction := fractionDigits decimals (units.natAbs % scale.units decimals)

/-- A value in units of its last decimal, rounded half to even. -/
def roundedUnits (scale : Scale) (decimals : Nat) (r : Rat) : Int :=
  roundHalfEven (r * (scale.units decimals : Rat))

/-- A value rounded half to even to a number of decimals. -/
def rounded (scale : Scale) (decimals : Nat) (r : Rat) : Rat :=
  (roundedUnits scale decimals r : Rat) / (scale.units decimals : Rat)

/-- The text of a value, rounded half to even to a number of decimals. -/
def write (scale : Scale) (decimals : Nat) (r : Rat) : String :=
  String.ofList (ofUnits scale decimals (roundedUnits scale decimals r)).text

/-- No units have no digits behind the point. -/
@[simp] theorem fractionDigits_zero (decimals : Nat) : fractionDigits decimals 0 = [] := rfl

/-- No units are a zero without a sign. -/
@[simp] theorem ofUnits_zero (scale : Scale) (decimals : Nat) :
    ofUnits scale decimals 0 = { negative := false, whole := ['0'], fraction := [] } := by
  simp [ofUnits]

/-- What rounds to zero is written `0`, whatever its sign. -/
theorem write_of_round_eq_zero {scale : Scale} {decimals : Nat} {r : Rat}
    (h : roundedUnits scale decimals r = 0) : write scale decimals r = "0" := by
  simp [write, h, text]

/-- The characters of a written value are those of its numeral. -/
@[simp] theorem toList_write (scale : Scale) (decimals : Nat) (r : Rat) :
    (write scale decimals r).toList =
      (ofUnits scale decimals (roundedUnits scale decimals r)).text := by
  simp [write]

end Numeral

end KeypadCalculator
