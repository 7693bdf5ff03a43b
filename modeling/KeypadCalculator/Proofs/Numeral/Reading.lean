import KeypadCalculator.Proofs.Numeral.Rounding
import Mathlib.Data.Rat.Lemmas

/-!
# What is read

A text that was typed is read by a grammar that is said here without a reader. What was read and is
written again comes out in normal form.

* `Numeral.Spells`: the grammar.
* `Numeral.parse?_eq_some_iff`: the reader accepts the grammar and nothing else.
* `Numeral.Spells.mem_cases`, `Numeral.Spells.count_point_le_one`,
  `Numeral.Spells.minus_not_mem_tail`: which characters there are, and how often.
* `Numeral.read?_spells`: what is accepted, and what it denotes.
* `Numeral.value_normal`: the normal form denotes the value.
* `Numeral.rounded_value`: a value of few decimals is not changed by rounding to more.
* `Numeral.write_value`: the value of a numeral is written as its normal form.
* `Numeral.write_read?_eq_normal`: the same on texts, with the texts that come back unchanged.
-/

namespace KeypadCalculator

/-!
## The grammar of plain decimals

Which texts are plain decimals is said here without a reader: a sign or none, digits, and then a
point with more digits or no point at all. Either row of digits may be empty, but not both. A text
is read exactly if it has this form, and then there is one way only to take it apart, since neither
a sign nor a point is a digit.

What is read is the number that all digits spell over a power of ten. It is not rounded, and as a
rational number it is in lowest terms.
-/

namespace Numeral

/-- The characters that spell a numeral. -/
inductive Spells : List Char → Numeral → Prop where
  /-- A sign or none, and digits. -/
  | withoutPoint {negative : Bool} {whole : List Char} (isDigit : ∀ c ∈ whole, c.isDigit = true)
      (ne_nil : whole ≠ []) :
      Spells (signText negative ++ whole) { negative, whole, fraction := [] }
  /-- A sign or none, and a point with digits on one side of it at least. -/
  | withPoint {negative : Bool} {whole fraction : List Char}
      (isDigit : ∀ c ∈ whole ++ fraction, c.isDigit = true) (ne_nil : whole ++ fraction ≠ []) :
      Spells (signText negative ++ (whole ++ '.' :: fraction)) { negative, whole, fraction }

/-! ### The reader and the grammar -/

/-- A text is split at its first point, if it has one. -/
theorem split_at_point_cases (body : List Char) :
    (body = body.takeWhile (· ≠ '.') ∧ (body.dropWhile (· ≠ '.')).drop 1 = []) ∨
      body = body.takeWhile (· ≠ '.') ++ '.' :: (body.dropWhile (· ≠ '.')).drop 1 := by
  have hsplit := List.takeWhile_append_dropWhile (p := (· ≠ '.')) (l := body)
  cases hdrop : body.dropWhile (· ≠ '.') with
  | nil =>
    rw [hdrop, List.append_nil] at hsplit
    exact .inl ⟨hsplit.symm, rfl⟩
  | cons c rest =>
    have hpoint : c = '.' := by
      have hnot := List.head?_dropWhile_not (fun c => decide (c ≠ '.')) body
      rw [hdrop] at hnot
      simpa using hnot
    rw [hdrop, hpoint] at hsplit
    exact .inr hsplit.symm

variable {cs body : List Char} {negative : Bool} {n : Numeral}

/-- What is accepted behind a sign spells, together with the sign, the numeral. -/
theorem spells_of_ofBody? (h : ofBody? negative body = some n) :
    Spells (signText negative ++ body) n := by
  obtain ⟨hnil, hdigits⟩ := ofBody?_eq_some h
  rw [List.all_eq_true] at hdigits
  simp only [ofBody?, Option.ite_none_right_eq_some, Option.some.injEq] at h
  obtain ⟨-, rfl⟩ := h
  rcases split_at_point_cases body with ⟨hwhole, hfraction⟩ | hpoint
  · simp only [digits, hfraction, List.append_nil, ← hwhole] at hnil hdigits ⊢
    exact .withoutPoint hdigits hnil
  · have hspells : Spells (signText negative ++ _) _ := .withPoint hdigits hnil
    rwa [← hpoint] at hspells

/-- A text is read as a numeral exactly if it spells that numeral. -/
theorem parse?_eq_some_iff : parse? cs = some n ↔ Spells cs n := by
  constructor
  · intro h
    unfold parse? at h
    split at h
    · exact spells_of_ofBody? h
    · exact spells_of_ofBody? h
  · intro h
    cases h with
    | @withoutPoint negative whole isDigit ne_nil =>
      let n : Numeral := { negative, whole, fraction := [] }
      have htext : n.text = signText negative ++ whole := List.append_nil _
      have hdigits : n.digits = whole := List.append_nil whole
      rw [← hdigits] at isDigit ne_nil
      rw [← htext]
      exact parse?_text ne_nil isDigit
    | @withPoint negative whole fraction isDigit ne_nil =>
      let n : Numeral := { negative, whole, fraction }
      have hhead : (whole ++ '.' :: fraction).head? ≠ some '-' :=
        head?_append_ne_minus (fun c hc => isDigit c (List.mem_append_left _ hc)) (by simp)
      have hbody : ofBody? n.negative (n.whole ++ '.' :: fraction) = some n :=
        ofBody?_append ne_nil isDigit rfl rfl
      rw [parse?_signText_append hhead]
      exact hbody

/-! ### Which characters are accepted -/

/-- There are digits, a minus sign and a point, and nothing else. -/
theorem Spells.mem_cases (h : Spells cs n) {c : Char} (hc : c ∈ cs) :
    c.isDigit = true ∨ c = '-' ∨ c = '.' := by
  have hsign : ∀ {negative : Bool}, c ∈ signText negative → c = '-' := by
    intro negative hc
    cases negative with
    | true => exact List.mem_singleton.mp hc
    | false => cases hc
  cases h with
  | withoutPoint isDigit ne_nil =>
    rcases List.mem_append.mp hc with hc | hc
    · exact .inr (.inl (hsign hc))
    · exact .inl (isDigit c hc)
  | withPoint isDigit ne_nil =>
    rcases List.mem_append.mp hc with hc | hc
    · exact .inr (.inl (hsign hc))
    rcases List.mem_append.mp hc with hc | hc
    · exact .inl (isDigit c (List.mem_append_left _ hc))
    rcases List.mem_cons.mp hc with hc | hc
    · exact .inr (.inr hc)
    · exact .inl (isDigit c (List.mem_append_right _ hc))

/-- There is one point at most. -/
theorem Spells.count_point_le_one (h : Spells cs n) : cs.count '.' ≤ 1 := by
  have hsign : ∀ negative, (signText negative).count '.' = 0 := by decide
  have hdigits : ∀ {row : List Char}, (∀ c ∈ row, c.isDigit = true) → row.count '.' = 0 := by
    intro row hrow
    exact List.count_eq_zero.mpr fun hpoint => ne_point_of_isDigit (hrow _ hpoint) rfl
  cases h with
  | withoutPoint isDigit ne_nil =>
    rw [List.count_append, hsign, hdigits isDigit]
    exact Nat.zero_le 1
  | withPoint isDigit ne_nil =>
    obtain ⟨hwhole, hfraction⟩ := List.forall_mem_append.mp isDigit
    rw [List.count_append, hsign, List.count_append, hdigits hwhole, List.count_cons_self,
      hdigits hfraction]

/-- There is no minus sign but the one in front. -/
theorem Spells.minus_not_mem_tail (h : Spells cs n) : '-' ∉ cs.tail := by
  have htail : ∀ {negative : Bool} {body : List Char}, '-' ∉ body →
      '-' ∉ (signText negative ++ body).tail := by
    intro negative body hbody
    cases negative with
    | true => exact hbody
    | false => exact fun hminus => hbody (List.mem_of_mem_tail hminus)
  cases h with
  | withoutPoint isDigit ne_nil =>
    exact htail fun hminus => ne_minus_of_isDigit (isDigit _ hminus) rfl
  | withPoint isDigit ne_nil =>
    obtain ⟨hwhole, hfraction⟩ := List.forall_mem_append.mp isDigit
    apply htail
    intro hminus
    rcases List.mem_append.mp hminus with hminus | hminus
    · exact ne_minus_of_isDigit (hwhole _ hminus) rfl
    rcases List.mem_cons.mp hminus with hminus | hminus
    · exact absurd hminus (by decide)
    · exact ne_minus_of_isDigit (hfraction _ hminus) rfl

/-! ### What is read -/

/-- A text can be read exactly if it spells a numeral. -/
theorem isSome_read?_iff {scale : Scale} {text : String} :
    (read? scale text).isSome = true ↔ ∃ n, Spells text.toList n := by
  simp only [read?, Option.isSome_map, Option.isSome_iff_exists, parse?_eq_some_iff]

/-- A quotient in lowest terms. -/
theorem num_den_div (count : Int) {units : Nat} (h : units ≠ 0) :
    ((count : Rat) / units).num = count / (count.natAbs.gcd units : Nat) ∧
      ((count : Rat) / units).den = units / count.natAbs.gcd units := by
  rw [← Rat.mkRat_eq_div, ← Rat.normalize_eq_mkRat h, Rat.normalize_eq]
  exact ⟨rfl, rfl⟩

/-- The units of a numeral are its sign times the number that its digits spell. -/
theorem unitCount_eq_mul (n : Numeral) :
    n.unitCount = (if n.negative then -1 else 1) * (Nat.ofDigitChars 10 n.digits 0 : Int) := by
  unfold unitCount
  split <;> simp

/-- A text can be read exactly if it is an optional minus sign, digits, and then perhaps a point and
more digits, with one digit at least; there is no other character in it, no second point, and no
minus sign behind the first character. With fewer than `2 ^ 32` digits behind the point, it denotes
the number that all its digits spell, with its sign, over the power of ten of as many zeros as there
are digits behind the point. The numerator and the denominator of what is read are these two
numbers, divided by all that they have in common. -/
theorem read?_spells (text : String) :
    ((read? .wrapped text).isSome = true ↔ ∃ n, Spells text.toList n) ∧
    ((read? .wrapped text).isSome = true →
      (∀ c ∈ text.toList, c.isDigit = true ∨ c = '-' ∨ c = '.') ∧
        text.toList.count '.' ≤ 1 ∧ '-' ∉ text.toList.tail) ∧
    ∀ n, Spells text.toList n → n.fraction.length < 2 ^ 32 →
      let sign : Int := if n.negative then -1 else 1
      let count : Int := sign * Nat.ofDigitChars 10 (n.whole ++ n.fraction) 0
      let units : Nat := 10 ^ n.fraction.length
      ∃ r, read? .wrapped text = some r ∧ r = (count : Rat) / (units : Rat) ∧
        r.num = count / (count.natAbs.gcd units : Nat) ∧ r.den = units / count.natAbs.gcd units := by
  refine ⟨isSome_read?_iff, fun hsome => ?_, ?_⟩
  · obtain ⟨n, hn⟩ := isSome_read?_iff.mp hsome
    exact ⟨fun c hc => hn.mem_cases hc, hn.count_point_le_one, hn.minus_not_mem_tail⟩
  · intro n hn hlength sign count units
    have hunits : Scale.wrapped.units n.fraction.length = units :=
      (Scale.isFaithful_wrapped hlength).units_eq
    have hcount : n.unitCount = count := n.unitCount_eq_mul
    refine ⟨(count : Rat) / (units : Rat), ?_, rfl, ?_⟩
    · rw [read?, parse?_eq_some_iff.mpr hn, Option.map_some, value, hunits, hcount]
    · exact num_den_div count (pow_ne_zero _ (by decide))

/-- `-007.50` is read as `-15/2`; without its digits, or with a space, a separator, an exponent or a
second point, it is not read at all. -/
theorem read?_spells_of_superfluous_zeros :
    Spells "-007.50".toList ⟨true, ['0', '0', '7'], ['5', '0']⟩ ∧
      (∃ r, read? .wrapped "-007.50" = some r ∧ r.num = -15 ∧ r.den = 2) ∧
      ∀ text ∈ ["-.", " 7.5", "7_5", "75e-1", "7.5.0", "+7.5", "--7.5"],
        ¬∃ n, Spells text.toList n := by
  have hn : Spells "-007.50".toList ⟨true, ['0', '0', '7'], ['5', '0']⟩ :=
    parse?_eq_some_iff.mp (by decide)
  obtain ⟨-, -, hvalue⟩ := read?_spells "-007.50"
  obtain ⟨r, hread, -, hnum, hden⟩ := hvalue _ hn (by decide)
  refine ⟨hn, ⟨r, hread, hnum.trans (by decide), hden.trans (by decide)⟩, ?_⟩
  intro text htext
  rw [← (read?_spells text).1]
  revert text
  decide +kernel

end Numeral

/-!
## Writing what was read

A numeral that is read and written again comes out in normal form, whatever zeros it was typed with.
The digits are not followed through this: the normal form denotes the same value, both it and what
is written are canonical, and a value has one canonical numeral.

The number of decimals has to be large enough for the digits behind the point, so that nothing is
rounded away. It may be larger, since the zeros that it adds are dropped again.
-/

namespace Numeral

/-! ### The normal form denotes the value -/

/-- Leading zeros add nothing to the number that is spelled. -/
theorem ofDigitChars_trimLeadingZeros (digits : List Char) :
    Nat.ofDigitChars 10 (trimLeadingZeros digits) 0 = Nat.ofDigitChars 10 digits 0 := by
  have hsplit := List.takeWhile_append_dropWhile (p := (· = '0')) (l := digits)
  rw [takeWhile_eq_replicate_zero] at hsplit
  have hdrop : Nat.ofDigitChars 10 (digits.dropWhile (· = '0')) 0 =
      Nat.ofDigitChars 10 digits 0 := by
    rw [← ofDigitChars_replicate_zero_append (digits.takeWhile (· = '0')).length, hsplit]
  rw [← hdrop]
  unfold trimLeadingZeros
  split
  · rename_i hnil
    rw [hnil]
    rfl
  · rfl

variable {n : Numeral}

/-- The digits of the normal form spell the number that all digits spell, once the zeros at the end
of the fraction are put back. -/
theorem exists_ofDigitChars_normal (n : Numeral) :
    ∃ k, n.normal.fraction.length + k = n.fraction.length ∧
      10 ^ k * Nat.ofDigitChars 10 n.normal.digits 0 = Nat.ofDigitChars 10 n.digits 0 := by
  obtain ⟨k, hk⟩ := exists_trimZeros_append_replicate n.fraction
  have hlength : n.normal.fraction.length + k = n.fraction.length := by
    rw [← congrArg List.length hk, List.length_append, List.length_replicate]
    rfl
  have hfraction : 10 ^ k * Nat.ofDigitChars 10 n.normal.fraction 0 =
      Nat.ofDigitChars 10 n.fraction 0 := by
    rw [← ofDigitChars_append_replicate_zero]
    exact congrArg (fun digits => Nat.ofDigitChars 10 digits 0) hk
  have hwhole : Nat.ofDigitChars 10 n.normal.whole 0 = Nat.ofDigitChars 10 n.whole 0 :=
    ofDigitChars_trimLeadingZeros n.whole
  refine ⟨k, hlength, ?_⟩
  rw [digits, digits, ofDigitChars_append_eq, ofDigitChars_append_eq, hwhole, ← hfraction,
    ← hlength, pow_add]
  ring

/-- The sign is dropped only in front of zeros, where it changes nothing. -/
theorem unitCount_eq_ite_normal (h : ∀ c ∈ n.digits, c.isDigit = true) :
    n.unitCount =
      if n.normal.negative then -(Nat.ofDigitChars 10 n.digits 0 : Int)
      else Nat.ofDigitChars 10 n.digits 0 := by
  by_cases hzeros : ∀ c ∈ n.digits, c = '0'
  · have hcount := (ofDigitChars_eq_zero_iff h).mpr hzeros
    simp [unitCount, hcount]
  · have hsome : n.digits.any (· ≠ '0') = true := by
      rw [List.any_eq_true]
      push Not at hzeros
      obtain ⟨c, hc, hne⟩ := hzeros
      exact ⟨c, hc, decide_eq_true hne⟩
    have hnegative : n.normal.negative = n.negative := by
      show (n.negative && n.digits.any (· ≠ '0')) = n.negative
      rw [hsome, Bool.and_true]
    rw [hnegative]
    rfl

/-- The normal form denotes the value. -/
theorem value_normal (h : ∀ c ∈ n.digits, c.isDigit = true) :
    n.normal.value .exact = n.value .exact := by
  obtain ⟨k, hlength, hcount⟩ := exists_ofDigitChars_normal n
  have hunits : (10 : Int) ^ k * n.normal.unitCount = n.unitCount := by
    have hcast : (10 : Int) ^ k * (Nat.ofDigitChars 10 n.normal.digits 0 : Int) =
        Nat.ofDigitChars 10 n.digits 0 := by
      exact_mod_cast hcount
    rw [unitCount_eq_ite_normal h, ← hcast]
    unfold unitCount
    simp only
    split_ifs
    · rw [Int.mul_neg]
    · rfl
  have hcast : (10 : Rat) ^ k * (n.normal.unitCount : Rat) = n.unitCount := by
    exact_mod_cast hunits
  have hpow : (10 : Rat) ^ n.fraction.length = 10 ^ n.normal.fraction.length * 10 ^ k := by
    rw [← pow_add, hlength]
  rw [value, value, Scale.units_exact, Scale.units_exact]
  push_cast
  rw [hpow, ← hcast]
  field_simp

/-! ### Writing a value again -/

variable {scale : Scale} {decimals : Nat}

/-- A value is not changed by rounding to as many decimals as it has, or to more. -/
theorem rounded_value (h : scale.IsFaithful decimals) (hlength : n.fraction.length ≤ decimals) :
    rounded scale decimals (n.value scale) = n.value scale := by
  rw [rounded_eq_rounded_exact h]
  exact (onGrid_value (h.mono hlength) hlength).rounded_eq

/-- The value of a numeral is written as its normal form. -/
theorem write_value (h : scale.IsFaithful decimals) (hdigits : ∀ c ∈ n.digits, c.isDigit = true)
    (hlength : n.fraction.length ≤ decimals) :
    write scale decimals (n.value scale) = String.ofList n.normal.text := by
  have hvalue :
      (ofUnits scale decimals (roundedUnits scale decimals (n.value scale))).value .exact =
      n.normal.value .exact := by
    calc (ofUnits scale decimals (roundedUnits scale decimals (n.value scale))).value .exact
        = rounded .exact decimals (n.value scale) := value_exact_ofUnits h _
      _ = n.value scale := by rw [← rounded_eq_rounded_exact h, rounded_value h hlength]
      _ = n.value .exact := value_eq_value_exact (h.mono hlength)
      _ = n.normal.value .exact := (value_normal hdigits).symm
  rw [write, eq_of_isCanonical (isCanonical_ofUnits _ _ _) (isCanonical_normal hdigits) hvalue]

/-! ### Texts -/

/-- A text with few enough fraction digits is read and written as its normal form. -/
theorem map_write_read?_of_parse? (h : scale.IsFaithful decimals) {text : String}
    (hparse : parse? text.toList = some n) (hlength : n.fraction.length ≤ decimals) :
    (read? scale text).map (write scale decimals) = some (String.ofList n.normal.text) := by
  rw [read?, hparse, Option.map_some, Option.map_some,
    write_value h (fun _ hc => isDigit_of_mem_digits_of_parse? hparse hc) hlength]

/-- A canonical text with few enough fraction digits is read and written as it stands. -/
theorem map_write_read?_of_isCanonical (h : scale.IsFaithful decimals) (hn : n.IsCanonical)
    (hlength : n.fraction.length ≤ decimals) :
    (read? scale (String.ofList n.text)).map (write scale decimals) =
      some (String.ofList n.text) := by
  have hparse : parse? (String.ofList n.text).toList = some n := by
    rw [String.toList_ofList]
    exact hn.parse?_text
  rw [map_write_read?_of_parse? h hparse hlength, normal_of_isCanonical hn]

/-- A text that is read and written again, with no fewer decimals than it has digits behind the
point, comes out in normal form. A canonical text comes back, and so does a result that was written
with the same number of decimals or with fewer. -/
theorem write_read?_eq_normal (hdecimals : decimals < 2 ^ 32) :
    (∀ (text : String) (n : Numeral), parse? text.toList = some n →
      n.fraction.length ≤ decimals →
        (read? .wrapped text).map (write .wrapped decimals) = some (String.ofList n.normal.text)) ∧
    (∀ n : Numeral, n.IsCanonical → n.fraction.length ≤ decimals →
      (read? .wrapped (String.ofList n.text)).map (write .wrapped decimals) =
        some (String.ofList n.text)) ∧
    ∀ fewer ≤ decimals, ∀ r : Rat,
      (read? .wrapped (write .wrapped fewer r)).map (write .wrapped decimals) =
        some (write .wrapped fewer r) := by
  have hfaithful := Scale.isFaithful_wrapped hdecimals
  refine ⟨?_, ?_, ?_⟩
  · intro text n hparse hlength
    exact map_write_read?_of_parse? hfaithful hparse hlength
  · intro n hn hlength
    exact map_write_read?_of_isCanonical hfaithful hn hlength
  · intro fewer hfewer r
    apply map_write_read?_of_isCanonical hfaithful (isCanonical_ofUnits .wrapped fewer _)
    exact (length_fraction_ofUnits_le _ _ _).trans hfewer

/-- `-007.10` comes back as `-7.1` with five decimals, `-.00` as `0`, and `0.67` as itself. -/
theorem write_read?_eq_normal_of_superfluous_zeros :
    (read? .wrapped "-007.10").map (write .wrapped 5) = some "-7.1" ∧
      (read? .wrapped "-.00").map (write .wrapped 5) = some "0" ∧
      write .wrapped 2 (2 / 3) = "0.67" ∧
      (read? .wrapped "0.67").map (write .wrapped 5) = some "0.67" := by
  obtain ⟨hnormal, -, hwritten⟩ := write_read?_eq_normal (show 5 < 2 ^ 32 by decide)
  have hwrite : write .wrapped 2 (2 / 3) = "0.67" := by decide +kernel
  refine ⟨?_, ?_, hwrite, ?_⟩
  · exact hnormal "-007.10" ⟨true, ['0', '0', '7'], ['1', '0']⟩ (by decide) (by decide)
  · exact hnormal "-.00" ⟨true, [], ['0', '0']⟩ (by decide) (by decide)
  · rw [← hwrite]
    exact hwritten 2 (by decide) (2 / 3)

end Numeral

end KeypadCalculator
