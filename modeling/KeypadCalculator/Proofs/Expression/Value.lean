import KeypadCalculator.Proofs.Expression.Precedence
import KeypadCalculator.Proofs.Numeral.Rounding

/-!
# The value of an expression

What an expression with readable operands evaluates to, said on rational numbers and on integers.

* `Operator.computeRounded`: one operation on numbers, with its result rounded.
* `exists_write_of_evaluate`: the result of an expression with an operator is written by the last
  operation.
* `evaluate_tokens_eq_canonical_value`: the result is the canonical text of the value.
* `SpellsInteger`, `combineTexts_spellsInteger`: one operation on texts of integers.
* `exists_evaluate_tokens_spellsInteger`: an expression keeps to texts of integers.
* `evaluate_tokens_eq_toString`: its result is the usual text of the exact value.
-/

namespace KeypadCalculator

/-!
## Values rounded after every operation

A chain of readable texts has a value: each term is folded and then the terms are, over rational
numbers, with every result of an operation rounded half to even. Nothing in this value knows of
texts. Evaluating the tokens of the chain writes this value, although every intermediate result is
written and read on the way, since reading gives back what was written.
-/

section

/-- The exact result of an operation, rounded half to even to a number of decimals. -/
def Operator.computeRounded (decimals : Nat) (op : Operator) (left right : Rat) : Rat :=
  Numeral.rounded .exact decimals (op.compute left right)

variable {scale : Scale} {decimals : Nat}

/-- Two texts that can be read are combined to a text of the rounded result. -/
theorem combineTexts_sameOutcome (h : scale.IsFaithful decimals) {op : Operator}
    {left right : String} {a b : Rat} (hleft : Numeral.read? scale left = some a)
    (hright : Numeral.read? scale right = some b) (hzero : op = .divide → b ≠ 0) :
    SameOutcome (fun _ => False) (fun text value => Numeral.read? scale text = some value)
      (combineTexts scale decimals op left right) (.ok (op.computeRounded decimals a b)) := by
  rw [combineTexts_of_read? hleft hright hzero]
  refine .ok ?_
  rw [Numeral.read?_write h, Numeral.rounded_eq_rounded_exact h]
  rfl

/-- A chain of texts with the chain of their values: no value behind a `/` is zero. -/
theorem Chain.related_of_map_eq {chain : Chain String} {values : Chain Rat}
    (h : chain.map (Numeral.read? scale) = values.map some) (hzero : 0 ∉ values.divisors) :
    Related (fun text value => Numeral.read? scale text = some value)
      (fun op text value => Numeral.read? scale text = some value ∧ (op = .divide → value ≠ 0))
      chain values := by
  have hrest : List.Forall₂ (fun (l : Operator × String) (m : Operator × Rat) =>
      (l.1, Numeral.read? scale l.2) = (m.1, some m.2)) chain.rest values.rest := by
    rw [← List.forall₂_map_right_iff, ← List.forall₂_map_left_iff, List.forall₂_eq_eq_eq]
    exact congrArg Chain.rest h
  have hlinks : ∀ link ∈ values.rest, link.1 = .divide → link.2 ≠ 0 := by
    intro link hlink hop hvalue
    refine hzero (List.mem_map.mpr ⟨link, List.mem_filter.mpr ⟨hlink, ?_⟩, hvalue⟩)
    exact decide_eq_true hop
  refine ⟨congrArg Chain.first h, ?_⟩
  refine ((List.forall₂_and_left _ _).mpr ⟨hlinks, hrest.flip⟩).flip.imp ?_
  rintro ⟨op, text⟩ ⟨op', value⟩ ⟨hdivisor, hread⟩
  obtain ⟨rfl, hread⟩ := Prod.mk.inj hread
  exact ⟨rfl, hread, hdivisor⟩

/-- Where all texts can be read and no divisor is zero, the evaluation gives a text of the value. -/
theorem exists_evaluate_tokens_of_read? (h : scale.IsFaithful decimals) {chain : Chain String}
    {values : Chain Rat} (hvalues : chain.map (Numeral.read? scale) = values.map some)
    (hzero : 0 ∉ values.divisors) :
    ∃ text, evaluate scale decimals chain.tokens = .ok text ∧
      Numeral.read? scale text = some (values.byPrecedence (Operator.computeRounded decimals)) := by
  apply exists_evaluate_tokens_of_related (fun _ _ _ hlink => hlink.1) _
    (Chain.related_of_map_eq hvalues hzero)
  intro op left a right b hleft hright hlink
  apply combineTexts_sameOutcome h hleft hright
  rintro rfl
  exact (hlink rfl).2 rfl

/-- The result of an expression with an operator is written by the last operation. -/
theorem exists_write_of_evaluate {chain : Chain String} {text : String}
    (h : evaluate scale decimals chain.tokens = .ok text) (hrest : chain.rest ≠ []) :
    ∃ r, text = Numeral.write scale decimals r := by
  rw [evaluate_tokens] at h
  obtain ⟨op, left, right, hcombine⟩ := Chain.exists_of_byPrecedenceM_eq_ok h hrest
  obtain ⟨a, b, -, -, -, rfl⟩ := exists_of_combineTexts_eq_ok hcombine
  exact ⟨_, rfl⟩

/-- The result of an expression with an operator, all of whose texts can be read and none of whose
divisors is zero, is the text of the only canonical numeral that denotes the value of the
expression: the value under standard precedence, with every sum, difference, product and quotient
rounded to the one value that it is to be rounded to. -/
theorem evaluate_tokens_eq_canonical_value (hdecimals : decimals < 2 ^ 32) {chain : Chain String}
    {values : Chain Rat} (hvalues : chain.map (Numeral.read? .wrapped) = values.map some)
    (hoperator : chain.rest ≠ []) (hzero : 0 ∉ values.divisors) :
    ∃ round : Rat → Rat, (∀ r value, IsRoundedTo decimals r value ↔ value = round r) ∧
      let value := values.byPrecedence fun
        | .plus, a, b => round (a + b)
        | .minus, a, b => round (a - b)
        | .times, a, b => round (a * b)
        | .divide, a, b => round (a / b)
      ∃ n : Numeral, (∀ m : Numeral, m.IsCanonical ∧ m.value .exact = value ↔ m = n) ∧
        evaluate .wrapped decimals chain.tokens = .ok (String.ofList n.text) := by
  refine ⟨Numeral.rounded .exact decimals, fun r value => isRoundedTo_iff, ?_⟩
  intro value
  have hcompute : value = values.byPrecedence (Operator.computeRounded decimals) := by
    apply congrArg values.byPrecedence
    funext op a b
    cases op <;> rfl
  have hfaithful := Scale.isFaithful_wrapped hdecimals
  obtain ⟨text, htext, hread⟩ := exists_evaluate_tokens_of_read? hfaithful hvalues hzero
  obtain ⟨r, rfl⟩ := exists_write_of_evaluate htext hoperator
  have hcanonical := Numeral.isCanonical_ofUnits .wrapped decimals
    (Numeral.roundedUnits .wrapped decimals r)
  have hvalue : Numeral.value .exact
      (Numeral.ofUnits .wrapped decimals (Numeral.roundedUnits .wrapped decimals r)) = value := by
    rw [hcompute, ← Numeral.value_eq_value_exact
      (hfaithful.mono (Numeral.length_fraction_ofUnits_le _ _ _))]
    rw [Numeral.read?_write_eq_value] at hread
    exact Option.some.inj hread
  refine ⟨_, fun m => ⟨?_, ?_⟩, htext⟩
  · rintro ⟨hm, hmvalue⟩
    exact Numeral.eq_of_isCanonical hm hcanonical (hmvalue.trans hvalue.symm)
  · rintro rfl
    exact ⟨hcanonical, hvalue⟩

/-- `-0.5/3*007+00.365-2/3` with two decimals. Both quotients are rounded. The sum is `-0.825`, half
way between two results, and goes to the even one, which is not the one below. -/
theorem evaluate_tokens_eq_canonical_value_of_signed_tie :
    let chain : Chain String :=
      { first := "-0.5"
        rest := [(.divide, "3"), (.times, "007"), (.plus, "00.365"), (.minus, "2"), (.divide, "3")] }
    let values : Chain Rat :=
      { first := -1 / 2
        rest := [(.divide, 3), (.times, 7), (.plus, 73 / 200), (.minus, 2), (.divide, 3)] }
    chain.map (Numeral.read? .wrapped) = values.map some ∧ IsRoundedTo 2 (-33 / 40) (-41 / 50) ∧
      ∃ n : Numeral, n.IsCanonical ∧ n.value .exact = -149 / 100 ∧
        evaluate .wrapped 2 chain.tokens = .ok (String.ofList n.text) := by
  intro chain values
  have hvalues : chain.map (Numeral.read? .wrapped) = values.map some := by decide +kernel
  obtain ⟨round, hround, n, hn, hresult⟩ := evaluate_tokens_eq_canonical_value
    (show 2 < 2 ^ 32 by decide) hvalues (by decide) (by decide +kernel)
  obtain rfl : round = Numeral.rounded .exact 2 :=
    funext fun r => isRoundedTo_iff.mp ((hround r (round r)).mpr rfl)
  obtain ⟨hcanonical, hvalue⟩ := (hn n).mpr rfl
  refine ⟨hvalues, isRoundedTo_iff.mpr (by decide +kernel), n, hcanonical, ?_, hresult⟩
  rw [hvalue]
  decide +kernel

end

/-!
## Integers are computed exactly

Sums, differences and products of integers are integers, and an integer is written in full whatever
the number of decimals. An expression without `/` whose operands are texts of integers therefore
stays among texts of integers, step by step, and its result is the exact one. Operands may have
leading zeros or stand for a signed zero; a result has neither.

Two facts meet in the result. Every step keeps the value, which says nothing of the zeros, and the
last step has written the text, which is therefore canonical; an integer has one canonical text.
-/

/-- A text that spells an integer, perhaps with leading zeros or as a signed zero. -/
def SpellsInteger (text : String) (value : Int) : Prop :=
  ∃ n : Numeral, n.IsInteger ∧ String.ofList n.text = text ∧ n.unitCount = value

/-- Texts of integers are combined to a text of the exact result, if that is an integer. -/
theorem combineTexts_spellsInteger (scale : Scale) (decimals : Nat) {op : Operator}
    {left right : String} {a b z : Int} (h : op ≠ .divide) (hz : op.compute a b = z)
    (hleft : SpellsInteger left a) (hright : SpellsInteger right b) :
    SameOutcome (fun _ => False) SpellsInteger (combineTexts scale decimals op left right)
      (.ok z) := by
  obtain ⟨n, hn, rfl, rfl⟩ := hleft
  obtain ⟨m, hm, rfl, rfl⟩ := hright
  rw [combineTexts_of_read? (hn.read?_text scale) (hm.read?_text scale) fun hdivide =>
    absurd hdivide h, hz, Numeral.write_intCast]
  exact .ok ⟨Numeral.ofInt z, Numeral.isInteger_ofInt z, rfl, Numeral.unitCount_ofInt z⟩

/-- An expression on texts of integers that does not divide spells the exact result. -/
theorem exists_evaluate_tokens_spellsInteger (scale : Scale) (decimals : Nat)
    {f : Operator → Int → Int → Int}
    (hf : ∀ op ≠ .divide, ∀ a b : Int, op.compute a b = (f op a b : Int))
    {numerals : Chain Numeral} (hintegers : ∀ n ∈ numerals.operands, n.IsInteger)
    (hdivide : .divide ∉ numerals.operators) :
    ∃ text,
      evaluate scale decimals (numerals.map fun n => String.ofList n.text).tokens = .ok text ∧
        SpellsInteger text ((numerals.map Numeral.unitCount).byPrecedence f) := by
  have hrelated : Chain.Related SpellsInteger
      (fun op text value => op ≠ .divide ∧ SpellsInteger text value)
      (numerals.map fun n => String.ofList n.text) (numerals.map Numeral.unitCount) := by
    refine ⟨⟨_, hintegers _ List.mem_cons_self, rfl, rfl⟩, ?_⟩
    rw [Chain.map, Chain.map, List.forall₂_map_left_iff, List.forall₂_map_right_iff,
      List.forall₂_same]
    rintro ⟨op, n⟩ hlink
    refine ⟨rfl, ?_, n, ?_, rfl, rfl⟩
    · rintro rfl
      exact hdivide (List.mem_map.mpr ⟨_, hlink, rfl⟩)
    · exact hintegers n (List.mem_cons_of_mem _ (List.mem_map.mpr ⟨_, hlink, rfl⟩))
  apply exists_evaluate_tokens_of_related (fun _ _ _ hlink => hlink.2) _ hrelated
  intro op left a right b hleft hright hlink
  have hop : op ≠ .divide := by
    rintro rfl
    exact (hlink rfl).1 rfl
  exact combineTexts_spellsInteger scale decimals hop (hf op hop a b) hleft hright

/-- A canonical text that spells an integer is the usual text of the integer. -/
theorem SpellsInteger.eq_toString {text : String} {value : Int} (h : SpellsInteger text value)
    (hcanonical : Numeral.IsCanonicalText text) : text = toString value := by
  obtain ⟨n, hn, rfl, rfl⟩ := h
  obtain ⟨m, hm, htext⟩ := hcanonical
  rw [String.toList_ofList] at htext
  obtain rfl : n = m := by
    have hparse := hn.parse?_text
    rw [htext, hm.parse?_text] at hparse
    exact (Option.some.inj hparse).symm
  rw [← String.toList_inj, String.toList_ofList, ← Numeral.text_ofInt, ← hm.eq_ofInt hn]

/-- An expression with an operator, but without a `/`, all of whose operands are texts of integers,
has the usual text of its exact value under standard precedence for a result. It is the same for all
numbers of decimals. -/
theorem evaluate_tokens_eq_toString (scale : Scale) {numerals : Chain Numeral}
    (hintegers : ∀ n ∈ numerals.operands, n.IsInteger) (hoperator : numerals.rest ≠ [])
    (hdivide : .divide ∉ numerals.operators) :
    let value : Int := (numerals.map Numeral.unitCount).byPrecedence fun
      | .plus, a, b => a + b
      | .minus, a, b => a - b
      | .times, a, b => a * b
      | .divide, _, _ => 0
    Numeral.IsCanonicalText (toString value) ∧ '.' ∉ (toString value).toList ∧
      ∀ decimals, evaluate scale decimals (numerals.map fun n => String.ofList n.text).tokens =
        .ok (toString value) := by
  intro value
  have hrest : (numerals.map fun n => String.ofList n.text).rest ≠ [] := fun hnil =>
    hoperator (List.map_eq_nil_iff.mp hnil)
  refine ⟨?_, ?_, fun decimals => ?_⟩
  · exact ⟨_, Numeral.isCanonical_ofInt value, (Numeral.text_ofInt value).symm⟩
  · rw [← Numeral.text_ofInt]
    exact (Numeral.isInteger_ofInt value).point_not_mem_text
  · have hspells : ∃ text,
        evaluate scale decimals (numerals.map fun n => String.ofList n.text).tokens = .ok text ∧
          SpellsInteger text value := by
      refine exists_evaluate_tokens_spellsInteger scale decimals ?_ hintegers hdivide
      intro op hop a b
      cases op with
      | plus => exact (Int.cast_add a b).symm
      | minus => exact (Int.cast_sub a b).symm
      | times => exact (Int.cast_mul a b).symm
      | divide => exact absurd rfl hop
    obtain ⟨text, htext, htextSpells⟩ := hspells
    obtain ⟨r, rfl⟩ := exists_write_of_evaluate htext hrest
    rw [htext, htextSpells.eq_toString (Numeral.isCanonicalText_write scale decimals r)]

/-- `-007*12345678901234567890--0+3`: leading zeros and a signed zero among the operands, and more
digits than a machine word has. -/
theorem evaluate_tokens_eq_toString_of_many_digits :
    let numerals : Chain Numeral :=
      { first := ⟨true, "007".toList, []⟩
        rest := [(.times, ⟨false, "12345678901234567890".toList, []⟩),
          (.minus, ⟨true, ['0'], []⟩), (.plus, ⟨false, ['3'], []⟩)] }
    (numerals.map fun n => String.ofList n.text).tokens =
        [.number "-007", .operator .times, .number "12345678901234567890", .operator .minus,
          .number "-0", .operator .plus, .number "3"] ∧
      ∀ decimals, evaluate .wrapped decimals (numerals.map fun n => String.ofList n.text).tokens =
        .ok "-86419752308641975227" := by
  intro numerals
  have hintegers : ∀ n ∈ numerals.operands, n.IsInteger := by decide +kernel
  obtain ⟨-, -, hresult⟩ :=
    evaluate_tokens_eq_toString .wrapped hintegers (by decide) (by decide)
  exact ⟨by decide +kernel, hresult⟩

end KeypadCalculator
