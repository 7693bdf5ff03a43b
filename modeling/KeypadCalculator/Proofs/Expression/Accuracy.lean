import KeypadCalculator.Proofs.Expression.Success
import KeypadCalculator.Proofs.Numeral.Rounding

/-!
# How far a result is from the exact value

Sums and differences of whole numbers of units are whole numbers of units, so the second pass writes
and reads every partial sum without a loss: its result is the sum of what the first pass has left.
All rounding is done by the first pass, at most half a unit for each `*` or `/`. An expression whose
terms have one such operator at most is therefore wrong by no more than half a unit for each of
those terms, however many terms are added up.

* `Chain.signedSum`: the operands added up, each with the sign in front of it.
* `Chain.fold_compute_eq_signedSum`, `Chain.fold_computeRounded_eq_signedSum`: where there is no `*`
  or `/` folding gives that sum, and on the grid it does so even if every step is rounded.
* `Chain.abs_signedSum_sub_le_sum`: sums of operands that are near each other are near each other.
* `Chain.abs_signedSum_sub_byPrecedence_le`: what the terms of a chain lose together.
* `Chain.exists_reduceProducts_tokens_of_read?`: what the first pass leaves.
* `evaluate_tokens_eq_signedSum`: the result, and how far it is from the exact value.
-/

namespace KeypadCalculator

/-! ## Signed sums -/

/-- A number with the sign of the operator in front of it. -/
def Operator.signed (op : Operator) (value : Rat) : Rat :=
  if op = .minus then -value else value

/-- All operands added up, those behind a `-` counted negatively. -/
def Chain.signedSum (chain : Chain Rat) : Rat :=
  chain.first + (chain.rest.map fun link => link.1.signed link.2).sum

/-- A sum or a difference adds the operand with its sign. -/
theorem Operator.compute_eq_add_signed {op : Operator} (hop : op.isMultiplicative = false)
    (a b : Rat) : op.compute a b = a + op.signed b := by
  cases op with
  | plus => rfl
  | minus => exact sub_eq_add_neg a b
  | times => cases hop
  | divide => cases hop

/-- Signs do not change the distance of two operands. -/
theorem Operator.abs_signed_sub_signed (op : Operator) (a b : Rat) :
    |op.signed a - op.signed b| = |a - b| := by
  unfold signed
  split
  · rw [neg_sub_neg, abs_sub_comm]
  · rfl

namespace Chain

variable {α : Type}

/-- The second operand adds to the first one with the sign of the operator. -/
theorem signedSum_cons (first operand : Rat) (op : Operator) (rest : List (Operator × Rat)) :
    signedSum { first, rest := (op, operand) :: rest } =
      signedSum { first := first + op.signed operand, rest } := by
  simp only [signedSum, List.map_cons, List.sum_cons, add_assoc]

/-- Without a `*` or `/`, folding from left to right adds up the operands with their signs. -/
theorem fold_compute_eq_signedSum {chain : Chain Rat}
    (h : ∀ op ∈ chain.operators, op.isMultiplicative = false) :
    chain.fold Operator.compute = chain.signedSum := by
  obtain ⟨first, rest⟩ := chain
  induction rest generalizing first with
  | nil => exact (add_zero first).symm
  | cons link rest ih =>
    obtain ⟨op, operand⟩ := link
    have hop : op.isMultiplicative = false := h op List.mem_cons_self
    rw [signedSum_cons, ← Operator.compute_eq_add_signed hop,
      ← ih _ fun op' hop' => h op' (List.mem_cons_of_mem _ hop')]
    rfl

/-- Whatever is done to the terms of a chain, there is no `*` or `/` between them. -/
theorem not_isMultiplicative_of_mem_map_terms {β : Type} (chain : Chain α) (f : Chain α → β) :
    ∀ op ∈ (chain.terms.map f).operators, op.isMultiplicative = false := by
  intro op hop
  rw [operators_map] at hop
  exact not_isMultiplicative_of_mem_terms hop

/-- Two sums with the same signs differ by no more than their operands do. -/
theorem abs_signedSum_sub_le_sum (chain : Chain α) (f g : α → Rat) :
    |(chain.map f).signedSum - (chain.map g).signedSum| ≤
      (chain.operands.map fun x => |f x - g x|).sum := by
  obtain ⟨first, rest⟩ := chain
  induction rest using List.reverseRecOn with
  | nil => simp [map, signedSum, operands]
  | append_singleton rest link ih =>
    obtain ⟨op, operand⟩ := link
    have hconcat : ∀ h : α → Rat,
        (map h { first, rest := rest ++ [(op, operand)] }).signedSum =
          (map h { first, rest }).signedSum + op.signed (h operand) := by
      intro h
      simp [map, signedSum, add_assoc]
    have hsum : ((operands { first, rest := rest ++ [(op, operand)] }).map
        fun x => |f x - g x|).sum =
          ((operands { first, rest }).map fun x => |f x - g x|).sum + |f operand - g operand| := by
      simp [operands, add_assoc]
    rw [hconcat, hconcat, hsum, add_sub_add_comm]
    refine (abs_add_le _ _).trans (add_le_add ih ?_)
    rw [Operator.abs_signed_sub_signed]

/-- Numbers of which some are bounded and all others are zero have a sum that is bounded by their
count. -/
theorem sum_map_le_countP_mul {operands : List α} {f : α → Rat} {p : α → Bool} {bound : Rat}
    (hzero : ∀ x ∈ operands, p x = false → f x = 0)
    (hbound : ∀ x ∈ operands, p x = true → f x ≤ bound) :
    (operands.map f).sum ≤ operands.countP p * bound := by
  induction operands with
  | nil => simp
  | cons x operands ih =>
    obtain ⟨hzero, hzeros⟩ := List.forall_mem_cons.mp hzero
    obtain ⟨hbound, hbounds⟩ := List.forall_mem_cons.mp hbound
    have hrest := ih hzeros hbounds
    rw [List.map_cons, List.sum_cons, List.countP_cons]
    cases hx : p x with
    | true =>
      have := hbound hx
      rw [if_pos rfl, Nat.cast_add, Nat.cast_one]
      linarith
    | false =>
      rw [hzero hx, if_neg Bool.false_ne_true]
      simpa using hrest

end Chain

/-! ## Values on the grid -/

variable {scale : Scale} {decimals : Nat}

/-- Sums and differences stay on the grid. -/
theorem OnGrid.compute {op : Operator} {a b : Rat} (hop : op.isMultiplicative = false)
    (ha : OnGrid decimals a) (hb : OnGrid decimals b) : OnGrid decimals (op.compute a b) := by
  cases op with
  | plus => exact ha.add hb
  | minus => exact ha.sub hb
  | times => cases hop
  | divide => cases hop

/-- On the grid, sums and differences are not rounded. -/
theorem OnGrid.computeRounded_eq {op : Operator} {a b : Rat} (hop : op.isMultiplicative = false)
    (ha : OnGrid decimals a) (hb : OnGrid decimals b) :
    op.computeRounded decimals a b = op.compute a b :=
  (ha.compute hop hb).rounded_eq

namespace Chain

/-- A chain without `*` or `/` on the grid is folded exactly: every partial sum is on the grid. -/
theorem fold_computeRounded_eq_signedSum {chain : Chain Rat}
    (hop : ∀ op ∈ chain.operators, op.isMultiplicative = false)
    (hgrid : ∀ value ∈ chain.operands, OnGrid decimals value) :
    chain.fold (Operator.computeRounded decimals) = chain.signedSum := by
  rw [← fold_compute_eq_signedSum hop]
  obtain ⟨first, rest⟩ := chain
  induction rest generalizing first with
  | nil => rfl
  | cons link rest ih =>
    obtain ⟨op, operand⟩ := link
    obtain ⟨hfirst, hrest⟩ := List.forall_mem_cons.mp hgrid
    obtain ⟨hoperand, hrest⟩ := List.forall_mem_cons.mp hrest
    obtain ⟨hop, hops⟩ := List.forall_mem_cons.mp hop
    have hnext := hfirst.compute hop hoperand
    show fold _ { first := op.computeRounded decimals first operand, rest } = _
    rw [hfirst.computeRounded_eq hop hoperand]
    exact ih _ hops (List.forall_mem_cons.mpr ⟨hnext, hrest⟩)

/-- A folded term is on the grid: it is a single operand, or the result of an operation. -/
theorem onGrid_fold_computeRounded {term : Chain Rat} (h : OnGrid decimals term.first) :
    OnGrid decimals (term.fold (Operator.computeRounded decimals)) := by
  obtain ⟨first, rest⟩ := term
  induction rest generalizing first with
  | nil => exact h
  | cons link rest ih => exact ih _ (onGrid_rounded decimals _)

/-- A term starts with an operand of the chain. -/
theorem first_mem_operands_of_mem_terms {α : Type} {chain : Chain α} {term : Chain α}
    (h : term ∈ chain.terms.operands) : term.first ∈ chain.operands := by
  obtain ⟨first, rest⟩ := chain
  induction rest generalizing first with
  | nil =>
    obtain rfl := List.mem_singleton.mp h
    exact List.mem_cons_self
  | cons link rest ih =>
    obtain ⟨op, operand⟩ := link
    rw [terms, termsFrom] at h
    split at h
    · rcases List.mem_cons.mp h with rfl | h
      · exact List.mem_cons_self
      · exact List.mem_cons_of_mem _ (ih operand (List.mem_cons_of_mem _ h))
    · rcases List.mem_cons.mp h with rfl | h
      · exact List.mem_cons_self
      · exact List.mem_cons_of_mem _ (ih operand h)

/-- A term with one `*` or `/` at most is moved by half a unit at most. -/
theorem abs_fold_computeRounded_sub_le {term : Chain Rat} (h : term.rest.length ≤ 1) :
    |term.fold (Operator.computeRounded decimals) - term.fold Operator.compute| ≤
      1 / 2 / 10 ^ decimals := by
  obtain ⟨first, rest⟩ := term
  cases rest with
  | nil =>
    show |first - first| ≤ _
    rw [sub_self, abs_zero]
    positivity
  | cons link rest =>
    obtain rfl : rest = [] := List.length_eq_zero_iff.mp (by simpa using h)
    exact abs_rounded_sub_le decimals _

/-- The terms of a chain lose half a unit each at most, and a term of one operand loses nothing. -/
theorem abs_signedSum_sub_byPrecedence_le {values : Chain Rat}
    (h : ∀ term ∈ values.terms.operands, term.rest.length ≤ 1) :
    |(values.terms.map (fold (Operator.computeRounded decimals))).signedSum -
        values.byPrecedence Operator.compute| ≤
      values.terms.operands.countP (fun term => term.rest ≠ []) * (1 / 2 / 10 ^ decimals) := by
  rw [byPrecedence, fold_compute_eq_signedSum (not_isMultiplicative_of_mem_map_terms _ _)]
  refine (abs_signedSum_sub_le_sum _ _ _).trans (sum_map_le_countP_mul ?_ ?_)
  · intro term _ hsingle
    have hrest : term.rest = [] := by simpa using hsingle
    rw [fold, fold, hrest]
    exact abs_eq_zero.mpr (sub_self _)
  · intro term hterm _
    exact abs_fold_computeRounded_sub_le (h term hterm)

/-! ## The tokens of an expression -/

variable {chain : Chain String} {values : Chain Rat}

/-- If an expression has a value, none of its divisors is zero. -/
theorem zero_not_mem_divisors {text : String}
    (hvalues : chain.map (Numeral.read? scale) = values.map some)
    (h : evaluate scale decimals chain.tokens = .ok text) : 0 ∉ values.divisors := by
  intro hzero
  have hlink : (Operator.divide, some (0 : Rat)) ∈ (chain.map (Numeral.read? scale)).rest := by
    rw [hvalues]
    exact List.mem_map.mpr ⟨_, mem_divisors_iff.mp hzero, rfl⟩
  obtain ⟨⟨op, divisor⟩, hmem, hlink⟩ := List.mem_map.mp hlink
  obtain ⟨rfl, hread⟩ := Prod.mk.inj hlink
  have hsound := isSound_of_evaluate_eq_ok h (List.ne_nil_of_mem hmem)
  exact hsound.divisor_ne_zero _ (mem_divisors_iff.mpr hmem) hread

/-- Chains whose operands are related by having the same image have the same image. -/
theorem map_eq_of_related {α β γ : Type} {f : α → γ} {g : β → γ} {p : Operator → Prop}
    {c : Chain α} {d : Chain β}
    (h : Related (fun a b => f a = g b) (fun op a b => p op ∧ f a = g b) c d) :
    c.map f = d.map g := by
  have hrest : c.rest.map (fun link => (link.1, f link.2)) =
      d.rest.map fun link => (link.1, g link.2) := by
    rw [← List.forall₂_eq_eq_eq, List.forall₂_map_left_iff, List.forall₂_map_right_iff]
    exact h.rest.imp fun l m hlm => Prod.ext hlm.1 hlm.2.2
  rw [map, map, h.first, hrest]

/-- The first pass leaves texts of the folded terms. -/
theorem exists_reduceProducts_tokens_of_read? (h : scale.IsFaithful decimals)
    (hvalues : chain.map (Numeral.read? scale) = values.map some) (hzero : 0 ∉ values.divisors) :
    ∃ sums : Chain String, reduceProducts scale decimals chain.tokens = .ok sums.tokens ∧
      sums.map (Numeral.read? scale) =
        (values.terms.map (fold (Operator.computeRounded decimals))).map some := by
  have hrelated := related_of_map_eq hvalues hzero
  have houtcome := foldTermsM_related (f := combineTexts scale decimals)
    (g := fun op a b => .ok (op.computeRounded decimals a b))
    (L := fun op text value =>
      Numeral.read? scale text = some value ∧ (op = .divide → value ≠ 0))
    (fun _ _ _ hlink => hlink.1)
    (fun _ _ _ _ _ _ hleft hlink => combineTexts_sameOutcome h hleft hlink.1 hlink.2)
    hrelated.first hrelated.rest
  rw [foldTermsM_ok] at houtcome
  obtain ⟨sums, hsums, hterms⟩ := houtcome.exists_ok
  refine ⟨sums, ?_, map_eq_of_related hterms⟩
  rw [reduceProducts_tokens, hsums]
  rfl

end Chain

/-- The second pass does not round: where all operands are whole numbers of units, the result is the
signed sum of what the first pass has left. If moreover each term has one `*` or `/` at most, then
the result is at most half a unit off the exact value for every term that has one. -/
theorem evaluate_tokens_eq_signedSum (hdecimals : decimals < 2 ^ 32) {chain : Chain String}
    {values : Chain Rat} {text : String}
    (hvalues : chain.map (Numeral.read? .wrapped) = values.map some)
    (hgrid : ∀ value ∈ values.operands, OnGrid decimals value)
    (hresult : evaluate .wrapped decimals chain.tokens = .ok text) :
    ∃ (sums : Chain String) (terms : Chain Rat),
      reduceProducts .wrapped decimals chain.tokens = .ok sums.tokens ∧
        sums.map (Numeral.read? .wrapped) = terms.map some ∧
        (∀ op ∈ sums.operators, op.isMultiplicative = false) ∧
        Numeral.read? .wrapped text = some terms.signedSum ∧
        ((∀ term ∈ values.terms.operands, term.rest.length ≤ 1) →
          |terms.signedSum - values.byPrecedence Operator.compute| ≤
            values.terms.operands.countP (fun term => term.rest ≠ []) *
              (1 / 2 / 10 ^ decimals)) := by
  have hfaithful := Scale.isFaithful_wrapped hdecimals
  have hzero := Chain.zero_not_mem_divisors hvalues hresult
  obtain ⟨sums, hsums, hterms⟩ :=
    Chain.exists_reduceProducts_tokens_of_read? hfaithful hvalues hzero
  obtain ⟨text', htext, hread⟩ := exists_evaluate_tokens_of_read? hfaithful hvalues hzero
  obtain rfl : text' = text := Except.ok.inj (htext.symm.trans hresult)
  let terms : Chain Rat := values.terms.map (Chain.fold (Operator.computeRounded decimals))
  have hop : ∀ op ∈ terms.operators, op.isMultiplicative = false :=
    Chain.not_isMultiplicative_of_mem_map_terms _ _
  have hsame : sums.operators = terms.operators := by
    have hmap := congrArg Chain.operators hterms
    rwa [Chain.operators_map, Chain.operators_map] at hmap
  have hunits : ∀ value ∈ terms.operands, OnGrid decimals value := by
    intro value hvalue
    rw [Chain.operands_map] at hvalue
    obtain ⟨term, hterm, rfl⟩ := List.mem_map.mp hvalue
    exact Chain.onGrid_fold_computeRounded (hgrid _ (Chain.first_mem_operands_of_mem_terms hterm))
  refine ⟨sums, terms, hsums, hterms, hsame ▸ hop, ?_, Chain.abs_signedSum_sub_byPrecedence_le⟩
  rw [hread, Chain.byPrecedence]
  exact congrArg some (Chain.fold_computeRounded_eq_signedSum hop hunits)

/-- `0.25*0.5+1/3-2` with two decimals: the product lies half way between two results and the
quotient is rounded as well, so two terms may be half a unit off. -/
theorem evaluate_tokens_eq_signedSum_of_two_products :
    let chain : Chain String :=
      { first := "0.25", rest := [(.times, "0.5"), (.plus, "1"), (.divide, "3"), (.minus, "2")] }
    let values : Chain Rat :=
      { first := 1 / 4, rest := [(.times, 1 / 2), (.plus, 1), (.divide, 3), (.minus, 2)] }
    chain.map (Numeral.read? .wrapped) = values.map some ∧
      (∀ value ∈ values.operands, OnGrid 2 value) ∧
      (∀ term ∈ values.terms.operands, term.rest.length ≤ 1) ∧
      evaluate .wrapped 2 chain.tokens = .ok "-1.55" ∧
      Numeral.read? .wrapped "-1.55" = some (-31 / 20) ∧
      |-31 / 20 - values.byPrecedence Operator.compute| ≤ 2 * (1 / 2 / 10 ^ 2) := by
  intro chain values
  have hvalues : chain.map (Numeral.read? .wrapped) = values.map some := by decide +kernel
  have hgrid : ∀ value ∈ values.operands, OnGrid 2 value := by
    simp only [values, Chain.operands, List.map_cons, List.map_nil, List.forall_mem_cons]
    exact ⟨⟨25, by norm_num⟩, ⟨50, by norm_num⟩, ⟨100, by norm_num⟩, ⟨300, by norm_num⟩,
      ⟨200, by norm_num⟩, by simp⟩
  have hterms : ∀ term ∈ values.terms.operands, term.rest.length ≤ 1 := by decide +kernel
  have hresult : evaluate .wrapped 2 chain.tokens = .ok "-1.55" := by decide +kernel
  have hread : Numeral.read? .wrapped "-1.55" = some (-31 / 20) := by decide +kernel
  obtain ⟨sums, terms, -, -, -, hsum, hnear⟩ :=
    evaluate_tokens_eq_signedSum (show 2 < 2 ^ 32 by decide) hvalues hgrid hresult
  have hvalue : terms.signedSum = -31 / 20 := Option.some.inj (hsum.symm.trans hread)
  have hcount : values.terms.operands.countP (fun term => term.rest ≠ []) = 2 := by decide +kernel
  refine ⟨hvalues, hgrid, hterms, hresult, hread, ?_⟩
  have hclose := hnear hterms
  rw [hvalue, hcount] at hclose
  exact_mod_cast hclose

end KeypadCalculator
