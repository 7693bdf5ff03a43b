import KeypadCalculator.Proofs.Expression.Value

/-!
# Which token sequences have a value

A reduction never mends a token sequence that is out of order: three tokens that it replaces by one
stand where the one stands, so what comes out alternates between numbers and operators only if what
went in did. And a divisor is always a token as it was given, because the first pass works from left
to right and the second does not divide. Whether an evaluation succeeds can therefore be read off
the tokens, and so can the error if a well-formed sequence has no value; the number of decimals has
no part in either.

* `Chain.isSome_reduced`: reducing keeps the shape, in both directions.
* `Chain.exists_eq_tokens_of_evaluate_eq_ok`: only chains have a value.
* `Chain.isSound_of_evaluate_eq_ok`, `Chain.IsSound.exists_evaluate_eq_ok`: which chains have one.
* `Chain.evaluate_tokens_sameOutcome`: two numbers of decimals.
* `exists_evaluate_eq_ok_iff`: all of it.
-/

namespace KeypadCalculator

namespace Chain

variable {scale : Scale} {decimals : Nat}

/-! ## The shape is not mended -/

/-- Links from an operator on are the operator in front of a chain. -/
theorem links?_cons_operator (op : Operator) (tokens : List Token) :
    links? (.operator op :: tokens) =
      (ofTokens? tokens).map fun chain => (op, chain.first) :: chain.rest := by
  cases tokens with
  | nil => rfl
  | cons token tokens =>
    cases token with
    | number text =>
      show (links? tokens).map _ = ((links? tokens).map _).map _
      rw [Option.map_map]
      rfl
    | operator _ => rfl
    | equals => rfl

/-- Behind an operator there has to be a chain. -/
theorem isSome_links?_cons_operator (op : Operator) (tokens : List Token) :
    (links? (.operator op :: tokens)).isSome = (ofTokens? tokens).isSome := by
  rw [links?_cons_operator, Option.isSome_map]

/-- Behind a number there have to be links. -/
theorem isSome_ofTokens?_cons_number (text : String) (tokens : List Token) :
    (ofTokens? (.number text :: tokens)).isSome = (links? tokens).isSome := by
  rw [ofTokens?, Option.isSome_map]

/-- A number in the place of two numbers with an operator in between makes a chain out of a chain
and out of nothing else, and likewise for what follows a number. -/
theorem isSome_reduced (before after : List Token) (op : Operator) (left right text : String) :
    (ofTokens? (before ++ .number left :: .operator op :: .number right :: after)).isSome =
        (ofTokens? (before ++ .number text :: after)).isSome ∧
      (links? (before ++ .number left :: .operator op :: .number right :: after)).isSome =
        (links? (before ++ .number text :: after)).isSome := by
  induction before with
  | nil =>
    refine ⟨?_, rfl⟩
    simp only [List.nil_append, isSome_ofTokens?_cons_number, isSome_links?_cons_operator]
  | cons token before ih =>
    cases token with
    | number first =>
      refine ⟨?_, rfl⟩
      simp only [List.cons_append, isSome_ofTokens?_cons_number]
      exact ih.2
    | operator op' =>
      refine ⟨rfl, ?_⟩
      simp only [List.cons_append, isSome_links?_cons_operator]
      exact ih.1
    | equals => exact ⟨rfl, rfl⟩

/-- If the scan for products gives a chain, it was given one. -/
theorem isSome_ofTokens?_of_scanProductsFrom {done tokens out : List Token}
    (h : scanProductsFrom scale decimals done tokens = .ok out)
    (hout : (ofTokens? out).isSome = true) :
    (ofTokens? (done.reverse ++ tokens)).isSome = true := by
  induction done, tokens using scanProductsFrom_induction with
  | finished done =>
    rw [scanProductsFrom] at h
    cases h
    rwa [List.append_nil]
  | passed done token rest htoken ih =>
    rw [scanProductsFrom_cons_of_not_isMultiplicative htoken] at h
    rw [reverse_append_cons]
    exact ih h
  | absent done op rest hop habsent =>
    rw [scanProductsFrom_of_absent hop habsent] at h
    cases h
  | product left done op right rest hop ih =>
    rw [scanProductsFrom_cons_cons hop] at h
    obtain ⟨result, hresult, h⟩ := exists_of_bind_eq_ok h
    obtain ⟨a, b, text, rfl, rfl, rfl, -⟩ := exists_of_combine hresult
    have hreduced := ih (.number text) h
    rw [← reverse_append_cons] at hreduced ⊢
    rw [(isSome_reduced done.reverse rest op a b text).1, hreduced]

/-- If the scan for sums gives a number, it was given a chain. -/
theorem isSome_ofTokens?_of_scanSumsFrom {sum : Token} {tokens : List Token} {text : String}
    (h : scanSumsFrom scale decimals sum tokens = .ok text) :
    (ofTokens? (sum :: tokens)).isSome = true := by
  fun_induction scanSumsFrom scale decimals sum tokens with
  | case1 text => rfl
  | case2 other hno => cases h
  | case3 sum op right rest ih =>
    obtain ⟨result, hresult, h⟩ := exists_of_bind_eq_ok h
    obtain ⟨a, b, text, rfl, rfl, rfl, -⟩ := exists_of_combine hresult
    exact (isSome_reduced [] rest op a b text).1.trans (ih (.number text) h)
  | case4 sum op => cases h
  | case5 sum other rest hno hno' => cases h

/-- Only chains have a value. -/
theorem exists_eq_tokens_of_evaluate_eq_ok {tokens : List Token} {text : String}
    (h : evaluate scale decimals tokens = .ok text) :
    ∃ chain : Chain String, tokens = chain.tokens := by
  rw [evaluate_eq_scan, scan] at h
  obtain ⟨sums, hsums, h⟩ := exists_of_bind_eq_ok h
  have hchain : (ofTokens? sums).isSome = true := by
    cases sums with
    | nil => cases h
    | cons first rest => exact isSome_ofTokens?_of_scanSumsFrom h
  have hsome := isSome_ofTokens?_of_scanProductsFrom hsums hchain
  obtain ⟨chain, hchain⟩ := Option.isSome_iff_exists.mp hsome
  exact ⟨chain, ofTokens?_eq_some_iff.mp hchain⟩

/-! ## Which chains have a value -/

/-- The terms can be folded only if every operand next to a `*` or `/` can be read and no divisor is
zero. If the operands of what comes out can be read, so can all others. -/
theorem isReadable_of_foldTermsM_eq_ok {first : String} {rest : List (Operator × String)}
    {sums : Chain String} (h : foldTermsM (combineTexts scale decimals) first rest = .ok sums)
    (hsums : ∀ text ∈ sums.operands, IsReadable scale text) :
    IsReadable scale first ∧ ∀ link ∈ rest, IsReadable scale link.2 ∧
      (link.1 = .divide → Numeral.read? scale link.2 ≠ some 0) := by
  induction rest generalizing first sums with
  | nil =>
    cases h
    exact ⟨hsums first List.mem_cons_self, by simp⟩
  | cons link rest ih =>
    obtain ⟨op, operand⟩ := link
    cases hop : op.isMultiplicative with
    | true =>
      rw [foldTermsM_cons_of_isMultiplicative hop] at h
      obtain ⟨value, hvalue, h⟩ := exists_of_bind_eq_ok h
      obtain ⟨-, hrest⟩ := ih h hsums
      obtain ⟨a, b, hfirst, hoperand, hzero, -⟩ := exists_of_combineTexts_eq_ok hvalue
      refine ⟨isReadable_of_read? hfirst, List.forall_mem_cons.mpr ⟨⟨?_, ?_⟩, hrest⟩⟩
      · exact isReadable_of_read? hoperand
      · intro hdivide hread
        exact hzero hdivide (Option.some.inj (hoperand.symm.trans hread))
    | false =>
      rw [foldTermsM_cons_of_not_isMultiplicative hop] at h
      obtain ⟨following, hfollowing, rfl⟩ := exists_of_map_eq_ok h
      have hfirst : IsReadable scale first := hsums first List.mem_cons_self
      obtain ⟨hoperand, hrest⟩ := ih hfollowing fun text htext =>
        hsums text (List.mem_cons_of_mem _ htext)
      refine ⟨hfirst, List.forall_mem_cons.mpr ⟨⟨hoperand, ?_⟩, hrest⟩⟩
      rintro rfl
      cases hop

/-- More than one text can be folded only if all of them can be read. -/
theorem isReadable_of_foldM_eq_ok {chain : Chain String} {text : String}
    (h : foldM (combineTexts scale decimals) chain = .ok text) (hrest : chain.rest ≠ []) :
    ∀ operand ∈ chain.operands, IsReadable scale operand := by
  obtain ⟨first, rest⟩ := chain
  induction rest generalizing first with
  | nil => exact absurd rfl hrest
  | cons link rest ih =>
    obtain ⟨op, operand⟩ := link
    rw [foldM_cons] at h
    obtain ⟨value, hvalue, h⟩ := exists_of_bind_eq_ok h
    obtain ⟨a, b, hfirst, hoperand, -, -⟩ := exists_of_combineTexts_eq_ok hvalue
    have hothers : ∀ text ∈ rest.map Prod.snd, IsReadable scale text := by
      intro text htext
      cases rest with
      | nil => cases htext
      | cons link rest =>
        exact ih value h (List.cons_ne_nil _ _) text (List.mem_cons_of_mem _ htext)
    refine List.forall_mem_cons.mpr ⟨isReadable_of_read? hfirst, ?_⟩
    exact List.forall_mem_cons.mpr ⟨isReadable_of_read? hoperand, hothers⟩

/-- A chain of texts can be evaluated as far as reading goes: every operand can be read, and no
divisor is zero. -/
structure IsSound (scale : Scale) (chain : Chain String) : Prop where
  /-- Every operand can be read. -/
  isReadable : ∀ text ∈ chain.operands, IsReadable scale text
  /-- No divisor is zero. -/
  divisor_ne_zero : ∀ text ∈ chain.divisors, Numeral.read? scale text ≠ some 0

/-- The divisors are the operands of the links with `/`. -/
theorem mem_divisors_iff {α : Type} {chain : Chain α} {operand : α} :
    operand ∈ chain.divisors ↔ (Operator.divide, operand) ∈ chain.rest := by
  simp [divisors]

/-- A chain with an operator has a value only if it is sound. -/
theorem isSound_of_evaluate_eq_ok {chain : Chain String} {text : String}
    (h : evaluate scale decimals chain.tokens = .ok text) (hrest : chain.rest ≠ []) :
    chain.IsSound scale := by
  rw [evaluate_tokens, byPrecedenceM_eq_bind] at h
  obtain ⟨sums, hsums, h⟩ := exists_of_bind_eq_ok h
  have hreadable : ∀ operand ∈ sums.operands, IsReadable scale operand := by
    by_cases hsingle : sums.rest = []
    · -- a single term with an operator is the result of an operation
      obtain ⟨sum, _⟩ := sums
      subst hsingle
      obtain ⟨op, a, b, hresult⟩ :=
        (exists_of_foldTermsM_eq_ok hsums hrest).resolve_right fun hne => hne rfl
      intro operand hoperand
      obtain rfl := List.mem_singleton.mp hoperand
      exact isReadable_of_combineTexts_eq_ok hresult
    · exact isReadable_of_foldM_eq_ok h hsingle
  obtain ⟨hfirst, hlinks⟩ := isReadable_of_foldTermsM_eq_ok hsums hreadable
  refine ⟨List.forall_mem_cons.mpr ⟨hfirst, ?_⟩, ?_⟩
  · intro operand hoperand
    obtain ⟨link, hlink, rfl⟩ := List.mem_map.mp hoperand
    exact (hlinks link hlink).1
  · intro operand hoperand
    exact (hlinks _ (mem_divisors_iff.mp hoperand)).2 rfl

/-- A sound chain has a value: over texts of which nothing is known but that they can be read, no
operation fails. -/
theorem IsSound.exists_evaluate_eq_ok {chain : Chain String} (h : chain.IsSound scale)
    (decimals : Nat) : ∃ text, evaluate scale decimals chain.tokens = .ok text := by
  have hstep : ∀ (op : Operator) (left right : String), IsReadable scale left →
      IsReadable scale right → (op = .divide → Numeral.read? scale right ≠ some 0) →
      SameOutcome (fun _ => False) (fun text (_ : Unit) => IsReadable scale text)
        (combineTexts scale decimals op left right) (.ok ()) := by
    intro op left right hleft hright hzero
    obtain ⟨a, ha⟩ := hleft.exists_read?
    obtain ⟨b, hb⟩ := hright.exists_read?
    have hne : op = .divide → b ≠ 0 := by
      rintro hop rfl
      exact hzero hop hb
    rw [combineTexts_of_read? ha hb hne]
    exact .ok (isReadable_write scale decimals _)
  have hrelated : Related (fun text (_ : Unit) => IsReadable scale text)
      (fun op text _ => IsReadable scale text ∧
        (op = .divide → Numeral.read? scale text ≠ some 0)) chain (chain.map fun _ => ()) := by
    refine related_map_right (h.isReadable _ List.mem_cons_self) ?_
    rintro ⟨op, operand⟩ hlink
    refine ⟨h.isReadable _ (List.mem_cons_of_mem _ (List.mem_map.mpr ⟨_, hlink, rfl⟩)), ?_⟩
    rintro rfl
    exact h.divisor_ne_zero _ (mem_divisors_iff.mpr hlink)
  obtain ⟨text, htext, -⟩ := exists_evaluate_tokens_of_related (g := fun _ _ _ => ())
    (fun _ _ _ hlink => hlink.1) (fun op left _ right _ hleft hright hlink =>
      hstep op left right hleft hright fun hdivide => (hlink (hdivide ▸ rfl)).2 hdivide) hrelated
  exact ⟨text, htext⟩

/-! ## Two numbers of decimals -/

/-- Why an operation on the texts `given`, and on what is computed from them, can fail. -/
def IsFault (scale : Scale) (given : List String) (e : ExpressionError) : Prop :=
  e = .divisionByZero ∨ ∃ text ∈ given, ¬IsReadable scale text ∧ e = .unreadableOperand text

/-- Two texts that no operation tells apart by failing: both are the same text of `given`, or both
can be read. -/
def FailAlike (scale : Scale) (given : List String) (text other : String) : Prop :=
  text = other ∧ text ∈ given ∨ IsReadable scale text ∧ IsReadable scale other

section

variable {given : List String} {text other : String}

/-- Of two texts that fail alike, both can be read or none. -/
theorem FailAlike.isReadable_iff (h : FailAlike scale given text other) :
    IsReadable scale text ↔ IsReadable scale other := by
  rcases h with ⟨rfl, -⟩ | ⟨htext, hother⟩
  · rfl
  · exact iff_of_true htext hother

/-- Of two texts that fail alike, one that cannot be read is the other, and it was given. -/
theorem FailAlike.eq_of_not_isReadable (h : FailAlike scale given text other)
    (hnot : ¬IsReadable scale text) : text = other ∧ text ∈ given := by
  rcases h with hsame | ⟨htext, -⟩
  · exact hsame
  · exact absurd htext hnot

/-- An operation on texts that fail alike ends alike, whatever the numbers of decimals. Divisors
have to be the same, since one that can be read may be zero. -/
theorem FailAlike.combineTexts {op : Operator} {left left' right right' : String}
    (decimals decimals' : Nat) (hleft : FailAlike scale given left left')
    (hright : FailAlike scale given right right') (hdivide : op = .divide → right = right') :
    SameOutcome (IsFault scale given) (FailAlike scale given)
      (combineTexts scale decimals op left right)
      (combineTexts scale decimals' op left' right') := by
  by_cases hl : IsReadable scale left
  · have hl' := hleft.isReadable_iff.mp hl
    by_cases hr : IsReadable scale right
    · have hr' := hright.isReadable_iff.mp hr
      by_cases hzero : op = .divide ∧ Numeral.read? scale right = some 0
      · obtain ⟨rfl, hread⟩ := hzero
        obtain rfl := hdivide rfl
        rw [combineTexts_of_divisor_eq_zero hl hread, combineTexts_of_divisor_eq_zero hl' hread]
        exact .error (.inl rfl)
      · obtain ⟨a, ha⟩ := hl.exists_read?
        obtain ⟨a', ha'⟩ := hl'.exists_read?
        obtain ⟨b, hb⟩ := hr.exists_read?
        obtain ⟨b', hb'⟩ := hr'.exists_read?
        have hne : op = .divide → b ≠ 0 := by
          rintro hop rfl
          exact hzero ⟨hop, hb⟩
        have hne' : op = .divide → b' ≠ 0 := by
          intro hop
          obtain rfl := hdivide hop
          rw [← Option.some.inj (hb.symm.trans hb')]
          exact hne hop
        rw [combineTexts_of_read? ha hb hne, combineTexts_of_read? ha' hb' hne']
        exact .ok (.inr ⟨isReadable_write scale _ _, isReadable_write scale _ _⟩)
    · obtain ⟨rfl, hmem⟩ := hright.eq_of_not_isReadable hr
      rw [combineTexts_of_not_isReadable_right hl hr, combineTexts_of_not_isReadable_right hl' hr]
      exact .error (.inr ⟨right, hmem, hr, rfl⟩)
  · obtain ⟨rfl, hmem⟩ := hleft.eq_of_not_isReadable hl
    rw [combineTexts_of_not_isReadable_left hl, combineTexts_of_not_isReadable_left hl]
    exact .error (.inr ⟨left, hmem, hl, rfl⟩)

end

/-- Whatever the number of decimals, a chain has a value or has none, and then for the same reason:
a divisor of value zero, or an operand of the chain itself that cannot be read. -/
theorem evaluate_tokens_sameOutcome (scale : Scale) (decimals decimals' : Nat)
    (chain : Chain String) :
    SameOutcome (IsFault scale chain.operands) (FailAlike scale chain.operands)
      (evaluate scale decimals chain.tokens) (evaluate scale decimals' chain.tokens) := by
  rw [evaluate_tokens, evaluate_tokens]
  refine byPrecedenceM_related
    (L := fun _ text other => text = other ∧ text ∈ chain.operands) ?_ ?_ ?_
  · exact fun _ _ _ hsame => .inl hsame
  · intro op left left' right right' hleft hright hlink
    apply hleft.combineTexts decimals decimals' hright
    intro hdivide
    exact (hlink (hdivide ▸ rfl)).1
  · refine related_self (.inl ⟨rfl, List.mem_cons_self⟩) fun link hlink => ⟨rfl, ?_⟩
    exact List.mem_cons_of_mem _ (List.mem_map.mpr ⟨link, hlink, rfl⟩)

/-- Why a chain has no value. -/
theorem isFault_of_evaluate_eq_error {chain : Chain String} {e : ExpressionError}
    (h : evaluate scale decimals chain.tokens = .error e) : IsFault scale chain.operands e :=
  (h ▸ evaluate_tokens_sameOutcome scale decimals decimals chain).of_error

end Chain

/-- A token sequence has a value exactly if it is a chain that is a single number or is sound.
Whether it has one does not depend on the number of decimals, and neither does the error of a chain
that has none. -/
theorem exists_evaluate_eq_ok_iff (scale : Scale) (decimals decimals' : Nat) (tokens : List Token) :
    ((∃ text, evaluate scale decimals tokens = .ok text) ↔
      ∃ chain : Chain String, tokens = chain.tokens ∧ (chain.rest = [] ∨ chain.IsSound scale)) ∧
    ((∃ text, evaluate scale decimals tokens = .ok text) ↔
      ∃ text, evaluate scale decimals' tokens = .ok text) ∧
    ∀ (chain : Chain String) (e : ExpressionError),
      evaluate scale decimals chain.tokens = .error e ↔
        evaluate scale decimals' chain.tokens = .error e := by
  have hiff : ∀ decimals, (∃ text, evaluate scale decimals tokens = .ok text) ↔
      ∃ chain : Chain String, tokens = chain.tokens ∧
        (chain.rest = [] ∨ chain.IsSound scale) := by
    intro decimals
    constructor
    · rintro ⟨text, h⟩
      obtain ⟨chain, rfl⟩ := Chain.exists_eq_tokens_of_evaluate_eq_ok h
      by_cases hrest : chain.rest = []
      · exact ⟨chain, rfl, .inl hrest⟩
      · exact ⟨chain, rfl, .inr (Chain.isSound_of_evaluate_eq_ok h hrest)⟩
    · rintro ⟨⟨first, rest⟩, rfl, hrest | hsound⟩
      · subst hrest
        exact ⟨first, evaluate_tokens scale decimals { first }⟩
      · exact hsound.exists_evaluate_eq_ok decimals
  refine ⟨hiff decimals, (hiff decimals).trans (hiff decimals').symm, fun chain e => ?_⟩
  exact (Chain.evaluate_tokens_sameOutcome scale decimals decimals' chain).eq_error_iff

end KeypadCalculator
