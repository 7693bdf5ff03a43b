import KeypadCalculator.Expression.Chain
import KeypadCalculator.Proofs.Expression.Scanning
import Mathlib.Data.List.Forall2

/-!
# Evaluation follows precedence

On the tokens of a chain, the two scans fold a structure: the first folds every term, in order, and
the second folds the chain of what came out. The operation that is folded may fail, and the first
failure of this order is the failure of the whole.

What can be said of all operations at once is said of the fold: two operations that keep two kinds
of operands in a relation keep their results in it, and fail together with one error. If they put
their results in a stronger relation, then so does the fold of a chain with an operator. Later files
choose the relations.

* `Chain.byPrecedenceM`: the fold under standard precedence of an operation that may fail.
* `reduceProducts_tokens`, `reduceSums_tokens`: on the tokens of a chain, each pass is a fold.
* `Chain.foldTermsM_append_of_not_isMultiplicative`, `Chain.foldTermsM_append_of_isMultiplicative`:
  the fold of the terms, cut in two.
* `evaluate_tokens`: evaluating the tokens of a chain is that fold, over the operation on texts.
* `Chain.byPrecedenceM_ok`: where nothing fails, it is the fold of the chain's terms.
* `Chain.byPrecedenceM_sharpens`, `Chain.byPrecedenceM_related`: two folds side by side.
* `Chain.exists_of_byPrecedenceM_eq_ok`: the result of a chain with an operator comes out of an
  operation.
* `exists_evaluate_tokens_of_related`: an evaluation in which no operation fails, beside a fold of
  values.
-/

namespace KeypadCalculator

namespace Chain

variable {α β ε : Type}

/-! ## Folds of operations that may fail -/

/-- Combines the operands from left to right, as long as nothing fails. -/
def foldM (f : Operator → α → α → Except ε α) (chain : Chain α) : Except ε α :=
  chain.rest.foldlM (fun value link => f link.1 value link.2) chain.first

/-- Combines the operands of each term of a chain that starts with `first`, as long as nothing
fails, and gives the chain of the results. -/
def foldTermsM (f : Operator → α → α → Except ε α) (first : α) :
    List (Operator × α) → Except ε (Chain α)
  | [] => .ok { first }
  | (op, operand) :: rest =>
    if op.isMultiplicative then do
      let value ← f op first operand
      foldTermsM f value rest
    else do
      let following ← foldTermsM f operand rest
      return { first, rest := (op, following.first) :: following.rest }

/-- Combines the operands of each term, and then the terms, as long as nothing fails. -/
def byPrecedenceM (f : Operator → α → α → Except ε α) (chain : Chain α) : Except ε α := do
  let sums ← foldTermsM f chain.first chain.rest
  sums.foldM f

variable {f : Operator → α → α → Except ε α} {first operand : α} {rest : List (Operator × α)}
  {op : Operator}

/-- A `*` or `/` belongs to the first term. -/
theorem foldTermsM_cons_of_isMultiplicative (hop : op.isMultiplicative = true) :
    foldTermsM f first ((op, operand) :: rest) =
      (f op first operand).bind fun value => foldTermsM f value rest := by
  rw [foldTermsM, if_pos hop]
  rfl

/-- A `+` or `-` ends the first term. -/
theorem foldTermsM_cons_of_not_isMultiplicative (hop : op.isMultiplicative = false) :
    foldTermsM f first ((op, operand) :: rest) =
      (foldTermsM f operand rest).map fun following =>
        { first, rest := (op, following.first) :: following.rest } := by
  rw [foldTermsM, if_neg (Bool.eq_false_iff.mp hop)]
  cases foldTermsM f operand rest <;> rfl

/-- A fold combines the first two operands and goes on from there. -/
theorem foldM_cons (f : Operator → α → α → Except ε α) (first operand : α) (op : Operator)
    (rest : List (Operator × α)) :
    foldM f { first, rest := (op, operand) :: rest } =
      (f op first operand).bind fun value => foldM f { first := value, rest } :=
  rfl

/-- The terms are folded, and then the chain of what came out. -/
theorem byPrecedenceM_eq_bind (f : Operator → α → α → Except ε α) (chain : Chain α) :
    chain.byPrecedenceM f = (foldTermsM f chain.first chain.rest).bind (foldM f) :=
  rfl

/-- An operator that is neither `*` nor `/` parts the terms. -/
theorem foldTermsM_append_of_not_isMultiplicative {op : Operator}
    (hop : op.isMultiplicative = false) (first operand : α) (rest rest' : List (Operator × α)) :
    foldTermsM f first (rest ++ (op, operand) :: rest') =
      (foldTermsM f first rest).bind fun left =>
        (foldTermsM f operand rest').map fun right => left.join op right := by
  induction rest generalizing first with
  | nil =>
    rw [List.nil_append, foldTermsM_cons_of_not_isMultiplicative hop]
    rfl
  | cons link rest ih =>
    obtain ⟨op', operand'⟩ := link
    rw [List.cons_append]
    rcases hop' : op'.isMultiplicative with _ | _
    · rw [foldTermsM_cons_of_not_isMultiplicative hop',
        foldTermsM_cons_of_not_isMultiplicative hop', ih]
      rcases foldTermsM f operand' rest with e | left
      · rfl
      · rcases foldTermsM f operand rest' with e | right <;> rfl
    · rw [foldTermsM_cons_of_isMultiplicative hop', foldTermsM_cons_of_isMultiplicative hop']
      rcases f op' first operand' with e | value
      · rfl
      · exact ih value

/-- As long as there is nothing but `*` and `/`, there is one term. -/
theorem foldTermsM_append_of_isMultiplicative {rest : List (Operator × α)}
    (h : ∀ link ∈ rest, link.1.isMultiplicative = true) (first : α)
    (rest' : List (Operator × α)) :
    foldTermsM f first (rest ++ rest') =
      (foldM f { first, rest }).bind fun value => foldTermsM f value rest' := by
  induction rest generalizing first with
  | nil => rfl
  | cons link rest ih =>
    obtain ⟨op, operand⟩ := link
    have hop : op.isMultiplicative = true := h (op, operand) List.mem_cons_self
    rw [List.cons_append, foldTermsM_cons_of_isMultiplicative hop, foldM_cons]
    rcases f op first operand with e | value
    · rfl
    · exact ih (fun link hlink => h link (List.mem_cons_of_mem _ hlink)) value

/-! ## Where nothing fails -/

/-- The terms of a chain depend on its first operand only in the first operand of the first term. -/
theorem termsFrom_eq (first other : α) (rest : List (Operator × α)) :
    termsFrom first rest =
      { first := { first, rest := (termsFrom other rest).first.rest }
        rest := (termsFrom other rest).rest } := by
  cases rest with
  | nil => rfl
  | cons link rest =>
    obtain ⟨op, operand⟩ := link
    simp only [termsFrom]
    split <;> rfl

/-- Folding the terms with an operation that never fails. -/
theorem foldTermsM_ok (g : Operator → α → α → α) (first : α) (rest : List (Operator × α)) :
    foldTermsM (fun op left right => (.ok (g op left right) : Except ε α)) first rest =
      .ok ((termsFrom first rest).map (fold g)) := by
  induction rest generalizing first with
  | nil => rfl
  | cons link rest ih =>
    obtain ⟨op, operand⟩ := link
    cases hop : op.isMultiplicative with
    | true =>
      rw [foldTermsM_cons_of_isMultiplicative hop]
      show foldTermsM _ (g op first operand) rest = _
      rw [ih, termsFrom_eq (g op first operand) operand, termsFrom, if_pos hop,
        first_first_termsFrom]
      rfl
    | false =>
      rw [foldTermsM_cons_of_not_isMultiplicative hop, ih, termsFrom,
        if_neg (Bool.eq_false_iff.mp hop)]
      rfl

/-- Folding with an operation that never fails. -/
theorem foldM_ok (g : Operator → α → α → α) (chain : Chain α) :
    foldM (fun op left right => (.ok (g op left right) : Except ε α)) chain =
      .ok (chain.fold g) := by
  obtain ⟨first, rest⟩ := chain
  induction rest generalizing first with
  | nil => rfl
  | cons link rest ih => exact ih (g link.1 first link.2)

/-- Folding by precedence with an operation that never fails. -/
theorem byPrecedenceM_ok (g : Operator → α → α → α) (chain : Chain α) :
    chain.byPrecedenceM (fun op left right => (.ok (g op left right) : Except ε α)) =
      .ok (chain.byPrecedence g) := by
  rw [byPrecedenceM_eq_bind, foldTermsM_ok]
  exact foldM_ok g _

end Chain

/-! ## Two folds side by side -/

/-- Two computations that end alike: both with results that are in a relation, or both with one
error, of which something is known. -/
inductive SameOutcome {α β ε : Type} (E : ε → Prop) (R : α → β → Prop) :
    Except ε α → Except ε β → Prop where
  /-- Both succeed. -/
  | ok {a : α} {b : β} : R a b → SameOutcome E R (.ok a) (.ok b)
  /-- Both fail. -/
  | error {e : ε} : E e → SameOutcome E R (.error e) (.error e)

namespace SameOutcome

variable {α β γ δ ε : Type} {E : ε → Prop} {R : α → β → Prop} {S : γ → δ → Prop}
  {x : Except ε α} {y : Except ε β}

/-- A computation ends as it does. -/
theorem refl (x : Except ε α) : SameOutcome (fun _ => True) (fun a b => a = b ∧ x = .ok a) x x := by
  cases x with
  | error e => exact .error trivial
  | ok a => exact .ok ⟨rfl, rfl⟩

/-- What ends like a success succeeds. -/
theorem exists_ok {b : β} (h : SameOutcome E R x (.ok b)) : ∃ a, x = .ok a ∧ R a b := by
  cases h with
  | ok hab => exact ⟨_, rfl, hab⟩

/-- Of the error that both end with something is known. -/
theorem of_error {e : ε} (h : SameOutcome E R (.error e) y) : E e := by
  cases h with
  | error he => exact he

/-- Both end with the same error, if any. -/
theorem eq_error_iff (h : SameOutcome E R x y) {e : ε} : x = .error e ↔ y = .error e := by
  cases h with
  | ok hab => simp
  | error he => simp

/-- What follows ends alike if it does on related results. -/
theorem bind {f : α → Except ε γ} {g : β → Except ε δ} (h : SameOutcome E R x y)
    (hfg : ∀ a b, R a b → SameOutcome E S (f a) (g b)) :
    SameOutcome E S (x.bind f) (y.bind g) := by
  cases h with
  | ok hab => exact hfg _ _ hab
  | error he => exact .error he

/-- Images of related results are results that end alike if the images are related. -/
theorem map {f : α → γ} {g : β → δ} (h : SameOutcome E R x y)
    (hfg : ∀ a b, R a b → S (f a) (g b)) : SameOutcome E S (x.map f) (y.map g) := by
  cases h with
  | ok hab => exact .ok (hfg _ _ hab)
  | error he => exact .error he

/-- Two computations with one result, or with one error, are the same. -/
theorem eq {x y : Except ε α} (h : SameOutcome E Eq x y) : x = y := by
  cases h with
  | ok hab => rw [hab]
  | error he => rfl

/-- Two computations that end alike do so under a wider relation. -/
theorem imp {S : α → β → Prop} (h : SameOutcome E R x y) (hRS : ∀ a b, R a b → S a b) :
    SameOutcome E S x y := by
  cases h with
  | ok hab => exact .ok (hRS _ _ hab)
  | error he => exact .error he

end SameOutcome

namespace Chain

variable {α β ε : Type}

/-- Chains with the same operators whose operands are in relations: the first operands in one, and
each further pair in one that may depend on the operator in front of it. -/
structure Related (R : α → β → Prop) (L : Operator → α → β → Prop) (c : Chain α) (d : Chain β) :
    Prop where
  /-- The first operands are related. -/
  first : R c.first d.first
  /-- The operators agree, and the operands behind them are related. -/
  rest : List.Forall₂ (fun l m => l.1 = m.1 ∧ L l.1 l.2 m.2) c.rest d.rest

variable {E : ε → Prop} {R S : α → β → Prop} {L : Operator → α → β → Prop}
  {f : Operator → α → α → Except ε α} {g : Operator → β → β → Except ε β}

/-- A chain is related to its image under a function that its operands are related by. -/
theorem related_map_right {c : Chain α} {h : α → β} (hfirst : R c.first (h c.first))
    (hrest : ∀ link ∈ c.rest, L link.1 link.2 (h link.2)) : Related R L c (c.map h) := by
  refine ⟨hfirst, ?_⟩
  rw [map, List.forall₂_map_right_iff, List.forall₂_same]
  exact fun link hlink => ⟨rfl, hrest link hlink⟩

/-- A chain is related to itself if all of its operands are. -/
theorem related_self {R : α → α → Prop} {L : Operator → α → α → Prop} {c : Chain α}
    (hfirst : R c.first c.first) (hrest : ∀ link ∈ c.rest, L link.1 link.2 link.2) :
    Related R L c c :=
  ⟨hfirst, List.forall₂_same.mpr fun link hlink => ⟨rfl, hrest link hlink⟩⟩

/-- Two folds whose operations turn operands in a relation into results in a stronger one end alike,
with results in the stronger one. A fold of one operand alone has it for its result. -/
theorem foldM_sharpens (hS : ∀ a b, S a b → R a b)
    (hf : ∀ op a b x y, R a b → L op x y → SameOutcome E S (f op a x) (g op b y))
    {c : Chain α} {d : Chain β} (h : Related R L c d) (hfirst : S c.first d.first ∨ c.rest ≠ []) :
    SameOutcome E S (foldM f c) (foldM g d) := by
  obtain ⟨a, rest⟩ := c
  obtain ⟨b, rest'⟩ := d
  obtain ⟨hab, hrest⟩ := h
  simp only at hab hrest hfirst
  induction hrest generalizing a b with
  | nil => exact .ok (hfirst.resolve_right fun hne => hne rfl)
  | @cons l m rest rest' hlm _ ih =>
    obtain ⟨op, x⟩ := l
    obtain ⟨op', y⟩ := m
    obtain ⟨rfl, hxy⟩ : op = op' ∧ L op x y := hlm
    rw [foldM_cons, foldM_cons]
    -- after one operation the values at hand are in the stronger relation
    exact (hf op a b x y hab hxy).bind fun a b hab => ih a b (.inl hab) (hS a b hab)

/-- Two folds of terms end alike if the operations turn operands in a relation into results in a
stronger one. Between the terms there are the operators that are neither `*` nor `/`. If there is
one term only, it is an operand alone or the result of an operation. -/
theorem foldTermsM_sharpens (hS : ∀ a b, S a b → R a b) (hlink : ∀ op a b, L op a b → R a b)
    (hmul : ∀ op a b x y, op.isMultiplicative = true → R a b → L op x y →
      SameOutcome E S (f op a x) (g op b y))
    {a : α} {b : β} {rest : List (Operator × α)} {rest' : List (Operator × β)} (hab : R a b)
    (hrest : List.Forall₂ (fun l m => l.1 = m.1 ∧ L l.1 l.2 m.2) rest rest') :
    SameOutcome E
      (fun c d => Related R (fun op x y => op.isMultiplicative = false ∧ R x y) c d ∧
        (S a b ∨ rest ≠ [] → S c.first d.first ∨ c.rest ≠ []))
      (foldTermsM f a rest) (foldTermsM g b rest') := by
  induction hrest generalizing a b with
  | nil =>
    refine .ok ⟨⟨hab, .nil⟩, ?_⟩
    exact Or.imp_right fun hne => absurd rfl hne
  | @cons l m rest rest' hlm _ ih =>
    obtain ⟨op, x⟩ := l
    obtain ⟨op', y⟩ := m
    obtain ⟨rfl, hxy⟩ : op = op' ∧ L op x y := hlm
    cases hop : op.isMultiplicative with
    | true =>
      rw [foldTermsM_cons_of_isMultiplicative hop, foldTermsM_cons_of_isMultiplicative hop]
      apply (hmul op a b x y hop hab hxy).bind
      intro a b hab
      exact (ih (hS a b hab)).imp fun _ _ hsums => ⟨hsums.1, fun _ => hsums.2 (.inl hab)⟩
    | false =>
      rw [foldTermsM_cons_of_not_isMultiplicative hop, foldTermsM_cons_of_not_isMultiplicative hop]
      apply (ih (hlink op x y hxy)).map
      intro _ _ hsums
      -- the first term is an operand alone, but there is a second one now
      refine ⟨⟨hab, .cons ⟨rfl, hop, hsums.1.first⟩ hsums.1.rest⟩, fun _ => ?_⟩
      exact .inr (List.cons_ne_nil _ _)

/-- Two folds by precedence end alike if the operations turn operands in a relation into results in
a stronger one. The right operand of a `*` or `/` may be taken for one of the chain itself; all
other operands may have been computed. -/
theorem byPrecedenceM_sharpens (hS : ∀ a b, S a b → R a b) (hlink : ∀ op a b, L op a b → R a b)
    (hstep : ∀ op a b x y, R a b → R x y → (op.isMultiplicative = true → L op x y) →
      SameOutcome E S (f op a x) (g op b y))
    {c : Chain α} {d : Chain β} (h : Related R L c d) (hfirst : S c.first d.first ∨ c.rest ≠ []) :
    SameOutcome E S (c.byPrecedenceM f) (d.byPrecedenceM g) := by
  have hterms := foldTermsM_sharpens (f := f) (g := g) (E := E) hS hlink
    (fun op a b x y _ hab hxy => hstep op a b x y hab (hlink op x y hxy) fun _ => hxy)
    h.first h.rest
  rw [byPrecedenceM_eq_bind, byPrecedenceM_eq_bind]
  apply hterms.bind
  rintro sums sums' ⟨hsums, hsharp⟩
  apply foldM_sharpens hS _ hsums (hsharp hfirst)
  intro op a b x y hab hxy
  refine hstep op a b x y hab hxy.2 fun hop => ?_
  rw [hxy.1] at hop
  cases hop

/-- Two folds of terms whose operations keep a relation end alike. Between the results there are
the operators that are neither `*` nor `/`. -/
theorem foldTermsM_related (hlink : ∀ op a b, L op a b → R a b)
    (hmul : ∀ op a b x y, op.isMultiplicative = true → R a b → L op x y →
      SameOutcome E R (f op a x) (g op b y))
    {a : α} {b : β} {rest : List (Operator × α)} {rest' : List (Operator × β)} (hab : R a b)
    (hrest : List.Forall₂ (fun l m => l.1 = m.1 ∧ L l.1 l.2 m.2) rest rest') :
    SameOutcome E (Related R fun op x y => op.isMultiplicative = false ∧ R x y)
      (foldTermsM f a rest) (foldTermsM g b rest') :=
  (foldTermsM_sharpens (fun _ _ h => h) hlink hmul hab hrest).imp fun _ _ hsums => hsums.1

/-- Two folds by precedence end alike if the operations keep a relation. -/
theorem byPrecedenceM_related (hlink : ∀ op a b, L op a b → R a b)
    (hstep : ∀ op a b x y, R a b → R x y → (op.isMultiplicative = true → L op x y) →
      SameOutcome E R (f op a x) (g op b y))
    {c : Chain α} {d : Chain β} (h : Related R L c d) :
    SameOutcome E R (c.byPrecedenceM f) (d.byPrecedenceM g) :=
  byPrecedenceM_sharpens (fun _ _ h => h) hlink hstep h (.inl h.first)

/-! ## Where the result comes from -/

variable {first : α} {rest : List (Operator × α)}

/-- An operation beside itself: where operands are the same, so are the results, and they come out
of the operation. -/
theorem sameOutcome_step_self (f : Operator → α → α → Except ε α) (op : Operator) {a b x y : α}
    (hab : a = b) (hxy : x = y) :
    SameOutcome (fun _ => True) (fun a b => a = b ∧ ∃ op x y, f op x y = .ok a) (f op a x)
      (f op b y) := by
  subst hab hxy
  exact (SameOutcome.refl (f op a x)).imp fun _ _ h => ⟨h.1, op, a, x, h.2⟩

/-- The result of a fold with an operator comes out of an operation. -/
theorem exists_of_foldM_eq_ok {chain : Chain α} {value : α} (h : chain.foldM f = .ok value)
    (hrest : chain.rest ≠ []) : ∃ op a b, f op a b = .ok value := by
  have hself := foldM_sharpens (f := f) (R := Eq) (L := fun _ => Eq) (fun _ _ h => h.1)
    (fun op _ _ _ _ => sameOutcome_step_self f op) (related_self (c := chain) rfl fun _ _ => rfl)
    (.inr hrest)
  rw [h] at hself
  cases hself with
  | ok hvalue => exact hvalue.2

/-- Where there is an operator, either there are several terms, or the only one comes out of an
operation. -/
theorem exists_of_foldTermsM_eq_ok {sums : Chain α} (h : foldTermsM f first rest = .ok sums)
    (hrest : rest ≠ []) : (∃ op a b, f op a b = .ok sums.first) ∨ sums.rest ≠ [] := by
  have hsame : Related Eq (fun _ => Eq) { first, rest } { first, rest } :=
    related_self rfl fun _ _ => rfl
  have hself := foldTermsM_sharpens (f := f) (R := Eq) (L := fun _ => Eq) (fun _ _ h => h.1)
    (fun _ _ _ h => h) (fun op _ _ _ _ _ => sameOutcome_step_self f op) (Eq.refl first) hsame.rest
  rw [h] at hself
  cases hself with
  | ok hsums => exact (hsums.2 (.inr hrest)).imp_left And.right

/-- The result of a chain with an operator comes out of an operation. -/
theorem exists_of_byPrecedenceM_eq_ok {chain : Chain α} {value : α}
    (h : chain.byPrecedenceM f = .ok value) (hrest : chain.rest ≠ []) :
    ∃ op a b, f op a b = .ok value := by
  rw [byPrecedenceM_eq_bind] at h
  obtain ⟨⟨first, rest⟩, hsums, h⟩ := exists_of_bind_eq_ok h
  by_cases hnil : rest = []
  · subst hnil
    obtain rfl : first = value := Except.ok.inj h
    exact (exists_of_foldTermsM_eq_ok hsums hrest).resolve_right fun hne => hne rfl
  · exact exists_of_foldM_eq_ok h hnil

end Chain

/-! ## Evaluating the tokens of a chain -/

section tokens

open Chain

variable {scale : Scale} {decimals : Nat}

/-- The scan for products, with a number at hand and the rest of a chain to read, folds the
terms. -/
theorem scanProductsFrom_linkTokens (done : List Token) (first : String)
    (rest : List (Operator × String)) :
    scanProductsFrom scale decimals (.number first :: done) (linkTokens rest) =
      (foldTermsM (combineTexts scale decimals) first rest).map fun sums =>
        done.reverse ++ sums.tokens := by
  induction rest generalizing done first with
  | nil =>
    show scanProductsFrom scale decimals (.number first :: done) [] = _
    rw [scanProductsFrom, List.reverse_cons]
    rfl
  | cons link rest ih =>
    obtain ⟨op, operand⟩ := link
    show scanProductsFrom scale decimals (.number first :: done)
      (.operator op :: .number operand :: linkTokens rest) = _
    rw [scanProductsFrom]
    cases hop : op.isMultiplicative with
    | true =>
      rw [if_pos rfl, foldTermsM_cons_of_isMultiplicative hop, combine_number]
      cases combineTexts scale decimals op first operand with
      | error e => rfl
      | ok value => exact ih done value
    | false =>
      rw [if_neg Bool.false_ne_true, foldTermsM_cons_of_not_isMultiplicative hop,
        scanProductsFrom, ih]
      cases foldTermsM (combineTexts scale decimals) operand rest with
      | error e => rfl
      | ok following =>
        show Except.ok _ = Except.ok _
        simp [tokens, linkTokens]
      all_goals simp

/-- The scan for sums, with a number at hand and the rest of a chain to read, is a fold. -/
theorem scanSumsFrom_linkTokens (first : String) (rest : List (Operator × String)) :
    scanSumsFrom scale decimals (.number first) (linkTokens rest) =
      foldM (combineTexts scale decimals) { first, rest } := by
  induction rest generalizing first with
  | nil => rfl
  | cons link rest ih =>
    obtain ⟨op, operand⟩ := link
    show scanSumsFrom scale decimals (.number first)
      (.operator op :: .number operand :: linkTokens rest) = _
    rw [scanSumsFrom, foldM_cons, combine_number]
    cases combineTexts scale decimals op first operand with
    | error e => rfl
    | ok value => exact ih value

/-- The first pass over the tokens of a chain folds the terms. -/
theorem reduceProducts_tokens (scale : Scale) (decimals : Nat) (chain : Chain String) :
    reduceProducts scale decimals chain.tokens =
      (foldTermsM (combineTexts scale decimals) chain.first chain.rest).map Chain.tokens := by
  rw [reduceProducts_eq_scanProducts]
  show scanProductsFrom scale decimals [] (.number chain.first :: linkTokens chain.rest) = _
  rw [scanProductsFrom, scanProductsFrom_linkTokens]
  · rfl
  all_goals simp

/-- The second pass over the tokens of a chain is a fold. -/
theorem reduceSums_tokens (scale : Scale) (decimals : Nat) (chain : Chain String) :
    reduceSums scale decimals chain.tokens = foldM (combineTexts scale decimals) chain :=
  (reduceSums_eq_scanSums _).trans (scanSumsFrom_linkTokens chain.first chain.rest)

/-- Evaluating the tokens of a chain folds the operation on texts by precedence. -/
theorem evaluate_tokens (scale : Scale) (decimals : Nat) (chain : Chain String) :
    evaluate scale decimals chain.tokens = chain.byPrecedenceM (combineTexts scale decimals) := by
  show (reduceProducts scale decimals chain.tokens).bind (reduceSums scale decimals) = _
  rw [reduceProducts_tokens, byPrecedenceM_eq_bind]
  cases foldTermsM (combineTexts scale decimals) chain.first chain.rest with
  | error e => rfl
  | ok sums => exact reduceSums_tokens scale decimals sums

/-- Where no operation on related operands fails, the evaluation gives a text that is related to the
fold of the values that the operands are related to. -/
theorem exists_evaluate_tokens_of_related {α : Type} {R : String → α → Prop}
    {L : Operator → String → α → Prop} {g : Operator → α → α → α}
    (hlink : ∀ op text a, L op text a → R text a)
    (hstep : ∀ op left a right b, R left a → R right b →
      (op.isMultiplicative = true → L op right b) →
      SameOutcome (fun _ => False) R (combineTexts scale decimals op left right) (.ok (g op a b)))
    {chain : Chain String} {values : Chain α} (h : Related R L chain values) :
    ∃ text, evaluate scale decimals chain.tokens = .ok text ∧ R text (values.byPrecedence g) := by
  have houtcome := byPrecedenceM_related (g := fun op a b => .ok (g op a b)) hlink hstep h
  rw [byPrecedenceM_ok, ← evaluate_tokens] at houtcome
  exact houtcome.exists_ok

end tokens

end KeypadCalculator
