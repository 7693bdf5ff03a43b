import KeypadCalculator.Token

/-!
# Chains: operands with operators in between

A chain is a first operand and a list of further ones, each behind an operator. It is the shape of
every well-formed expression, and its operands may be anything: texts as they were typed, the
values that the texts denote, or chains again.

Standard precedence is a matter of shape alone. `Chain.terms` splits a chain at its `+` and `-` into
a chain of chains, each of which has only `*` and `/`; folding the inner chains and then the outer
one from left to right, `Chain.byPrecedence`, is the value under standard precedence of whatever
operation is folded with.

* `Chain.tokens`, `Chain.ofTokens?`: a chain of texts as a token sequence, and back.
* `Chain.ofTokens?_eq_some_iff`: each token sequence is that of one chain at most.
* `Chain.join`, `Chain.tokens_join`: two chains with an operator between them.
* `Chain.not_isMultiplicative_of_mem_terms`, `Chain.isMultiplicative_of_mem_terms`: which operators
  end up outside and inside the terms.
-/

namespace KeypadCalculator

/-- Operands with operators in between. -/
structure Chain (α : Type) where
  /-- The first operand. -/
  first : α
  /-- Every further operand, with the operator in front of it. -/
  rest : List (Operator × α) := []
  deriving DecidableEq, Repr

namespace Chain

variable {α β : Type}

/-- All operands in order. -/
def operands (chain : Chain α) : List α :=
  chain.first :: chain.rest.map Prod.snd

/-- The operators in order. -/
def operators (chain : Chain α) : List Operator :=
  chain.rest.map Prod.fst

/-- The operands behind a `/`. -/
def divisors (chain : Chain α) : List α :=
  (chain.rest.filter fun link => link.1 = .divide).map Prod.snd

/-- Applies a function to every operand. -/
def map (f : α → β) (chain : Chain α) : Chain β where
  first := f chain.first
  rest := chain.rest.map fun link => (link.1, f link.2)

/-- The operands of an image are the images of the operands. -/
@[simp] theorem operands_map (f : α → β) (chain : Chain α) :
    (chain.map f).operands = chain.operands.map f := by
  simp [operands, map]

/-- A function of the operands leaves the operators alone. -/
@[simp] theorem operators_map (f : α → β) (chain : Chain α) :
    (chain.map f).operators = chain.operators := by
  simp [operators, map]

/-- Two chains with an operator between them. -/
def join (left : Chain α) (op : Operator) (right : Chain α) : Chain α where
  first := left.first
  rest := left.rest ++ (op, right.first) :: right.rest

/-- Combines the operands from left to right. -/
def fold (f : Operator → α → α → α) (chain : Chain α) : α :=
  chain.rest.foldl (fun value link => f link.1 value link.2) chain.first

/-! ## Terms -/

/-- The terms of a chain that starts with `first`: every `+` and `-` starts a new one. -/
def termsFrom (first : α) : List (Operator × α) → Chain (Chain α)
  | [] => { first := { first } }
  | (op, operand) :: rest =>
    let following := termsFrom operand rest
    if op.isMultiplicative then
      { first := { first, rest := (op, following.first.first) :: following.first.rest }
        rest := following.rest }
    else
      { first := { first }, rest := (op, following.first) :: following.rest }

/-- Splits a chain at its `+` and `-`. -/
def terms (chain : Chain α) : Chain (Chain α) :=
  termsFrom chain.first chain.rest

/-- Combines the operands of each term, and then the terms. -/
def byPrecedence (f : Operator → α → α → α) (chain : Chain α) : α :=
  (chain.terms.map (fold f)).fold f

/-- The first term starts with the first operand. -/
@[simp] theorem first_first_termsFrom (first : α) (rest : List (Operator × α)) :
    (termsFrom first rest).first.first = first := by
  cases rest with
  | nil => rfl
  | cons link rest =>
    obtain ⟨op, operand⟩ := link
    simp only [termsFrom]
    split <;> rfl

/-- Between terms there is no `*` or `/`. -/
theorem not_isMultiplicative_of_mem_terms {first : α} {rest : List (Operator × α)} {op : Operator}
    (h : op ∈ (termsFrom first rest).operators) : op.isMultiplicative = false := by
  induction rest generalizing first with
  | nil => cases h
  | cons link rest ih =>
    obtain ⟨op', operand⟩ := link
    simp only [termsFrom] at h
    split at h
    · exact ih h
    · rename_i hop
      rcases List.mem_cons.mp h with rfl | h
      · simpa using hop
      · exact ih h

/-- Inside a term there is no `+` or `-`. -/
theorem isMultiplicative_of_mem_terms {first : α} {rest : List (Operator × α)} {term : Chain α}
    {op : Operator} (hterm : term ∈ (termsFrom first rest).operands) (h : op ∈ term.operators) :
    op.isMultiplicative = true := by
  induction rest generalizing first term with
  | nil =>
    obtain rfl := List.mem_singleton.mp hterm
    cases h
  | cons link rest ih =>
    obtain ⟨op', operand⟩ := link
    simp only [termsFrom] at hterm
    split at hterm
    · rename_i hop
      rcases List.mem_cons.mp hterm with rfl | hterm
      · rcases List.mem_cons.mp h with rfl | h
        · exact hop
        · exact ih (List.mem_cons_self) h
      · exact ih (List.mem_cons_of_mem _ hterm) h
    · rcases List.mem_cons.mp hterm with rfl | hterm
      · cases h
      · exact ih hterm h

/-! ## Token sequences -/

/-- The tokens of the operators and operands behind the first operand. -/
def linkTokens (rest : List (Operator × String)) : List Token :=
  rest.flatMap fun link => [.operator link.1, .number link.2]

/-- The tokens of a chain of texts. -/
def tokens (chain : Chain String) : List Token :=
  .number chain.first :: linkTokens chain.rest

/-- Reads operators and operands from tokens. -/
def links? : List Token → Option (List (Operator × String))
  | [] => some []
  | .operator op :: .number text :: rest => (links? rest).map ((op, text) :: ·)
  | _ => none

/-- The chain of which a token sequence consists; `none` if it is not well formed. -/
def ofTokens? : List Token → Option (Chain String)
  | .number first :: rest => (links? rest).map fun rest => { first, rest }
  | _ => none

/-- Links are read back from their tokens. -/
@[simp] theorem links?_linkTokens (rest : List (Operator × String)) :
    links? (linkTokens rest) = some rest := by
  induction rest with
  | nil => rfl
  | cons link rest ih =>
    show (links? (linkTokens rest)).map _ = _
    rw [ih]
    rfl

/-- A chain is read back from its tokens. -/
@[simp] theorem ofTokens?_tokens (chain : Chain String) : ofTokens? chain.tokens = some chain := by
  simp [ofTokens?, tokens]

/-- Tokens from which links are read are the tokens of those links. -/
theorem eq_linkTokens_of_links? {ts : List Token} {rest : List (Operator × String)}
    (h : links? ts = some rest) : ts = linkTokens rest := by
  fun_induction links? ts generalizing rest with
  | case1 =>
    obtain rfl := Option.some.inj h
    rfl
  | case2 op text ts ih =>
    obtain ⟨rest', hrest, rfl⟩ := Option.map_eq_some_iff.mp h
    rw [ih hrest]
    rfl
  | case3 => cases h

/-- A token sequence is read as a chain exactly if it is the token sequence of that chain. -/
theorem ofTokens?_eq_some_iff {ts : List Token} {chain : Chain String} :
    ofTokens? ts = some chain ↔ ts = chain.tokens := by
  constructor
  · intro h
    unfold ofTokens? at h
    split at h
    · obtain ⟨rest, hrest, rfl⟩ := Option.map_eq_some_iff.mp h
      rw [eq_linkTokens_of_links? hrest]
      rfl
    · cases h
  · rintro rfl
    exact ofTokens?_tokens chain

/-- Two chains with the same tokens are one chain. -/
theorem tokens_injective {c d : Chain String} (h : c.tokens = d.tokens) : c = d := by
  have := congrArg ofTokens? h
  simpa using this

/-- A chain has one token for its first operand and two for each further one. -/
@[simp] theorem length_tokens (chain : Chain String) :
    chain.tokens.length = 2 * chain.rest.length + 1 := by
  obtain ⟨first, rest⟩ := chain
  induction rest with
  | nil => rfl
  | cons link rest ih =>
    simp only [tokens, linkTokens, List.flatMap_cons, List.length_cons, List.length_append,
      List.length_nil] at ih ⊢
    omega

/-- The tokens of two joined chains are those of the one, the operator, and those of the other. -/
theorem tokens_join (left : Chain String) (op : Operator) (right : Chain String) :
    (left.join op right).tokens = left.tokens ++ .operator op :: right.tokens := by
  simp [join, tokens, linkTokens]

end Chain

end KeypadCalculator
