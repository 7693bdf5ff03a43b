import KeypadCalculator.Proofs.Expression.Precedence
import Mathlib.Data.List.SplitBy

/-!
# What the first pass leaves alone

The first pass takes the tokens apart and puts them together again at every `*` and `/`. Still it
works on each product alone: tokens are split into their longest runs that a `*` or `/` joins, and a
run of one token stays as it is, while any other run is a product and is replaced by its value. This
is so for every token sequence, well formed or not, on which the pass succeeds.

The pass is a scan, and a scan looks no further back than to the token that it is done with last. So
what stands on either side of two neighbours that no `*` or `/` joins is scanned apart.

* `Token.joins`, `productRuns`: the split of a token sequence.
* `Token.Replaces`: what the pass puts in the place of one run.
* `reduceProducts_append_of_parted`: the pass over two token sequences that no `*` or `/` joins.
* `exists_replaces_of_reduceProducts`, `reduceProducts_eq_ok_iff`: the pass over one run and over
  all.
* `untouched`, `reduceProducts_replaces_runs`: what becomes of the tokens.
-/

namespace KeypadCalculator

variable {scale : Scale} {decimals : Nat} {tokens out : List Token}

/-! ## Runs of tokens -/

/-- Whether one of two neighbours is a `*` or `/`, which joins it to the other. -/
def Token.joins (left right : Token) : Bool :=
  left.isMultiplicative || right.isMultiplicative

/-- Splits tokens into the longest runs that are joined by `*` and `/`. Every other token is a run
of its own. -/
def productRuns (tokens : List Token) : List (List Token) :=
  tokens.splitBy Token.joins

/-- The runs together are the tokens. -/
@[simp] theorem flatten_productRuns (tokens : List Token) : (productRuns tokens).flatten = tokens :=
  List.flatten_splitBy _ tokens

/-- What the first pass puts in the place of a run: the token itself if there is only one, and the
value of a product. -/
inductive Token.Replaces (scale : Scale) (decimals : Nat) : List Token → Token → Prop where
  /-- A token that is no `*` or `/`. -/
  | kept {token : Token} (h : token.isMultiplicative = false) :
    Replaces scale decimals [token] token
  /-- A chain of two numbers or more with nothing but `*` and `/` between them. They are combined
  from left to right, and every result is written before it is combined with the next number. -/
  | product {chain : Chain String} {r : Rat} (several : chain.rest ≠ [])
      (isMultiplicative : ∀ link ∈ chain.rest, link.1.isMultiplicative = true)
      (value : chain.foldM (combineTexts scale decimals) = .ok (Numeral.write scale decimals r)) :
      Replaces scale decimals chain.tokens (.number (Numeral.write scale decimals r))

/-! ## The pass over parted tokens -/

/-- Of what it is done with, the scan needs no more than the last token. -/
theorem scanProductsFrom_append_done {front : List Token} (hfront : front ≠ [])
    (done tokens : List Token) :
    scanProductsFrom scale decimals (front ++ done) tokens =
      (scanProductsFrom scale decimals front tokens).map (done.reverse ++ ·) := by
  induction front, tokens using scanProductsFrom_induction with
  | finished front =>
    rw [scanProductsFrom, scanProductsFrom, List.reverse_append]
    rfl
  | passed front token rest htoken ih =>
    rw [scanProductsFrom_cons_of_not_isMultiplicative htoken,
      scanProductsFrom_cons_of_not_isMultiplicative htoken]
    exact ih (List.cons_ne_nil _ _)
  | absent front op rest hop habsent =>
    have hrest := habsent.resolve_left hfront
    rw [scanProductsFrom_of_absent hop (.inr hrest), scanProductsFrom_of_absent hop (.inr hrest)]
    rfl
  | product left front op right rest hop ih =>
    rw [List.cons_append, scanProductsFrom_cons_cons hop, scanProductsFrom_cons_cons hop]
    rcases combine scale decimals op left right with e | result
    · rfl
    · exact ih result (List.cons_ne_nil _ _)

/-- The scan of a longer sequence goes on from the scan of its front, unless the front ends on a `*`
or `/`, which takes its right operand from what follows. -/
theorem scanProductsFrom_append {before : List Token} (done after : List Token)
    (h : ∀ token ∈ before.getLast?, token.isMultiplicative = false) :
    scanProductsFrom scale decimals done (before ++ after) =
      (scanProductsFrom scale decimals done before).bind fun out =>
        scanProductsFrom scale decimals out.reverse after := by
  induction done, before using scanProductsFrom_induction with
  | finished done =>
    rw [scanProductsFrom]
    show _ = scanProductsFrom scale decimals done.reverse.reverse after
    rw [List.reverse_reverse, List.nil_append]
  | passed done token rest htoken ih =>
    rw [List.cons_append, scanProductsFrom_cons_of_not_isMultiplicative htoken,
      scanProductsFrom_cons_of_not_isMultiplicative htoken]
    apply ih
    intro last hlast
    exact h last (List.mem_getLast?_cons hlast)
  | absent done op rest hop habsent =>
    rcases habsent with rfl | rfl
    · rw [List.cons_append, scanProductsFrom_of_absent hop (.inl rfl),
        scanProductsFrom_of_absent hop (.inl rfl)]
      rfl
    · -- the front ends on this operator
      have hnot : op.isMultiplicative = false := h (.operator op) rfl
      rw [hop] at hnot
      cases hnot
  | product left done op right rest hop ih =>
    rw [List.cons_append, List.cons_append, scanProductsFrom_cons_cons hop,
      scanProductsFrom_cons_cons hop]
    rcases combine scale decimals op left right with e | result
    · rfl
    · apply ih result
      intro last hlast
      exact h last (List.mem_getLast?_cons (List.mem_getLast?_cons hlast))

/-- The pass over two token sequences that no `*` or `/` joins is the pass over each. -/
theorem reduceProducts_append_of_parted {before after : List Token}
    (h : ∀ left ∈ before.getLast?, ∀ right ∈ after.head?, left.joins right = false) :
    reduceProducts scale decimals (before ++ after) =
      (reduceProducts scale decimals before).bind fun out =>
        (reduceProducts scale decimals after).map (out ++ ·) := by
  rcases List.eq_nil_or_concat' before with rfl | ⟨front, left, rfl⟩
  · rw [List.nil_append, reduceProducts_of_not_isMultiplicative (List.forall_mem_nil _)]
    rcases reduceProducts scale decimals after with e | out <;> rfl
  rcases after with _ | ⟨right, after⟩
  · rw [List.append_nil, reduceProducts_of_not_isMultiplicative (List.forall_mem_nil _)]
    rcases reduceProducts scale decimals (front ++ [left]) with e | out
    · rfl
    · exact congrArg Except.ok (List.append_nil out).symm
  have hnot := h left (by simp) right rfl
  rw [Token.joins, Bool.or_eq_false_iff] at hnot
  obtain ⟨hleft, hright⟩ := hnot
  have hlast : ∀ token ∈ (front ++ [left]).getLast?, token.isMultiplicative = false := by
    simpa using hleft
  simp only [reduceProducts_eq_scanProducts, scanProducts]
  rw [scanProductsFrom_append [] _ hlast]
  rcases scanProductsFrom scale decimals [] (front ++ [left]) with e | out
  · rfl
  · show scanProductsFrom scale decimals out.reverse (right :: after) =
      (scanProductsFrom scale decimals [] (right :: after)).map (out ++ ·)
    rw [scanProductsFrom_cons_of_not_isMultiplicative hright,
      scanProductsFrom_cons_of_not_isMultiplicative hright, ← List.singleton_append,
      scanProductsFrom_append_done (List.cons_ne_nil _ _), List.reverse_reverse]

/-! ## The pass over one run -/

/-- In a chain with nothing but `*` and `/`, the first pass combines all numbers. -/
theorem reduceProducts_tokens_of_isMultiplicative {chain : Chain String}
    (h : ∀ link ∈ chain.rest, link.1.isMultiplicative = true) :
    reduceProducts scale decimals chain.tokens =
      (chain.foldM (combineTexts scale decimals)).map fun text => [.number text] := by
  obtain ⟨first, rest⟩ := chain
  have hfold := Chain.foldTermsM_append_of_isMultiplicative (f := combineTexts scale decimals) h
    first []
  rw [List.append_nil] at hfold
  rw [reduceProducts_tokens, hfold]
  rcases Chain.foldM (combineTexts scale decimals) { first, rest } with e | text <;> rfl

/-- A run that the scan gets through is a single token, or a chain of numbers with nothing but `*`
and `/` between them. -/
theorem exists_chain_of_scanProductsFrom :
    ∀ {rest : List Token} {first : Token}, List.IsChain (Token.joins · ·) (first :: rest) →
      first.isMultiplicative = false → scanProductsFrom scale decimals [first] rest = .ok out →
      rest = [] ∨ ∃ chain : Chain String, chain.rest ≠ [] ∧
        (∀ link ∈ chain.rest, link.1.isMultiplicative = true) ∧ first :: rest = chain.tokens
  | [], _, _, _, _ => .inl rfl
  | token :: rest, first, hjoins, hfirst, h => by
    obtain ⟨hhead, hrest⟩ := List.isChain_cons_cons.mp hjoins
    rw [Token.joins, hfirst, Bool.false_or] at hhead
    cases token with
    | number _ => cases hhead
    | equals => cases hhead
    | operator op =>
      have hop : op.isMultiplicative = true := hhead
      rcases rest with _ | ⟨right, rest⟩
      · rw [scanProductsFrom_of_absent hop (.inr rfl)] at h
        cases h
      rw [scanProductsFrom_cons_cons hop] at h
      obtain ⟨result, hresult, h⟩ := exists_of_bind_eq_ok h
      obtain ⟨a, b, text, rfl, rfl, rfl, -⟩ := exists_of_combine hresult
      -- the result stands where the right operand stood, and joins what is behind it as that did
      have hresult : List.IsChain (Token.joins · ·) (.number text :: rest) :=
        List.isChain_cons.mpr (List.isChain_cons.mp (List.isChain_cons.mp hrest).2)
      refine .inr ?_
      rcases exists_chain_of_scanProductsFrom hresult rfl h with
        rfl | ⟨chain, -, hmul, htokens⟩
      · exact ⟨{ first := a, rest := [(op, b)] }, List.cons_ne_nil _ _,
          List.forall_mem_singleton.mpr hop, rfl⟩
      · obtain rfl := (List.cons.inj htokens).2
        exact ⟨{ first := a, rest := (op, b) :: chain.rest }, List.cons_ne_nil _ _,
          List.forall_mem_cons.mpr ⟨hop, hmul⟩, rfl⟩

/-- What the pass does to a token or a product. -/
theorem Token.Replaces.reduceProducts_eq {run : List Token} {token : Token}
    (h : Replaces scale decimals run token) : reduceProducts scale decimals run = .ok [token] := by
  cases h with
  | kept h => exact reduceProducts_of_not_isMultiplicative (List.forall_mem_singleton.mpr h)
  | product _ hmul value =>
    rw [reduceProducts_tokens_of_isMultiplicative hmul, value]
    rfl

/-- If the pass gets through a run, it leaves one token in its place. -/
theorem exists_replaces_of_reduceProducts {run : List Token} (hnil : run ≠ [])
    (hjoins : run.IsChain (Token.joins · ·)) (h : reduceProducts scale decimals run = .ok out) :
    ∃ token, out = [token] ∧ Token.Replaces scale decimals run token := by
  obtain ⟨first, rest, rfl⟩ := List.exists_cons_of_ne_nil hnil
  cases hfirst : first.isMultiplicative with
  | true =>
    cases first with
    | number _ => cases hfirst
    | equals => cases hfirst
    | operator op =>
      rw [reduceProducts_eq_scanProducts, scanProducts,
        scanProductsFrom_of_absent hfirst (.inl rfl)] at h
      cases h
  | false =>
    have hscan := h
    rw [reduceProducts_eq_scanProducts, scanProducts,
      scanProductsFrom_cons_of_not_isMultiplicative hfirst] at hscan
    rcases exists_chain_of_scanProductsFrom hjoins hfirst hscan with
      rfl | ⟨chain, several, hmul, htokens⟩
    · rw [scanProductsFrom] at hscan
      cases hscan
      exact ⟨first, rfl, .kept hfirst⟩
    · rw [htokens, reduceProducts_tokens_of_isMultiplicative hmul] at h
      obtain ⟨text, value, rfl⟩ := exists_of_map_eq_ok h
      obtain ⟨op, left, right, hcombine⟩ := Chain.exists_of_foldM_eq_ok value several
      obtain ⟨a, b, -, -, -, rfl⟩ := exists_of_combineTexts_eq_ok hcombine
      rw [htokens]
      exact ⟨_, rfl, .product several hmul value⟩

/-! ## The pass over all runs -/

/-- The pass over runs gets through exactly if it gets through each, and then it leaves one token
for each. -/
theorem reduceProducts_flatten_eq_ok_iff {runs : List (List Token)} (hnil : [] ∉ runs)
    (hjoins : ∀ run ∈ runs, run.IsChain (Token.joins · ·))
    (hparted : runs.IsChain fun run next =>
      ∃ hrun hnext, Token.joins (run.getLast hrun) (next.head hnext) = false) :
    reduceProducts scale decimals runs.flatten = .ok out ↔
      List.Forall₂ (Token.Replaces scale decimals) runs out := by
  induction runs generalizing out with
  | nil =>
    rw [List.flatten_nil, reduceProducts_of_not_isMultiplicative (List.forall_mem_nil _),
      List.forall₂_nil_left_iff, Except.ok.injEq, eq_comm]
  | cons run runs ih =>
    obtain ⟨hrun, hruns⟩ := List.forall_mem_cons.mp hjoins
    rw [List.mem_cons, not_or] at hnil
    have hboundary : ∀ left ∈ run.getLast?, ∀ right ∈ runs.flatten.head?,
        left.joins right = false := by
      intro left hleft right hright
      rcases runs with _ | ⟨next, runs⟩
      · cases hright
      · obtain ⟨⟨hlast, hhead, hnot⟩, -⟩ := List.isChain_cons_cons.mp hparted
        rw [List.flatten_cons, List.head?_append_of_ne_nil _ hhead, List.head?_eq_some_head hhead]
          at hright
        rw [List.getLast?_eq_some_getLast hlast] at hleft
        obtain rfl := Option.some.inj hleft
        obtain rfl := Option.some.inj hright
        exact hnot
    have htail : ∀ back, reduceProducts scale decimals runs.flatten = .ok back ↔
        List.Forall₂ (Token.Replaces scale decimals) runs back :=
      fun _ => ih hnil.2 hruns hparted.tail
    rw [List.flatten_cons, reduceProducts_append_of_parted hboundary, List.forall₂_cons_left_iff]
    constructor
    · intro h
      obtain ⟨front, hfront, h⟩ := exists_of_bind_eq_ok h
      obtain ⟨back, hback, rfl⟩ := exists_of_map_eq_ok h
      obtain ⟨token, rfl, hreplaces⟩ :=
        exists_replaces_of_reduceProducts (Ne.symm hnil.1) hrun hfront
      exact ⟨token, back, hreplaces, (htail back).mp hback, rfl⟩
    · rintro ⟨token, back, hreplaces, hback, rfl⟩
      rw [hreplaces.reduceProducts_eq, (htail back).mpr hback]
      rfl

/-- The first pass gets through exactly if it gets through each run of the tokens, and then it
leaves one token for each. -/
theorem reduceProducts_eq_ok_iff :
    reduceProducts scale decimals tokens = .ok out ↔
      List.Forall₂ (Token.Replaces scale decimals) (productRuns tokens) out := by
  have hiff : reduceProducts scale decimals (productRuns tokens).flatten = .ok out ↔
      List.Forall₂ (Token.Replaces scale decimals) (productRuns tokens) out :=
    reduceProducts_flatten_eq_ok_iff (List.nil_notMem_splitBy _ tokens)
      (fun _ => List.isChain_of_mem_splitBy) (List.isChain_getLast_head_splitBy _ tokens)
  rwa [flatten_productRuns] at hiff

/-! ## What becomes of all tokens -/

/-- Whether the token is `+`, `-` or the equals sign. -/
def Token.isSeparator : Token → Bool
  | number _ => false
  | operator op => !op.isMultiplicative
  | equals => true

/-- The tokens that are no `*` or `/` and stand next to none, in order; `touched` says whether there
is one in front of the first. -/
def untouchedFrom (touched : Bool) : List Token → List Token
  | [] => []
  | token :: rest =>
    let others := untouchedFrom token.isMultiplicative rest
    if touched || token.isMultiplicative || rest.head?.any Token.isMultiplicative then others
    else token :: others

/-- The tokens that are no `*` or `/` and stand next to none, in order. -/
def untouched (tokens : List Token) : List Token :=
  untouchedFrom false tokens

section

variable {links : List (Operator × String)}
  (hlinks : ∀ link ∈ links, link.1.isMultiplicative = true)

include hlinks

/-- Every token of a product but the first is a `*` or `/`, or stands behind one. -/
theorem untouchedFrom_linkTokens_append (tail : List Token) :
    untouchedFrom false (Chain.linkTokens links ++ tail) = untouchedFrom false tail := by
  induction links with
  | nil => rfl
  | cons link links ih =>
    obtain ⟨hop, hrest⟩ := List.forall_mem_cons.mp hlinks
    show untouchedFrom false
      (.operator link.1 :: .number link.2 :: (Chain.linkTokens links ++ tail)) = _
    rw [← ih hrest]
    simp [untouchedFrom, Token.isMultiplicative, hop]

/-- Links of `*` and `/` have no separator. -/
theorem filter_isSeparator_linkTokens :
    (Chain.linkTokens links).filter Token.isSeparator = [] := by
  rw [List.filter_eq_nil_iff]
  intro token htoken
  obtain ⟨link, hlink, htoken⟩ := List.mem_flatMap.mp htoken
  rcases List.mem_pair.mp htoken with rfl | rfl
  · simp [Token.isSeparator, hlinks link hlink]
  · simp [Token.isSeparator]

/-- Links of `*` and `/` have two tokens for each of these. -/
theorem length_linkTokens_of_isMultiplicative :
    (Chain.linkTokens links).length =
      2 * (Chain.linkTokens links).countP Token.isMultiplicative := by
  induction links with
  | nil => rfl
  | cons link links ih =>
    obtain ⟨hop, hrest⟩ := List.forall_mem_cons.mp hlinks
    have hcount : (Chain.linkTokens (link :: links)).countP Token.isMultiplicative =
        (Chain.linkTokens links).countP Token.isMultiplicative + 1 :=
      List.countP_cons_of_pos (a := Token.operator link.1) hop
    have hlength : (Chain.linkTokens (link :: links)).length =
        (Chain.linkTokens links).length + 2 := rfl
    rw [hlength, hcount, ih hrest]
    omega

end

namespace Token.Replaces

variable {run : List Token} {token : Token}

/-- What replaces a run is no `*` or `/`. -/
theorem not_isMultiplicative (h : Replaces scale decimals run token) :
    token.isMultiplicative = false := by
  cases h with
  | kept h => exact h
  | product _ _ _ => rfl

/-- What is untouched in a run is what the pass leaves there. -/
theorem untouchedFrom_append_sublist (h : Replaces scale decimals run token) (touched : Bool)
    (tail : List Token) :
    (untouchedFrom touched (run ++ tail)).Sublist (token :: untouchedFrom false tail) := by
  cases h with
  | kept h =>
    rw [List.singleton_append, untouchedFrom, h]
    split
    · exact List.sublist_cons_self _ _
    · exact List.Sublist.refl _
  | @product chain _ several hmul _ =>
    have hfirst : untouchedFrom touched (chain.tokens ++ tail) =
        untouchedFrom false (Chain.linkTokens chain.rest ++ tail) := by
      obtain ⟨link, links, hrest⟩ := List.exists_cons_of_ne_nil several
      have hop : link.1.isMultiplicative = true := hmul link (hrest ▸ List.mem_cons_self)
      rw [Chain.tokens, hrest, List.cons_append, untouchedFrom]
      simp [Chain.linkTokens, Token.isMultiplicative, hop]
    rw [hfirst, untouchedFrom_linkTokens_append hmul]
    exact List.sublist_cons_self _ _

/-- There is no `+`, `-` or equals sign in a product. -/
theorem filter_isSeparator (h : Replaces scale decimals run token) :
    run.filter isSeparator = [token].filter isSeparator := by
  cases h with
  | kept _ => rfl
  | product _ hmul _ => exact filter_isSeparator_linkTokens hmul

/-- A run has two tokens for every `*` and `/`, and one more. -/
theorem length_eq (h : Replaces scale decimals run token) :
    run.length = 2 * run.countP isMultiplicative + 1 := by
  cases h with
  | kept h => rw [List.countP_cons_of_neg (Bool.eq_false_iff.mp h)]; rfl
  | product _ hmul _ =>
    rw [Chain.tokens, List.countP_cons_of_neg Bool.false_ne_true, List.length_cons,
      length_linkTokens_of_isMultiplicative hmul]

end Token.Replaces

section

variable {runs : List (List Token)} (h : List.Forall₂ (Token.Replaces scale decimals) runs out)

include h

/-- No `*` or `/` is left. -/
theorem not_isMultiplicative_of_replaces : ∀ token ∈ out, token.isMultiplicative = false := by
  induction h with
  | nil => exact List.forall_mem_nil _
  | cons hrun _ ih => exact List.forall_mem_cons.mpr ⟨hrun.not_isMultiplicative, ih⟩

/-- What is untouched is left, in order. -/
theorem untouched_sublist_of_replaces (touched : Bool) :
    (untouchedFrom touched runs.flatten).Sublist out := by
  induction h generalizing touched with
  | nil => exact List.Sublist.refl _
  | cons hrun _ ih =>
    rw [List.flatten_cons]
    exact (hrun.untouchedFrom_append_sublist touched _).trans ((ih false).cons_cons _)

/-- The separators are left, in order. -/
theorem filter_isSeparator_of_replaces :
    runs.flatten.filter Token.isSeparator = out.filter Token.isSeparator := by
  induction h with
  | nil => rfl
  | @cons run token runs out hrun _ ih =>
    rw [List.flatten_cons, List.filter_append, hrun.filter_isSeparator, ih, ← List.filter_append,
      List.singleton_append]

/-- Two tokens are lost with every `*` and `/`. -/
theorem length_add_of_replaces :
    out.length + 2 * runs.flatten.countP Token.isMultiplicative = runs.flatten.length := by
  induction h with
  | nil => rfl
  | cons hrun _ ih =>
    rw [List.flatten_cons, List.countP_append, List.length_append, hrun.length_eq, ← ih,
      List.length_cons]
    omega

end

/-- The first pass gets through exactly if every run of the tokens is a single one, which is no `*`
or `/`, or a product with a value, and what it leaves has one token for each run, at the same place:
the token itself, or the value. So there is no `*` and no `/` left. All tokens that stand next to
none are still there as they were and in the same order, `+`, `-` and the equals sign are all that
they were, and every `*` and `/` took two tokens with it. -/
theorem reduceProducts_replaces_runs (scale : Scale) (decimals : Nat) (tokens out : List Token) :
    (reduceProducts scale decimals tokens = .ok out ↔
      List.Forall₂ (Token.Replaces scale decimals) (productRuns tokens) out) ∧
    (reduceProducts scale decimals tokens = .ok out →
      (∀ token ∈ out, token.isMultiplicative = false) ∧
        (untouched tokens).Sublist out ∧
        tokens.filter Token.isSeparator = out.filter Token.isSeparator ∧
        out.length + 2 * tokens.countP Token.isMultiplicative = tokens.length) := by
  refine ⟨reduceProducts_eq_ok_iff, fun h => ?_⟩
  have hruns := reduceProducts_eq_ok_iff.mp h
  have huntouched := untouched_sublist_of_replaces hruns false
  have hseparators := filter_isSeparator_of_replaces hruns
  have hlength := length_add_of_replaces hruns
  rw [flatten_productRuns] at huntouched hseparators hlength
  exact ⟨not_isMultiplicative_of_replaces hruns, huntouched, hseparators, hlength⟩

/-- `007-2*3/4+x=5` and then `8*2`, with no operator in front of the `8`: no expression, but the
pass gets through. It leaves the `007` and the `x`, which is no number, as they are. -/
theorem reduceProducts_replaces_runs_of_ill_formed :
    let tokens : List Token :=
      [.number "007", .operator .minus, .number "2", .operator .times, .number "3",
        .operator .divide, .number "4", .operator .plus, .number "x", .equals, .number "5",
        .number "8", .operator .times, .number "2"]
    let out : List Token :=
      [.number "007", .operator .minus, .number "1.5", .operator .plus, .number "x", .equals,
        .number "5", .number "16"]
    reduceProducts .wrapped 2 tokens = .ok out ∧
      untouched tokens =
        [.number "007", .operator .minus, .operator .plus, .number "x", .equals, .number "5"] ∧
      (untouched tokens).Sublist out ∧
      List.Forall₂ (Token.Replaces .wrapped 2) (productRuns tokens) out := by
  intro tokens out
  have h : reduceProducts .wrapped 2 tokens = .ok out := by
    rw [reduceProducts_eq_scanProducts]
    decide +kernel
  obtain ⟨hiff, hleft⟩ := reduceProducts_replaces_runs .wrapped 2 tokens out
  exact ⟨h, by decide, (hleft h).2.1, hiff.mp h⟩

end KeypadCalculator
