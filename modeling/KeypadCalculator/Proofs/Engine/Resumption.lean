import KeypadCalculator.Proofs.Engine.Equals
import KeypadCalculator.Proofs.Engine.Typing

/-!
# Going on from a result

An expression may be typed in one go, or with the equals key pressed in between. The result in
between is all that is needed to go on, in the evaluation and in the engine.

* `Chain.byPrecedenceM_join`, `Chain.evaluate_tokens_join`: the fold of a chain that is cut at an
  operator, and its evaluation.
* `Chain.answer_tokens_join`: the answer called for is the same.
* `Chain.Resumes.exists_answers`: the same answer is given, whether or not the equals key in between
  is refused.
* `Chain.Resumes.evaluate_eq_and_exists_answers`: going on from a result, in the evaluation and in
  the engine.
-/

namespace KeypadCalculator

/-!
## Going on from a result

A chain that is cut at an operator can be folded in two goes: first what stands in front of the
operator, and then what stands behind it, with the result of the former as first operand. Whether
this gives the same depends on the operator. Behind `+` or `-`, the terms on either side are folded
apart, and what is different is only the order of the work: the terms behind the operator are folded
before the sum in front of it is, not after. Behind `*` or `/`, the last term goes on, so that there
must not be another one in front of it.

All of this is true of any operation that may fail, its errors included, and nothing is asked of
what the operation rounds.
-/

namespace Chain

variable {α ε : Type} {f : Operator → α → α → Except ε α}

/-- An operator behind a chain takes the value of the whole chain for its left operand, and not only
that of the last term. -/
def Resumes (chain : Chain α) (op : Operator) : Prop :=
  op.isMultiplicative = false ∨ ∀ before ∈ chain.operators, before.isMultiplicative = true

/-- A chain that is cut at an operator is folded up to there and then on. -/
theorem foldM_join (f : Operator → α → α → Except ε α) (left : Chain α) (op : Operator)
    (right : Chain α) :
    (left.join op right).foldM f =
      (left.foldM f).bind fun value => (join { first := value } op right).foldM f := by
  unfold foldM
  simp only [join, List.nil_append, List.foldlM_append]
  rfl

variable {left : Chain α} {op : Operator} {value : α}

/-- A sum in front of `+` or `-` may be computed first. -/
theorem byPrecedenceM_join_of_not_isMultiplicative (hop : op.isMultiplicative = false)
    (h : left.byPrecedenceM f = .ok value) (right : Chain α) :
    (left.join op right).byPrecedenceM f =
      (join { first := value } op right).byPrecedenceM f := by
  obtain ⟨sums, hsums, hvalue⟩ := exists_of_bind_eq_ok h
  have hleft : foldTermsM f left.first (left.rest ++ (op, right.first) :: right.rest) =
      (foldTermsM f right.first right.rest).map fun terms => sums.join op terms := by
    rw [foldTermsM_append_of_not_isMultiplicative hop, hsums]
    rfl
  have hright : foldTermsM f value ((op, right.first) :: right.rest) =
      (foldTermsM f right.first right.rest).map fun terms => join { first := value } op terms :=
    foldTermsM_append_of_not_isMultiplicative hop value right.first [] right.rest
  rw [byPrecedenceM_eq_bind, byPrecedenceM_eq_bind]
  show (foldTermsM f left.first (left.rest ++ (op, right.first) :: right.rest)).bind (foldM f) =
    (foldTermsM f value ((op, right.first) :: right.rest)).bind (foldM f)
  rw [hleft, hright]
  rcases foldTermsM f right.first right.rest with e | terms
  · rfl
  · show foldM f (sums.join op terms) = foldM f (join { first := value } op terms)
    rw [foldM_join, hvalue]
    rfl

/-- A product in front of any operator may be computed first. -/
theorem byPrecedenceM_join_of_isMultiplicative
    (hrest : ∀ before ∈ left.operators, before.isMultiplicative = true)
    (h : left.byPrecedenceM f = .ok value) (op : Operator) (right : Chain α) :
    (left.join op right).byPrecedenceM f =
      (join { first := value } op right).byPrecedenceM f := by
  have hlinks : ∀ link ∈ left.rest, link.1.isMultiplicative = true :=
    fun link hlink => hrest link.1 (List.mem_map.mpr ⟨link, hlink, rfl⟩)
  have hvalue : foldM f left = .ok value := by
    have hterm := foldTermsM_append_of_isMultiplicative (f := f) hlinks left.first []
    rw [List.append_nil] at hterm
    rw [byPrecedenceM_eq_bind, hterm] at h
    obtain ⟨sums, hsums, h⟩ := exists_of_bind_eq_ok h
    obtain ⟨product, hproduct, hsums⟩ := exists_of_bind_eq_ok hsums
    cases hsums
    cases h
    exact hproduct
  rw [byPrecedenceM_eq_bind, byPrecedenceM_eq_bind]
  show (foldTermsM f left.first (left.rest ++ (op, right.first) :: right.rest)).bind (foldM f) = _
  rw [foldTermsM_append_of_isMultiplicative hlinks, hvalue]
  rfl

/-- What is in front of an operator may be folded first, unless a `*` or `/` follows a sum. -/
theorem byPrecedenceM_join (hop : left.Resumes op) (h : left.byPrecedenceM f = .ok value)
    (right : Chain α) :
    (left.join op right).byPrecedenceM f =
      (join { first := value } op right).byPrecedenceM f := by
  rcases hop with hop | hrest
  · exact byPrecedenceM_join_of_not_isMultiplicative hop h right
  · exact byPrecedenceM_join_of_isMultiplicative hrest h op right

/-- The tokens in front of an operator may be replaced by their result. -/
theorem evaluate_tokens_join {scale : Scale} {decimals : Nat} {left : Chain String} {text : String}
    (hop : left.Resumes op) (h : evaluate scale decimals left.tokens = .ok text)
    (right : Chain String) :
    evaluate scale decimals (left.join op right).tokens =
      evaluate scale decimals (join { first := text } op right).tokens := by
  rw [evaluate_tokens] at h
  rw [evaluate_tokens, evaluate_tokens, byPrecedenceM_join hop h]

end Chain

/-!
## A result says all that is needed to go on

An expression may be typed in one go, or with the equals key pressed in between. In the second case
the operator behind the equals key drops the tokens and keeps the text of their result. If the
operator takes the whole of what is in front for its left operand, then this text is all that
matters: the equals key at the end gives the same answer. If the equals key in between is refused,
then it has changed nothing, and both ways of typing are one.
-/

section

variable {scale : Scale} {engine : Engine}

namespace Chain

variable {left right : Chain String} {op : Operator}

/-- Whether a longer chain may be evaluated does not depend on a part that may be and is replaced by
one operand. -/
theorem isComplete_tokens_join (h : Engine.isComplete left.tokens = true) (op : Operator)
    (text : String) (right : Chain String) :
    Engine.isComplete (left.join op right).tokens =
      Engine.isComplete (join { first := text } op right).tokens := by
  obtain ⟨-, hzero⟩ := Engine.isComplete_tokens_iff.mp h
  rw [Bool.eq_iff_iff, Engine.isComplete_tokens_iff, Engine.isComplete_tokens_iff]
  simp only [join, List.nil_append, List.mem_append, hzero, false_or, ne_eq, List.append_eq_nil_iff,
    reduceCtorEq, and_false, not_false_eq_true]

/-- The operands of two joined chains are those of the one and of the other. -/
theorem forall_operands_join_iff {P : String → Prop} :
    (∀ text ∈ (left.join op right).operands, P text) ↔
      (∀ text ∈ left.operands, P text) ∧ ∀ text ∈ right.operands, P text := by
  rw [forall_operands_iff, forall_operands_iff, forall_operands_iff, join]
  rw [List.forall_mem_append, List.forall_mem_cons, and_assoc]

/-- The result of a chain calls for the same answer as the chain itself. -/
theorem answer_tokens_join {settings : Settings} {text : String} (hop : left.Resumes op)
    (hcomplete : Engine.isComplete left.tokens = true)
    (h : evaluate scale settings.decimals left.tokens = .ok text) (right : Chain String) :
    Engine.answer scale settings (left.join op right).tokens =
      Engine.answer scale settings (join { first := text } op right).tokens := by
  unfold Engine.answer
  rw [isComplete_tokens_join hcomplete op text right, evaluate_tokens_join hop h right]

/-- What is typed as digits behind an operand that can be read gets its answer. -/
theorem answers_of_tokens_eq_join (htokens : engine.tokens = (left.join op right).tokens)
    (hleft : ∀ text ∈ left.operands, IsReadable scale text)
    (hright : ∀ text ∈ right.operands, IsDigits text) :
    engine.Answers scale (Engine.answer scale engine.settings (left.join op right).tokens) := by
  apply Engine.answers_of_isReadable htokens
  rw [forall_operands_join_iff]
  exact ⟨hleft, fun text htext => (hright text htext).isReadable scale⟩

/-- An operator and a chain of digits get the same answer in the end, whether they are typed behind
a chain or behind what the equals key makes of it. -/
theorem Resumes.exists_answers (hop : left.Resumes op) (htyped : engine.tokens = left.tokens)
    (hleft : ∀ text ∈ left.operands, IsDigits text)
    (hright : ∀ text ∈ right.operands, IsDigits text)
    {whole chained : Engine} (hwholeTokens : whole.tokens = (left.join op right).tokens)
    (hwhole : whole = engine.run scale (Command.ofDisplay (.operator op :: right.tokens)))
    (hchained : chained = (engine.insertEquals scale).engine.run scale
      (Command.ofDisplay (.operator op :: right.tokens))) :
    ∃ answer, whole.Answers scale answer ∧ chained.Answers scale answer := by
  have hanswer : whole.Answers scale
      (Engine.answer scale whole.settings (left.join op right).tokens) :=
    answers_of_tokens_eq_join hwholeTokens
      (fun text htext => (hleft text htext).isReadable scale) hright
  refine ⟨_, hanswer, ?_⟩
  rcases Engine.insertEquals_cases scale engine with heq | ⟨text, hcomplete, -, hvalue, heq⟩
  · -- the key was refused and changed nothing
    rw [heq, ← hwhole] at hchained
    rw [hchained]
    exact hanswer
  · have hsettings : whole.settings = engine.settings := by
      rw [hwhole, Engine.settings_run_ofDisplay]
    have hchainedSettings : chained.settings = engine.settings := by
      rw [hchained, Engine.settings_run_ofDisplay, heq]
    have hchainedTokens : chained.tokens = (join { first := text } op right).tokens := by
      rw [hchained]
      apply Engine.tokens_run_ofDisplay_of_result _ op hright
      · exact left.tokens
      · rw [heq, htyped]
    rw [htyped] at hcomplete hvalue
    have hreadable : IsReadable scale text := by
      obtain ⟨hrest, -⟩ := Engine.isComplete_tokens_iff.mp hcomplete
      obtain ⟨r, rfl⟩ := exists_write_of_evaluate hvalue hrest
      exact isReadable_write scale _ r
    have hchainedAnswer : chained.Answers scale
        (Engine.answer scale chained.settings (join { first := text } op right).tokens) :=
      answers_of_tokens_eq_join hchainedTokens (List.forall_mem_singleton.mpr hreadable) hright
    rw [hsettings, answer_tokens_join hop hcomplete hvalue right, ← hchainedSettings]
    exact hchainedAnswer

/-- If an operator takes the whole of a chain for its left operand, then the result of the chain can
stand in its place. The evaluation of what follows has the same outcome; and if all operands are
digits, the equals key at the end gives the same answer whether or not it was pressed in front of
the operator. -/
theorem Resumes.evaluate_eq_and_exists_answers (hop : left.Resumes op) (right : Chain String)
    (scale : Scale) :
    (∀ (decimals : Nat) (text : String), evaluate scale decimals left.tokens = .ok text →
      evaluate scale decimals (left.tokens ++ .operator op :: right.tokens) =
        evaluate scale decimals (.number text :: .operator op :: right.tokens)) ∧
    ∀ engine : Engine, engine.StartsAnew → (∀ text ∈ left.operands, IsDigits text) →
      (∀ text ∈ right.operands, IsDigits text) →
      let whole := engine.run scale (Command.ofDisplay (left.tokens ++ .operator op :: right.tokens))
      let chained := engine.run scale
        (Command.ofDisplay left.tokens ++ .equals ::
          Command.ofDisplay (.operator op :: right.tokens))
      ∃ answer, whole.Answers scale answer ∧ chained.Answers scale answer := by
  refine ⟨?_, ?_⟩
  · intro decimals text h
    rw [← tokens_join]
    exact evaluate_tokens_join hop h right
  · intro engine hanew hleft hright
    have htyped : (engine.run scale (Command.ofDisplay left.tokens)).tokens = left.tokens :=
      Engine.tokens_run_ofDisplay hanew hleft
    refine hop.exists_answers htyped hleft hright ?_ ?_ ?_
    · rw [← tokens_join]
      exact Engine.tokens_run_ofDisplay hanew (forall_operands_join_iff.mpr ⟨hleft, hright⟩)
    · rw [Command.ofDisplay_append, Engine.run_append]
    · rw [Engine.run_append, Engine.run_cons]
      rfl

/-- `1/3` is `0.33`, and `*3+1` behind it gives `1.99` whether or not it was displayed in
between. -/
theorem Resumes.evaluate_eq_and_exists_answers_of_rounded_quotient :
    let left : Chain String := { first := "1", rest := [(.divide, "3")] }
    let right : Chain String := { first := "3", rest := [(.plus, "1")] }
    let typed (keys : String) := ({} : Engine).run .wrapped (keys.toList.map Command.ofChar)
    evaluate .wrapped 2 left.tokens = .ok "0.33" ∧
      evaluate .wrapped 2 (left.tokens ++ .operator .times :: right.tokens) = .ok "1.99" ∧
      ∃ answer, (typed "1/3*3+1").Answers .wrapped answer ∧
        (typed "1/3=*3+1").Answers .wrapped answer := by
  intro left right typed
  have hop : left.Resumes .times := .inr (by decide)
  have hresult : evaluate .wrapped 2 left.tokens = .ok "0.33" := by decide +kernel
  have hone : IsDigits "1" := by decide
  have hthree : IsDigits "3" := by decide
  have hleft : ∀ text ∈ left.operands, IsDigits text :=
    List.forall_mem_cons.mpr ⟨hone, List.forall_mem_singleton.mpr hthree⟩
  have hright : ∀ text ∈ right.operands, IsDigits text :=
    List.forall_mem_cons.mpr ⟨hthree, List.forall_mem_singleton.mpr hone⟩
  have hwhole : Command.ofDisplay (left.tokens ++ .operator .times :: right.tokens) =
      "1/3*3+1".toList.map Command.ofChar := by decide +kernel
  have hchained : Command.ofDisplay left.tokens ++ .equals ::
      Command.ofDisplay (.operator .times :: right.tokens) =
        "1/3=*3+1".toList.map Command.ofChar := by decide +kernel
  obtain ⟨hevaluate, hanswers⟩ := hop.evaluate_eq_and_exists_answers right .wrapped
  refine ⟨hresult, ?_, ?_⟩
  · rw [hevaluate 2 "0.33" hresult]
    decide +kernel
  · have h := hanswers {} (.inl rfl) hleft hright
    rw [hwhole, hchained] at h
    exact h

end Chain

end

end KeypadCalculator
