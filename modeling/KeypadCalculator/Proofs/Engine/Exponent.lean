import KeypadCalculator.Engine.Session
import KeypadCalculator.Proofs.Engine.Equals

/-!
# Decimals that do not wrap around

A number of decimals is the exponent of a power of ten, and in the calculator it counts modulo `2 ^
32`. For one text, or one number of decimals, this can make a difference. In use it makes none. The
digit keys type no point, so what was typed has no fraction. A result has one, but it is no longer
than the number of decimals that was set when it was written, and setting a number of decimals keeps
it within a bound far below `2 ^ 32`; this holds of results that are taken over and of those that
are written and read on the way to another one.

* `IsShort`: texts with few digits behind the point.
* `combineTexts_eq_exact`, `evaluate_tokens_eq_exact`: one operation on such texts, and a chain of
  them.
* `Engine.WellFormed.perform_eq_exact`: a call to an engine in use.
* `Session.run_eq_exact`, `Session.run_wrapped_eq_run_exact`: runs of calls, with all that is told
  and logged.
-/

namespace KeypadCalculator

variable {scale : Scale} {bound decimals : Nat}

/-! ## Short fractions -/

/-- A text with no more than `bound` digits behind the point, if it can be read at all. -/
def IsShort (bound : Nat) (text : String) : Prop :=
  ∀ n : Numeral, Numeral.parse? text.toList = some n → n.fraction.length ≤ bound

/-- What is written has no more digits behind the point than decimals. -/
theorem isShort_write (hdecimals : decimals ≤ bound) (r : Rat) :
    IsShort bound (Numeral.write scale decimals r) := by
  intro n hn
  rw [Numeral.toList_write, (Numeral.isCanonical_ofUnits _ _ _).parse?_text] at hn
  obtain rfl := Option.some.inj hn
  exact (Numeral.length_fraction_ofUnits_le _ _ _).trans hdecimals

/-- A text of digits has no fraction. -/
theorem IsDigits.isShort {text : String} (h : IsDigits text) : IsShort bound text := by
  intro n hn
  obtain rfl := Option.some.inj (h.parse?_eq.symm.trans hn)
  exact Nat.zero_le bound

namespace Numeral

/-- A short text denotes the same under all scales that are faithful as far as it goes. -/
theorem read?_eq_exact (h : scale.IsFaithful bound) {text : String} (htext : IsShort bound text) :
    read? scale text = read? .exact text := by
  unfold read?
  rcases hparse : parse? text.toList with _ | n
  · rfl
  · exact congrArg some (value_eq_value_exact (h.mono (htext n hparse)))

/-- A value is written alike under all scales that are faithful up to the number of decimals. -/
theorem write_eq_exact (h : scale.IsFaithful decimals) (r : Rat) :
    write scale decimals r = write .exact decimals r := by
  have hunits : scale.units decimals = Scale.exact.units decimals := h.units_eq
  have hround : roundedUnits scale decimals r = roundedUnits .exact decimals r := by
    rw [roundedUnits, roundedUnits, hunits]
  rw [write, write, hround, ofUnits, ofUnits, hunits]

end Numeral

/-! ## Evaluating short texts -/

variable {op : Operator} {left right : String}

/-- An operation on short texts has one outcome under all faithful scales. -/
theorem combineTexts_eq_exact (h : scale.IsFaithful bound) (hdecimals : decimals ≤ bound)
    (hleft : IsShort bound left) (hright : IsShort bound right) :
    combineTexts scale decimals op left right = combineTexts .exact decimals op left right := by
  simp only [combineTexts, Numeral.read?_eq_exact h hleft, Numeral.read?_eq_exact h hright,
    Numeral.write_eq_exact (h.mono hdecimals)]

/-- A result has no more digits behind the point than it has decimals. -/
theorem isShort_of_combineTexts_eq_ok (hdecimals : decimals ≤ bound) {text : String}
    (h : combineTexts scale decimals op left right = .ok text) : IsShort bound text := by
  obtain ⟨a, b, -, -, -, rfl⟩ := exists_of_combineTexts_eq_ok h
  exact isShort_write hdecimals _

/-- A chain of short texts has one value, or one error, under all faithful scales. -/
theorem evaluate_tokens_eq_exact (h : scale.IsFaithful bound) (hdecimals : decimals ≤ bound)
    {chain : Chain String} (hshort : ∀ text ∈ chain.operands, IsShort bound text) :
    evaluate scale decimals chain.tokens = evaluate .exact decimals chain.tokens := by
  have hstep : ∀ (op : Operator) (a b x y : String), a = b ∧ IsShort bound a →
      x = y ∧ IsShort bound x →
      SameOutcome (fun _ => True) (fun text other => text = other ∧ IsShort bound text)
        (combineTexts scale decimals op a x) (combineTexts .exact decimals op b y) := by
    rintro op a _ x _ ⟨rfl, ha⟩ ⟨rfl, hx⟩
    rw [← combineTexts_eq_exact h hdecimals ha hx]
    apply (SameOutcome.refl _).imp
    rintro text _ ⟨rfl, htext⟩
    exact ⟨rfl, isShort_of_combineTexts_eq_ok hdecimals htext⟩
  have hrelated : Chain.Related (fun text other => text = other ∧ IsShort bound text)
      (fun _ text other => text = other ∧ IsShort bound text) chain chain := by
    obtain ⟨hfirst, hrest⟩ := List.forall_mem_cons.mp hshort
    refine Chain.related_self ⟨rfl, hfirst⟩ fun link hlink => ⟨rfl, hrest _ ?_⟩
    exact List.mem_map.mpr ⟨link, hlink, rfl⟩
  rw [evaluate_tokens, evaluate_tokens]
  have houtcome := Chain.byPrecedenceM_related
    (R := fun text other => text = other ∧ IsShort bound text) (fun _ _ _ hlink => hlink)
    (fun op a b x y hab hxy _ => hstep op a b x y hab hxy) hrelated
  exact (houtcome.imp fun _ _ hsame => hsame.1).eq

/-! ## An engine in use -/

namespace Chain

variable {chain : Chain String}

/-- A result is short, whatever the number of decimals was set to when it was computed. -/
theorem HasResult.isShort {text : String} (h : chain.HasResult scale text) :
    IsShort maxDecimals text := by
  obtain ⟨decimals, hdecimals, r, rfl⟩ := h.exists_write
  exact isShort_write hdecimals r

/-- Operands that were typed as digits or taken over are short. -/
theorem IsEntered.isShort (h : chain.IsEntered scale IsDigits) :
    ∀ text ∈ chain.operands, IsShort maxDecimals text :=
  h.forall_operands (fun _ hdigits => hdigits.isShort) fun _ _ hresult => hresult.isShort

end Chain

namespace Engine

variable {engine : Engine}

/-- The equals key looks at the scale only where it evaluates the tokens. -/
theorem insertEquals_eq_of_evaluate_eq {scale' : Scale}
    (h : isComplete engine.tokens = true → Token.equals ∉ engine.tokens →
      evaluate scale engine.settings.decimals engine.tokens =
        evaluate scale' engine.settings.decimals engine.tokens) :
    engine.insertEquals scale = engine.insertEquals scale' := by
  by_cases hcomplete : isComplete engine.tokens = true
  · by_cases hmem : Token.equals ∈ engine.tokens
    · rw [insertEquals_of_mem hcomplete hmem, insertEquals_of_mem hcomplete hmem]
    · rw [insertEquals_of_not_mem hcomplete hmem, insertEquals_of_not_mem hcomplete hmem,
        h hcomplete hmem]
  · have hincomplete := Bool.eq_false_iff.mpr hcomplete
    rw [insertEquals_of_not_isComplete hincomplete, insertEquals_of_not_isComplete hincomplete]

/-- A call to an engine in which digits were typed for numbers has one reply under all faithful
scales. -/
theorem WellFormed.perform_eq_exact (h : engine.WellFormed scale IsDigits)
    (hscale : scale.IsFaithful maxDecimals) (command : Command) :
    engine.perform scale command = engine.perform .exact command := by
  cases command with
  | equals =>
    rw [perform_equals, perform_equals]
    apply insertEquals_eq_of_evaluate_eq
    intro hcomplete hmem
    obtain ⟨chain, htokens, hentered⟩ := h.shape.exists_of_isComplete hcomplete hmem
    rw [htokens]
    exact evaluate_tokens_eq_exact hscale h.decimals_le hentered.isShort
  | digits _ => rfl
  | operator _ => rfl
  | clear => rfl
  | setDecimals _ => rfl

end Engine

/-! ## Runs -/

namespace Session

/-- A step of a session in which digits were typed for numbers has one outcome under all faithful
scales. -/
theorem step_eq_exact {session : Session} (h : session.engine.WellFormed scale IsDigits)
    (hscale : scale.IsFaithful maxDecimals) (step : Step) :
    session.step scale step = session.step .exact step := by
  cases step with
  | command command =>
    rw [step_command_of_perform_eq (h.perform_eq_exact hscale command),
      step_command_of_perform_eq rfl]
  | attach => rfl
  | release _ => rfl

/-- A step that types nothing but digits leaves a well-formed engine behind. -/
theorem wellFormed_step {Typed : String → Prop} {session : Session}
    (h : session.engine.WellFormed scale Typed) {step : Step}
    (htypes : ∀ command, step = .command command → command.Types Typed) :
    (session.step scale step).session.engine.WellFormed scale Typed := by
  cases step with
  | command command => exact h.perform (htypes command rfl)
  | attach => exact h
  | release _ => exact h

/-- A run has one outcome under all faithful scales. -/
theorem run_eq_exact {session : Session} (h : session.engine.WellFormed scale IsDigits)
    (hscale : scale.IsFaithful maxDecimals) {steps : List Step}
    (htypes : ∀ command, .command command ∈ steps → command.Types IsDigits) :
    session.run scale steps = session.run .exact steps := by
  induction steps generalizing session with
  | nil => rfl
  | cons step steps ih =>
    have hstep : ∀ command, step = .command command → command.Types IsDigits := by
      rintro command rfl
      exact htypes command List.mem_cons_self
    have htail := ih (wellFormed_step h hstep) fun command hcommand =>
      htypes command (List.mem_cons_of_mem _ hcommand)
    rw [run, run, htail, step_eq_exact h hscale step]

/-- In a run in which single digits are typed for numbers, whatever the number of decimals is set
to, nothing tells whether decimals wrap around: the engine holds the same tokens in the end, and the
same notices and log entries were made on the way. -/
theorem run_wrapped_eq_run_exact (refusal : String) (values : List Nat) {steps : List Step}
    (hdigits : ∀ text, .command (.digits text) ∈ steps →
      ∃ c : Char, c.isDigit = true ∧ text = c.toString) :
    let engine : Engine := { settings := values.foldl Settings.setDecimals { refusal } }
    let session : Session := { engine }
    session.run .wrapped steps = session.run .exact steps := by
  intro engine session
  have hstart : engine.WellFormed .wrapped IsDigits :=
    Engine.wellFormed_start refusal values
  have hscale : Scale.wrapped.IsFaithful maxDecimals := Scale.isFaithful_wrapped (by decide)
  apply run_eq_exact hstart hscale
  intro command hcommand
  exact Command.types_isDigits fun text heq => hdigits text (heq ▸ hcommand)

/-- The number of decimals is set to `2 ^ 32`, which would wrap around to none. An eighth is written
with three decimals all the same, taken over, and read. -/
theorem run_wrapped_eq_run_exact_of_many_decimals :
    let keys := "1/8=*3=".toList.map fun c => Step.command (Command.ofChar c)
    let steps := Step.attach :: .command (.setDecimals (2 ^ 32)) :: keys
    let outcome := ({} : Session).run .wrapped steps
    Numeral.write .wrapped (2 ^ 32) (1 / 8) = "0" ∧
      outcome = ({} : Session).run .exact steps ∧
      outcome.session.engine.display = "0.125*3=0.375" ∧
      outcome.deliveries.getLast? = some { observer := 0, notice := .display "0.125*3=0.375" } := by
  intro keys steps outcome
  have hdigits : ∀ text, .command (.digits text) ∈ steps →
      ∃ c : Char, c.isDigit = true ∧ text = c.toString := by
    intro text htext
    rcases List.mem_cons.mp htext with hattach | htext
    · cases hattach
    rcases List.mem_cons.mp htext with hset | htext
    · cases hset
    obtain ⟨c, -, hc⟩ := List.mem_map.mp htext
    exact ⟨c, Command.ofChar_eq_digits (Step.command.inj hc)⟩
  exact ⟨by decide +kernel, run_wrapped_eq_run_exact "Expression incorrecte" [] hdigits,
    by decide +kernel, by decide +kernel⟩

end Session

end KeypadCalculator
