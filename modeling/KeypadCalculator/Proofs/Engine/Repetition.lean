import KeypadCalculator.Proofs.Engine.Report

/-!
# The equals key without an answer, and pressed again

Where the equals key gives no result it leaves the engine as it was. It may refuse the expression,
or it may give up without a word; and what it did once it does again.

* `Engine.Shape.cause_cases`: why complete tokens have no value.
* `Engine.insertEquals_of_abandoned`, `Engine.insertEquals_of_cause`: when the key gives up, and
  what it does then.
* `Session.step_equals_abandoned`: giving up, after any run.
* `Engine.Shape.evaluate_eq_error_iff`: the error does not depend on the number of decimals.
* `Engine.WellFormed.insertEquals_eq_of_tokens_eq`: the key with other settings, where it gives no
  result.
* `Session.step_equals_of_mem`, `Session.step_equals_eq_of_tokens_eq`: the two cases of a second
  press, with what the observer hears.
* `Session.step_equals_repeated`: the key pressed twice, after any run.
-/

namespace KeypadCalculator

/-!
## What the equals key gives up on

Once the tokens were found complete, their evaluation can fail for two reasons. One is a divisor of
value zero, and the key refuses the expression. The other is a number that cannot be read, since the
engine takes any text for digits. Such a number is one of the tokens, as it was typed: what the
evaluation writes on the way, it can read. The key then gives up without a word to the observer.
-/

section

variable {scale : Scale}

namespace Engine

variable {tokens : List Token} {engine : Engine} {cause : ExpressionError}

/-- Complete tokens without a result have no value only if a divisor has the value zero, or if one
of their numbers cannot be read. -/
theorem Shape.cause_cases {Typed : String → Prop} (h : Shape scale Typed tokens)
    (hcomplete : isComplete tokens = true) (hmem : Token.equals ∉ tokens) {decimals : Nat}
    (hvalue : evaluate scale decimals tokens = .error cause) :
    cause = .divisionByZero ∨ ∃ text, cause = .unreadableOperand text ∧
      Token.number text ∈ tokens ∧ Numeral.read? scale text = none := by
  obtain ⟨chain, rfl, -⟩ := h.exists_of_isComplete hcomplete hmem
  rcases Chain.isFault_of_evaluate_eq_error hvalue with hzero | ⟨text, htext, hnot, hcause⟩
  · exact .inl hzero
  · exact .inr ⟨text, hcause, Chain.number_mem_tokens_iff.mpr htext, not_isReadable_iff.mp hnot⟩

/-- If the key gives up, then the evaluation failed, and giving up is all that the key does. -/
theorem insertEquals_of_abandoned {display : String}
    (h : .abandoned cause display ∈ (engine.insertEquals scale).entries) :
    isComplete engine.tokens = true ∧ Token.equals ∉ engine.tokens ∧ cause ≠ .divisionByZero ∧
      evaluate scale engine.settings.decimals engine.tokens = .error cause ∧
      engine.insertEquals scale = { engine, entries := [.abandoned cause display] } := by
  rcases insertEquals_reply_cases scale engine with ⟨-, heq⟩ | ⟨-, -, heq⟩ |
    ⟨hcomplete, hmem, ⟨text, -, heq⟩ | ⟨-, heq⟩ | ⟨cause', hne, hvalue, heq⟩⟩
  · rw [heq] at h
    cases List.mem_singleton.mp h
  · rw [heq] at h
    cases h
  · rw [heq] at h
    cases List.mem_singleton.mp h
  · rw [heq] at h
    cases List.mem_singleton.mp h
  · rw [heq] at h
    cases List.mem_singleton.mp h
    exact ⟨hcomplete, hmem, hne, hvalue, heq⟩

/-- If the evaluation fails on something else than a divisor of value zero, the key gives up. -/
theorem insertEquals_of_cause (hcomplete : isComplete engine.tokens = true)
    (hmem : Token.equals ∉ engine.tokens) (hne : cause ≠ .divisionByZero)
    (hvalue : evaluate scale engine.settings.decimals engine.tokens = .error cause) :
    engine.insertEquals scale = { engine, entries := [.abandoned cause engine.display] } := by
  rw [insertEquals_of_not_mem hcomplete hmem, hvalue]
  cases cause with
  | divisionByZero => exact absurd rfl hne
  | incomplete => rfl
  | unreadableOperand text => rfl
  | missingOperand op => rfl
  | unexpectedToken text => rfl

end Engine

namespace Session

/-- Whatever was typed before, the equals key gives up only on a number that cannot be read. It logs
the text of this number, which is one of the tokens, and leaves everything as it is; nobody is told.
The evaluation behind the check for completeness fails on nothing else, but for divisors of value
zero. -/
theorem step_equals_abandoned (scale : Scale) (refusal : String) (values : List Nat)
    (steps : List Step) :
    let engine : Engine := { settings := values.foldl Settings.setDecimals { refusal } }
    let session := (({ engine } : Session).run scale steps).session
    let tokens := session.engine.tokens
    let outcome := session.step scale (.command .equals)
    (∀ cause display, .abandoned cause display ∈ outcome.log →
      (∃ text, cause = .unreadableOperand text ∧ .number text ∈ tokens ∧
        Numeral.read? scale text = none) ∧
      outcome = { session, log := [.abandoned cause display] }) ∧
    (Engine.isComplete tokens = true → .equals ∉ tokens →
      ∀ cause, evaluate scale session.engine.settings.decimals tokens = .error cause →
        cause = .divisionByZero ∨
          (∃ text, cause = .unreadableOperand text ∧ .number text ∈ tokens ∧
            Numeral.read? scale text = none) ∧
          outcome.log = [.abandoned cause (Token.display tokens)]) := by
  intro engine session tokens outcome
  have hwellFormed : session.engine.WellFormed scale fun _ => True :=
    wellFormed_run scale refusal values steps
  refine ⟨?_, ?_⟩
  · intro cause display hlog
    obtain ⟨hcomplete, hmem, hne, hvalue, hreply⟩ := Engine.insertEquals_of_abandoned hlog
    refine ⟨(hwellFormed.shape.cause_cases hcomplete hmem hvalue).resolve_left hne, ?_⟩
    have houtcome : outcome = _ := step_command_of_perform_eq hreply
    rw [houtcome, deliver_nil]
  · intro hcomplete hmem cause hvalue
    refine (hwellFormed.shape.cause_cases hcomplete hmem hvalue).imp_right fun htext => ⟨htext, ?_⟩
    have hne : cause ≠ .divisionByZero := by
      obtain ⟨text, rfl, -⟩ := htext
      exact nofun
    have houtcome : outcome = _ :=
      step_command_of_perform_eq (Engine.insertEquals_of_cause hcomplete hmem hne hvalue)
    rw [houtcome]
    rfl

/-- The number `1x` behind a result that was taken over: the key gives up on it, and on a divisor of
value zero only where no such number comes first. -/
theorem step_equals_abandoned_of_letter :
    let steps : List Step :=
      [.attach, .command (.digits "7"), .command (.operator "-"), .command (.digits "9"),
        .command .equals, .command (.operator "*"), .command (.digits "1"), .command (.digits "x"),
        .command (.operator "/"), .command (.digits "00")]
    let session := (({} : Session).run .wrapped steps).session
    let outcome := session.step .wrapped (.command .equals)
    Engine.isComplete session.engine.tokens = true ∧ .equals ∉ session.engine.tokens ∧
      session.listener = some 0 ∧ session.engine.display = "-2*1x/00" ∧
      outcome = { session, log := [.abandoned (.unreadableOperand "1x") "-2*1x/00"] } := by
  intro steps session outcome
  have hcomplete : Engine.isComplete session.engine.tokens = true := by decide +kernel
  have hmem : Token.equals ∉ session.engine.tokens := by decide +kernel
  have hdisplay : session.engine.display = "-2*1x/00" := by decide +kernel
  have hvalue : evaluate .wrapped session.engine.settings.decimals session.engine.tokens =
      .error (.unreadableOperand "1x") := by decide +kernel
  obtain ⟨hgives, hfails⟩ := step_equals_abandoned .wrapped "Expression incorrecte" [] steps
  have hlog : outcome.log = [.abandoned (.unreadableOperand "1x") session.engine.display] :=
    ((hfails hcomplete hmem _ hvalue).resolve_left nofun).2
  rw [hdisplay] at hlog
  have hentry : .abandoned (.unreadableOperand "1x") "-2*1x/00" ∈ outcome.log := by
    rw [hlog]
    exact List.mem_cons_self
  exact ⟨hcomplete, hmem, by decide +kernel, hdisplay, (hgives _ _ hentry).2⟩

end Session

end

/-!
## The equals key, pressed again

A result is left alone when the equals key is pressed again, because it stands behind tokens that
were complete and still are. Where there was no result, the key has changed nothing, so it meets the
same tokens. It then says the same: whether tokens are complete, and why an evaluation fails, does
not depend on the number of decimals, although every intermediate result does.
-/

section

variable {scale : Scale} {Typed : String → Prop}

namespace Engine

variable {tokens : List Token} {engine other : Engine}

/-- Whether complete tokens have a value, and why they have none, does not depend on the number of
decimals. -/
theorem Shape.evaluate_eq_error_iff (h : Shape scale Typed tokens)
    (hcomplete : isComplete tokens = true) (hmem : Token.equals ∉ tokens) (decimals decimals' : Nat)
    {cause : ExpressionError} :
    evaluate scale decimals tokens = .error cause ↔
      evaluate scale decimals' tokens = .error cause := by
  obtain ⟨chain, rfl, -⟩ := h.exists_of_isComplete hcomplete hmem
  exact (chain.evaluate_tokens_sameOutcome scale decimals decimals').eq_error_iff

/-- Where the key leaves the engine as it is, an engine with the same tokens gets the same reply,
whatever its number of decimals. -/
theorem WellFormed.insertEquals_eq_of_tokens_eq (h : engine.WellFormed scale Typed)
    (hsame : (engine.insertEquals scale).engine = engine) (htokens : other.tokens = engine.tokens)
    (hrefusal : other.settings.refusal = engine.settings.refusal) :
    other.insertEquals scale = { engine.insertEquals scale with engine := other } := by
  have hdisplay : other.display = engine.display := congrArg Token.display htokens
  rcases insertEquals_reply_cases scale engine with ⟨hincomplete, heq⟩ | ⟨hcomplete, hmem, heq⟩ |
    ⟨hcomplete, hmem, ⟨text, -, heq⟩ | ⟨hvalue, heq⟩ | ⟨cause, hne, hvalue, heq⟩⟩
  · rw [← htokens] at hincomplete
    rw [heq, insertEquals_of_not_isComplete hincomplete, hrefusal, hdisplay]
  · rw [← htokens] at hcomplete hmem
    rw [heq, insertEquals_of_mem hcomplete hmem]
  · -- a result would have changed the tokens
    have hlength := congrArg (fun engine : Engine => engine.tokens.length) (heq ▸ hsame)
    simp at hlength
  · rw [h.shape.evaluate_eq_error_iff hcomplete hmem _ other.settings.decimals, ← htokens] at hvalue
    rw [← htokens] at hcomplete hmem
    rw [heq, insertEquals_of_not_mem hcomplete hmem, hvalue, hrefusal, hdisplay]
  · rw [h.shape.evaluate_eq_error_iff hcomplete hmem _ other.settings.decimals, ← htokens] at hvalue
    rw [← htokens] at hcomplete hmem
    rw [heq, insertEquals_of_cause hcomplete hmem hne hvalue, hdisplay]

end Engine

namespace Session

/-- Setting the number of decimals does nothing else, and nobody is told. -/
theorem run_setDecimals (scale : Scale) (session : Session) (values : List Nat) :
    session.run scale (values.map fun decimals => .command (.setDecimals decimals)) =
      { session :=
          { session with
            engine :=
              { session.engine with
                settings := values.foldl Settings.setDecimals session.engine.settings } } } := by
  induction values generalizing session with
  | nil => rfl
  | cons value values ih =>
    have hstep : session.step scale (.command (.setDecimals value)) =
        { session := { session with engine := session.engine.setDecimals value } } := by
      rw [step_command_of_perform_eq rfl, Engine.perform, deliver_nil]
    rw [List.map_cons, run, hstep, ih]
    rfl

/-- On a result the key is silent, and nobody is told. -/
theorem step_equals_of_mem {session : Session} (h : Engine.Shape scale Typed session.engine.tokens)
    (hmem : .equals ∈ session.engine.tokens) :
    Engine.isComplete session.engine.tokens = true ∧
      session.step scale (.command .equals) = { session } := by
  have hcomplete := h.isComplete_of_mem hmem
  have hreply : session.engine.perform scale .equals = { engine := session.engine } :=
    Engine.insertEquals_of_mem hcomplete hmem
  refine ⟨hcomplete, ?_⟩
  rw [step_command_of_perform_eq hreply, deliver_nil]

/-- Where the key gives no result, two sessions that differ in the number of decimals hear the
same. -/
theorem step_equals_eq_of_tokens_eq {session other : Session}
    (h : session.engine.WellFormed scale Typed)
    (hsame : (session.engine.insertEquals scale).engine = session.engine)
    (htokens : other.engine.tokens = session.engine.tokens)
    (hrefusal : other.engine.settings.refusal = session.engine.settings.refusal)
    (hlistener : other.listener = session.listener) :
    let first := session.step scale (.command .equals)
    other.step scale (.command .equals) =
      { session := other, deliveries := first.deliveries, log := first.log } := by
  intro first
  have hreply : other.engine.perform scale .equals = _ :=
    h.insertEquals_eq_of_tokens_eq hsame htokens hrefusal
  have hdeliveries : first.deliveries =
      deliver other.listener (session.engine.insertEquals scale).notices := by
    rw [hlistener]
    rfl
  rw [step_command_of_perform_eq hreply, hdeliveries]
  rfl

/-- The equals key pressed twice, after any run, and with the number of decimals changed in between
or not. The second time changes nothing. If there was a result before, the first time does nothing
either; if there is one after the first time, the second time is silent; if the first time was
refused, the second is refused with the same notice; and if the first time was given up, so is the
second, for the same cause. -/
theorem step_equals_repeated (scale : Scale) (refusal : String) (values : List Nat)
    (steps : List Step) (changes : List Nat) :
    let engine : Engine := { settings := values.foldl Settings.setDecimals { refusal } }
    let session := (({ engine } : Session).run scale steps).session
    let first := session.step scale (.command .equals)
    let changed := first.session.run scale
      (changes.map fun decimals => .command (.setDecimals decimals))
    let second := changed.session.step scale (.command .equals)
    second.session = changed.session ∧
      second.session.engine.tokens = first.session.engine.tokens ∧
      (.equals ∈ session.engine.tokens →
        Engine.isComplete session.engine.tokens = true ∧ first = { session }) ∧
      (.equals ∈ first.session.engine.tokens → second = { session := changed.session }) ∧
      (∀ message, .error message ∈ (session.engine.insertEquals scale).notices →
        first.deliveries = deliver session.listener [.error message] ∧
          second.deliveries = first.deliveries ∧ second.log = first.log) ∧
      ∀ cause display, .abandoned cause display ∈ first.log →
        first.deliveries = [] ∧ second.deliveries = [] ∧
          second.log = [.abandoned cause display] := by
  intro engine session first changed second
  have hwellFormed : session.engine.WellFormed scale fun _ => True :=
    wellFormed_run scale refusal values steps
  have hchanged : changed.session =
      { first.session with
        engine :=
          { first.session.engine with
            settings := changes.foldl Settings.setDecimals first.session.engine.settings } } :=
    congrArg Outcome.session (run_setDecimals scale first.session changes)
  have htokens : changed.session.engine.tokens = first.session.engine.tokens := by
    rw [hchanged]
  have hresult : .equals ∈ first.session.engine.tokens →
      second = { session := changed.session } := by
    have hshape := (hwellFormed.perform Command.equals.types_true).shape
    have hshape' : Engine.Shape scale (fun _ => True) first.session.engine.tokens := hshape
    rw [← htokens] at hshape' ⊢
    exact fun hmem => (step_equals_of_mem hshape' hmem).2
  have hunchanged : first.session.engine = session.engine →
      second =
        { session := changed.session, deliveries := first.deliveries, log := first.log } := by
    intro hsame
    have hrefusal : changed.session.engine.settings.refusal = session.engine.settings.refusal := by
      rw [hchanged, ← hsame]
      exact Settings.refusal_foldl_setDecimals _ _
    have hlistener : changed.session.listener = session.listener := by
      rw [hchanged]
      rfl
    have htokens' := htokens.trans (congrArg Engine.tokens hsame)
    exact step_equals_eq_of_tokens_eq hwellFormed hsame htokens' hrefusal hlistener
  have hsecond : second.session = changed.session := by
    rcases Engine.insertEquals_cases scale session.engine with hsame | ⟨text, -, -, -, hengine⟩
    · rw [hunchanged hsame]
    · have hfirst : first.session.engine.tokens =
          session.engine.tokens ++ [.equals, .number text] := congrArg Engine.tokens hengine
      rw [hresult (by simp [hfirst])]
  refine ⟨hsecond, ?_, step_equals_of_mem hwellFormed.shape, hresult, ?_, ?_⟩
  · rw [hsecond, htokens]
  · intro message hnotice
    have hnotices : (session.engine.perform scale .equals).notices = [.error message] :=
      Engine.notices_perform_eq_singleton hnotice
    have hdeliveries : first.deliveries = deliver session.listener [.error message] :=
      congrArg (deliver session.listener) hnotices
    rw [hunchanged (Engine.engine_perform_of_error hnotice)]
    exact ⟨hdeliveries, rfl, rfl⟩
  · intro cause display hlog
    obtain ⟨-, -, -, -, hreply⟩ := Engine.insertEquals_of_abandoned hlog
    have hfirst : first = _ := step_command_of_perform_eq hreply
    have hsame : first.session.engine = session.engine := by
      rw [hfirst]
    rw [hunchanged hsame, hfirst, deliver_nil]
    exact ⟨rfl, rfl, rfl⟩

/-- `7/8-1/00` is refused because of a zero that is not the text `0`. It is refused again with no
decimals, and with twelve, where the quotient in front is another number. -/
theorem step_equals_repeated_of_zero_divisor :
    let steps : List Step := .attach :: "7/8-1/00".toList.map fun c => .command (Command.ofChar c)
    let session := (({} : Session).run .wrapped steps).session
    let first := session.step .wrapped (.command .equals)
    let second := fun decimals : Nat =>
      (first.session.run .wrapped [.command (.setDecimals decimals)]).session.step .wrapped
        (.command .equals)
    let refused : Delivery := { observer := 0, notice := .error "Expression incorrecte" }
    first.deliveries = [refused] ∧ (second 0).deliveries = [refused] ∧
      (second 12).deliveries = [refused] ∧
      (second 12).session.engine.tokens = first.session.engine.tokens := by
  intro steps session first second refused
  have hnotice :
      .error "Expression incorrecte" ∈ (session.engine.insertEquals .wrapped).notices := by
    decide +kernel
  have hfirst : first.deliveries = [refused] := by decide +kernel
  obtain ⟨-, -, -, -, hnone, -⟩ :=
    step_equals_repeated .wrapped "Expression incorrecte" [] steps [0]
  obtain ⟨-, htokens, -, -, htwelve, -⟩ :=
    step_equals_repeated .wrapped "Expression incorrecte" [] steps [12]
  exact ⟨hfirst, (hnone _ hnotice).2.1.trans hfirst, (htwelve _ hnotice).2.1.trans hfirst, htokens⟩

end Session

end

end KeypadCalculator
