import KeypadCalculator.Calculator.Panel
import KeypadCalculator.Proofs.Engine.Report

/-!
# The screen keeps up with the engine

The screen is a copy that only notices change, and an open alert keeps the keys from the engine.
Still the text on the screen is at any time that of the tokens, and an alert is only open over
tokens that the equals key refuses. Both are kept together, since whether an action reaches the
engine depends on the alert, and what it does to the alert depends on the tokens.

* `Calculator.Coherent`: the invariant.
* `Calculator.Coherent.perform`, `Calculator.Coherent.run`: every action preserves it, and so does a
  run.
* `Calculator.screen_run_start`: the screen of a calculator in use.
* `Calculator.refused_run_start`: an open alert stays open under the keys, and comes back after it
  was closed.
-/

namespace KeypadCalculator

variable {scale : Scale} {calculator : Calculator}

/-- The only command that is no key sets the number of decimals. -/
theorem Command.exists_eq_setDecimals {command : Command} (h : command.isKey = false) :
    ∃ decimals, command = .setDecimals decimals := by
  cases command <;> simp [isKey] at h ⊢

namespace Calculator

/-! ## One action -/

/-- While no alert is open, every command is sent to the engine. -/
theorem perform_of_alert_eq_none (h : calculator.screen.alert = none) (command : Command) :
    calculator.perform scale (.command command) = calculator.send scale command := by
  simp [perform, h]

/-- The number of decimals can be set at any time. -/
theorem perform_setDecimals (scale : Scale) (calculator : Calculator) (decimals : Nat) :
    calculator.perform scale (.command (.setDecimals decimals)) =
      { calculator with engine := calculator.engine.setDecimals decimals } := rfl

/-- A command with one notice leaves the engine as it does, and the screen receives the notice. -/
theorem send_of_notice {command : Command} {notice : Notice}
    (h : (calculator.engine.perform scale command).notices = [notice]) :
    calculator.send scale command =
      { engine := (calculator.engine.perform scale command).engine
        screen := calculator.screen.receive notice } := by
  simp only [send, h, List.foldl_cons, List.foldl_nil]

/-- A command without a notice leaves the screen as it is. -/
theorem send_of_notices_eq_nil {command : Command}
    (h : (calculator.engine.perform scale command).notices = []) :
    calculator.send scale command =
      { calculator with engine := (calculator.engine.perform scale command).engine } := by
  simp only [send, h, List.foldl_nil]

/-! ## The invariant -/

/-- The screen shows what the engine holds, and its alert is a refusal of that. -/
structure Coherent (scale : Scale) (calculator : Calculator) : Prop where
  /-- The engine is one in use, whatever was typed. -/
  wellFormed : calculator.engine.WellFormed scale fun _ => True
  /-- The text is that of the tokens. -/
  text : calculator.screen.text = Engine.shown calculator.engine.tokens
  /-- An alert has the message of the engine, and the equals key refuses the tokens. -/
  alert : ∀ message, calculator.screen.alert = some message →
    message = calculator.engine.settings.refusal ∧ Engine.IsRefused scale calculator.engine.tokens

/-- The invariant holds of a calculator that was not used yet. -/
theorem coherent_start (scale : Scale) : start.Coherent scale := by
  refine ⟨Engine.wellFormed_start _ [], rfl, ?_⟩
  intro message halert
  cases halert

/-- Setting the number of decimals preserves the invariant. -/
theorem Coherent.setDecimals (h : calculator.Coherent scale) (decimals : Nat) :
    Coherent scale { calculator with engine := calculator.engine.setDecimals decimals } :=
  ⟨h.wellFormed.perform (Command.setDecimals decimals).types_true, h.text, h.alert⟩

/-- What reaches the engine while no alert is open. -/
theorem Coherent.send (h : calculator.Coherent scale) (hnone : calculator.screen.alert = none)
    (command : Command) : (calculator.send scale command).Coherent scale := by
  have hwellFormed := h.wellFormed.perform command.types_true
  rcases Engine.notices_perform_cases scale calculator.engine command with ⟨hnotice, -⟩ |
    ⟨rfl, hnotice, hengine⟩ | ⟨hnotice, htokens, hrefusal⟩
  · -- the text follows the tokens, and no alert has to be accounted for
    rw [send_of_notice hnotice]
    refine ⟨hwellFormed, rfl, ?_⟩
    intro message halert
    have hopen : calculator.screen.alert = some message := halert
    rw [hnone] at hopen
    cases hopen
  · -- an alert opens over tokens that stay as they are
    rw [send_of_notice hnotice, hengine]
    refine ⟨h.wellFormed, h.text, ?_⟩
    intro message halert
    exact ⟨(Option.some.inj halert).symm, h.wellFormed.isRefused (hnotice ▸ List.mem_cons_self)⟩
  · -- the screen hears nothing, and nothing that it shows has changed
    rw [send_of_notices_eq_nil hnotice]
    refine ⟨hwellFormed, ?_, ?_⟩
    · rw [htokens]
      exact h.text
    · rw [htokens, hrefusal]
      exact h.alert

/-- Every action preserves the invariant. -/
theorem Coherent.perform (h : calculator.Coherent scale) (action : Action) :
    (calculator.perform scale action).Coherent scale := by
  cases action with
  | dismiss =>
    refine ⟨h.wellFormed, h.text, ?_⟩
    intro message halert
    cases halert
  | command command =>
    cases halert : calculator.screen.alert with
    | none =>
      rw [perform_of_alert_eq_none halert]
      exact h.send halert command
    | some message =>
      cases hkey : command.isKey with
      | true =>
        rw [perform_of_alert hkey (Option.isSome_of_eq_some halert)]
        exact h
      | false =>
        obtain ⟨decimals, rfl⟩ := Command.exists_eq_setDecimals hkey
        exact h.setDecimals decimals

/-- A run of actions preserves the invariant. -/
theorem Coherent.run (h : calculator.Coherent scale) (actions : List Action) :
    (calculator.run scale actions).Coherent scale := by
  induction actions generalizing calculator with
  | nil => exact h
  | cons action actions ih => exact ih (h.perform action)

/-- Whatever is done with a calculator, its screen shows the tokens of the engine, or zero if there
are none; results have at most twelve decimals; and an alert has the message of the engine. -/
theorem screen_run_start (scale : Scale) (actions : List Action) :
    let calculator := start.run scale actions
    calculator.screen.text =
        (if calculator.engine.tokens = [] then "0" else Token.display calculator.engine.tokens) ∧
      calculator.engine.settings.decimals ≤ 12 ∧
      (calculator.screen.alert = none ∨
        calculator.screen.alert = some calculator.engine.settings.refusal) := by
  intro calculator
  have h : calculator.Coherent scale := (coherent_start scale).run actions
  refine ⟨h.text, h.wellFormed.decimals_le, ?_⟩
  cases halert : calculator.screen.alert with
  | none => exact .inl rfl
  | some message => exact .inr (congrArg some (h.alert message halert).1)

/-! ## Open alerts -/

/-- Under an open alert only the number of decimals can be changed. -/
theorem typeKeys_of_alert (h : calculator.screen.alert.isSome = true) (commands : List Command) :
    (calculator.typeKeys scale commands).engine.tokens = calculator.engine.tokens ∧
      (calculator.typeKeys scale commands).screen = calculator.screen := by
  induction commands generalizing calculator with
  | nil => exact ⟨rfl, rfl⟩
  | cons command commands ih =>
    have hcons : calculator.typeKeys scale (command :: commands) =
        (calculator.perform scale (.command command)).typeKeys scale commands := rfl
    rw [hcons]
    cases hkey : command.isKey with
    | true =>
      rw [perform_of_alert hkey h]
      exact ih h
    | false =>
      obtain ⟨decimals, rfl⟩ := Command.exists_eq_setDecimals hkey
      rw [perform_setDecimals]
      exact ih h

/-- Setting the number of decimals any number of times changes the settings alone. -/
theorem run_setDecimals (scale : Scale) (calculator : Calculator) (values : List Nat) :
    calculator.run scale (values.map fun decimals => .command (.setDecimals decimals)) =
      { calculator with
        engine :=
          { calculator.engine with
            settings := values.foldl Settings.setDecimals calculator.engine.settings } } := by
  induction values generalizing calculator with
  | nil => rfl
  | cons value values ih =>
    rw [List.map_cons, run_cons, perform_setDecimals, ih]
    rfl

/-- Tokens that are refused bring up the alert and stay as they are. -/
theorem perform_equals_of_isRefused (hnone : calculator.screen.alert = none)
    (h : Engine.IsRefused scale calculator.engine.tokens) :
    calculator.perform scale (.command .equals) =
      { calculator with
        screen :=
          { calculator.screen with alert := some calculator.engine.settings.refusal } } := by
  have hreply : (calculator.engine.perform scale .equals).notices =
        [.error calculator.engine.settings.refusal] ∧
      (calculator.engine.perform scale .equals).engine = calculator.engine :=
    h calculator.engine.settings
  rw [perform_of_alert_eq_none hnone, send_of_notice hreply.1, hreply.2]
  rfl

/-- Whatever was done with a calculator, an open alert is a refusal of what it shows. Keys and
changes of the number of decimals leave tokens and screen as they are; and if the alert is closed,
then the equals key opens it again, with the same tokens and the same text, whatever the number of
decimals was set to in between. -/
theorem refused_run_start (scale : Scale) {actions : List Action} {message : String}
    (halert : (start.run scale actions).screen.alert = some message) :
    let calculator := start.run scale actions
    (∀ commands : List Command,
      let typed := calculator.typeKeys scale commands
      typed.engine.tokens = calculator.engine.tokens ∧ typed.screen = calculator.screen) ∧
    ∀ values : List Nat,
      let closed := calculator.run scale
        (.dismiss :: values.map fun decimals => .command (.setDecimals decimals))
      let asked := closed.perform scale (.command .equals)
      closed.screen.alert = none ∧
        asked.engine.tokens = calculator.engine.tokens ∧ asked.screen = calculator.screen := by
  intro calculator
  have h : calculator.Coherent scale := (coherent_start scale).run actions
  obtain ⟨hmessage, hrefused⟩ := h.alert message halert
  refine ⟨typeKeys_of_alert (Option.isSome_of_eq_some halert), ?_⟩
  intro values closed asked
  let settings := values.foldl Settings.setDecimals calculator.engine.settings
  have hrefusal : settings.refusal = message :=
    (Settings.refusal_foldl_setDecimals _ _).trans hmessage.symm
  have hclosed : closed =
      { engine := { calculator.engine with settings }
        screen := { calculator.screen with alert := none } } :=
    run_setDecimals scale calculator.dismiss values
  have hasked : asked =
      { engine := { calculator.engine with settings }
        screen := { calculator.screen with alert := some message } } := by
    rw [← hrefusal]
    show closed.perform scale (.command .equals) = _
    rw [hclosed]
    exact perform_equals_of_isRefused rfl hrefused
  refine ⟨?_, ?_, ?_⟩
  · rw [hclosed]
  · rw [hasked]
  · rw [hasked, ← halert]

/-- The expression `9-1/8/00` is refused by the evaluation, and again with no decimals and with
twelve. -/
theorem refused_run_start_of_zero_divisor :
    let actions : List Action := "9-1/8/00=".toList.map fun c => .command (Command.ofChar c)
    let calculator := start.run .wrapped actions
    let closed := calculator.run .wrapped
      [.dismiss, .command (.setDecimals 0), .command (.setDecimals 12)]
    let asked := closed.perform .wrapped (.command .equals)
    calculator.screen = { text := "9-1/8/00", alert := some "Expression incorrecte" } ∧
      (calculator.typeKeys .wrapped [.digits "5", .setDecimals 7, .clear]).screen =
        calculator.screen ∧
      closed.screen.alert = none ∧ asked.engine.tokens = calculator.engine.tokens ∧
      asked.screen = calculator.screen := by
  intro actions calculator closed asked
  have hscreen : calculator.screen =
      { text := "9-1/8/00", alert := some "Expression incorrecte" } := by
    decide +kernel
  obtain ⟨htyped, hclosed⟩ := refused_run_start .wrapped (congrArg Screen.alert hscreen)
  exact ⟨hscreen, (htyped _).2, hclosed [0, 12]⟩

end Calculator

end KeypadCalculator
