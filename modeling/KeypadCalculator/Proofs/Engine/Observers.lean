import KeypadCalculator.Proofs.Engine.Report

/-!
# Observers that come and go

The engine does not depend on being observed. Making and releasing observers is nothing to it: what
it holds and what it logs is a matter of the calls alone. Who is told of a notice is a matter of the
steps before it: it is the observer made last, as long as it was not released, and nobody else. So
an observer has seen every display since it was attached, and the last of them is what the engine
holds.

* `Session.log_run`: the log of a run is that of its calls.
* `Session.IsListening`: the observer made last, unless it was released.
* `Session.listener_run_iff`: it is the one that the engine notifies.
* `Session.isShownBy_displaysFor_run`: what an observer shows is what the engine holds.
* `Session.run_observed`: observers see every display and change nothing.
-/

namespace KeypadCalculator

variable {scale : Scale} {engine : Engine} {steps : List Step} {step : Step} {observer : Nat}

/-! ## The calls of a run -/

/-- What a run of calls logs. -/
def Engine.entries (scale : Scale) (engine : Engine) : List Command → List LogEntry
  | [] => []
  | command :: commands =>
    let reply := engine.perform scale command
    reply.entries ++ reply.engine.entries scale commands

namespace Session

/-- The log of a run is that of its calls. -/
theorem log_run (scale : Scale) (session : Session) (steps : List Step) :
    (session.run scale steps).log =
      session.engine.entries scale (steps.filterMap Step.command?) := by
  induction steps generalizing session with
  | nil => rfl
  | cons step steps ih =>
    show (session.step scale step).log ++
      ((session.step scale step).session.run scale steps).log = _
    rw [ih]
    cases step <;> rfl

/-- A step that is not a call changes nothing but who is listening. -/
theorem step_of_command?_eq_none (session : Session) (h : step.command? = none) :
    let outcome := session.step scale step
    outcome.session.engine = session.engine ∧ outcome.log = [] ∧ outcome.deliveries = [] := by
  cases step with
  | command => cases h
  | attach => exact ⟨rfl, rfl, rfl⟩
  | release => exact ⟨rfl, rfl, rfl⟩

/-- The last step of a run adds its deliveries and its log to those of the others. -/
theorem run_concat (scale : Scale) (session : Session) (steps : List Step) (step : Step) :
    session.run scale (steps ++ [step]) =
      let first := session.run scale steps
      let last := first.session.step scale step
      { session := last.session
        deliveries := first.deliveries ++ last.deliveries
        log := first.log ++ last.log } := by
  simp [run_append, run]

/-! ## Who is listening -/

/-- The observer of this number is the one that was made last, and it was not released since.
Observers are numbered in the order in which they are made. -/
def IsListening (steps : List Step) (observer : Nat) : Prop :=
  ∃ earlier later, steps = earlier ++ .attach :: later ∧ observer = earlier.count .attach ∧
    .attach ∉ later ∧ .release observer ∉ later

/-- An observer that is listening has been made. -/
theorem IsListening.lt_count (h : IsListening steps observer) : observer < steps.count .attach := by
  obtain ⟨earlier, later, rfl, rfl, -, -⟩ := h
  rw [List.count_append, List.count_cons_self]
  omega

/-- Once an observer was made, it is the one that is listening. -/
theorem isListening_concat_attach_iff :
    IsListening (steps ++ [.attach]) observer ↔ observer = steps.count .attach := by
  constructor
  · rintro ⟨earlier, later, heq, rfl, hattach, -⟩
    rcases List.eq_nil_or_concat' later with rfl | ⟨later, last, rfl⟩
    · rw [(List.append_inj' heq rfl).1]
    · rw [← List.cons_append, ← List.append_assoc] at heq
      obtain ⟨-, hlast⟩ := List.append_inj' heq rfl
      rw [← hlast] at hattach
      simp at hattach
  · rintro rfl
    exact ⟨steps, [], rfl, rfl, List.not_mem_nil, List.not_mem_nil⟩

/-- Whoever is listening goes on listening, unless there is a new observer or it is released. -/
theorem isListening_concat_iff (h : step ≠ .attach) :
    IsListening (steps ++ [step]) observer ↔
      IsListening steps observer ∧ step ≠ .release observer := by
  constructor
  · rintro ⟨earlier, later, heq, rfl, hattach, hrelease⟩
    rcases List.eq_nil_or_concat' later with rfl | ⟨later, last, rfl⟩
    · exact absurd (List.cons.inj (List.append_inj' heq rfl).2).1 h
    · rw [← List.cons_append, ← List.append_assoc] at heq
      obtain ⟨rfl, hlast⟩ := List.append_inj' heq rfl
      obtain rfl := (List.cons.inj hlast).1
      rw [List.mem_append, List.mem_singleton, not_or] at hattach hrelease
      exact ⟨⟨earlier, later, rfl, rfl, hattach.1, hrelease.1⟩, Ne.symm hrelease.2⟩
  · rintro ⟨⟨earlier, later, rfl, rfl, hattach, hrelease⟩, hstep⟩
    refine ⟨earlier, later ++ [step], by simp, rfl, ?_, ?_⟩
    · simp [hattach, h.symm]
    · simp [hrelease, hstep.symm]

/-- A run makes as many observers as it has steps that attach one. -/
theorem made_run (scale : Scale) (session : Session) (steps : List Step) :
    (session.run scale steps).session.made = session.made + steps.count .attach := by
  induction steps using List.reverseRecOn with
  | nil => rfl
  | append_singleton steps step ih =>
    rw [run_concat, List.count_append]
    cases step with
    | command command => exact ih
    | attach =>
      show (session.run scale steps).session.made + 1 = _
      rw [ih, List.count_singleton_self, Nat.add_assoc]
    | release released => exact ih

/-- The engine notifies the observer that was made last, as long as it was not released. -/
theorem listener_run_iff :
    (({ engine } : Session).run scale steps).session.listener = some observer ↔
      IsListening steps observer := by
  induction steps using List.reverseRecOn with
  | nil =>
    refine iff_of_false nofun ?_
    rintro ⟨earlier, later, heq, -⟩
    simp at heq
  | append_singleton steps step ih =>
    rw [run_concat]
    cases step with
    | command command =>
      have hstep : Step.command command ≠ .attach := nofun
      rw [isListening_concat_iff hstep]
      exact ih.trans (iff_self_and.mpr fun _ => nofun)
    | attach =>
      rw [isListening_concat_attach_iff]
      show some (({ engine } : Session).run scale steps).session.made = some observer ↔ _
      rw [made_run, Nat.zero_add, Option.some.injEq, eq_comm]
    | release released =>
      have hstep : Step.release released ≠ .attach := nofun
      rw [isListening_concat_iff hstep, ← ih]
      show (if (({ engine } : Session).run scale steps).session.listener = some released
        then none else _) = some observer ↔ _
      split_ifs with hreleased
      · rw [hreleased]
        refine iff_of_false nofun ?_
        rintro ⟨hsome, hne⟩
        exact hne (congrArg Step.release (Option.some.inj hsome))
      · refine iff_self_and.mpr ?_
        intro hsome heq
        rw [Step.release.inj heq] at hreleased
        exact hreleased hsome

/-- Whoever receives something when a step is carried out is the one who is listening. -/
theorem mem_deliveries_step_iff {delivery : Delivery} :
    let session := (({ engine } : Session).run scale steps).session
    delivery ∈ (session.step scale step).deliveries ↔
      IsListening steps delivery.observer ∧ ∃ command, step = .command command ∧
        delivery.notice ∈ (session.engine.perform scale command).notices := by
  intro session
  cases step with
  | command command =>
    rw [← listener_run_iff]
    refine mem_deliver_iff.trans (and_congr_right' ?_)
    simp
  | attach => exact iff_of_false List.not_mem_nil nofun
  | release released => exact iff_of_false List.not_mem_nil nofun

/-- An observer exists before it receives anything. -/
theorem lt_count_of_mem_deliveries_run {delivery : Delivery}
    (h : delivery ∈ (({ engine } : Session).run scale steps).deliveries) :
    delivery.observer < steps.count .attach := by
  induction steps using List.reverseRecOn with
  | nil => cases h
  | append_singleton steps step ih =>
    rw [List.count_append]
    rw [run_concat] at h
    rcases List.mem_append.mp h with hfirst | hlast
    · exact Nat.lt_add_right _ (ih hfirst)
    · exact Nat.lt_add_right _ (mem_deliveries_step_iff.mp hlast).1.lt_count

end Session

/-! ## What an observer shows -/

/-- The text that an observer displays when it receives a delivery. -/
def Delivery.displayFor? (observer : Nat) (delivery : Delivery) : Option String :=
  match delivery.notice with
  | .display text => if delivery.observer = observer then some text else none
  | .error _ => none

/-- The texts that an observer has displayed, in order. -/
def Delivery.displaysFor (observer : Nat) (deliveries : List Delivery) : List String :=
  deliveries.filterMap (displayFor? observer)

/-- The last of the texts, if there are any, shows what the engine holds. -/
def Engine.IsShownBy (engine : Engine) (texts : List String) : Prop :=
  ∀ text, texts.getLast? = some text → text = Engine.shown engine.tokens

namespace Session

open Delivery

/-- The texts of deliveries in a row are those of the ones and then of the others. -/
theorem displaysFor_append (before after : List Delivery) :
    displaysFor observer (before ++ after) =
      displaysFor observer before ++ displaysFor observer after :=
  List.filterMap_append

/-- An observer that receives nothing displays nothing. -/
theorem displaysFor_eq_nil {deliveries : List Delivery}
    (h : ∀ delivery ∈ deliveries, delivery.observer ≠ observer) :
    displaysFor observer deliveries = [] := by
  refine List.filterMap_eq_nil_iff.mpr fun delivery hdelivery => ?_
  unfold displayFor?
  split
  · exact if_neg (h delivery hdelivery)
  · rfl

/-- A display that is delivered to an observer is displayed by it. -/
theorem displaysFor_deliver_display (text : String) :
    displaysFor observer (deliver (some observer) [.display text]) = [text] := by
  simp [displaysFor, deliver, displayFor?]

/-- A call keeps the observer that it notifies up to date. -/
theorem isShownBy_perform (scale : Scale) (observer : Nat) {texts : List String}
    (h : engine.IsShownBy texts) (command : Command) :
    let reply := engine.perform scale command
    reply.engine.IsShownBy
      (texts ++ displaysFor observer (deliver (some observer) reply.notices)) := by
  intro reply
  rcases Engine.notices_perform_cases scale engine command with ⟨hnotice, -⟩ |
    ⟨-, hnotice, hengine⟩ | ⟨hnotice, htokens, -⟩
  · intro text htext
    rw [hnotice, displaysFor_deliver_display, List.getLast?_concat] at htext
    exact (Option.some.inj htext).symm
  · rw [hnotice, hengine, show displaysFor _ (deliver _ [.error _]) = [] from rfl,
      List.append_nil]
    exact h
  · rw [hnotice, show displaysFor _ (deliver _ []) = [] from rfl, List.append_nil]
    unfold Engine.IsShownBy
    rw [htokens]
    exact h

/-- An observer that is listening shows what the engine holds, from the first display on. -/
theorem isShownBy_displaysFor_run (h : IsListening steps observer) :
    let outcome := ({ engine } : Session).run scale steps
    outcome.session.engine.IsShownBy (displaysFor observer outcome.deliveries) := by
  -- the observer is made by the last step, or it is listening before that
  induction steps using List.reverseRecOn with
  | nil => exact nofun
  | append_singleton steps step ih =>
    rw [run_concat]
    intro outcome
    show Engine.IsShownBy _ (displaysFor observer (_ ++ _))
    rw [displaysFor_append]
    cases step with
    | attach =>
      obtain rfl := isListening_concat_attach_iff.mp h
      rw [displaysFor_eq_nil fun delivery hmem => (lt_count_of_mem_deliveries_run hmem).ne]
      exact nofun
    | release released =>
      have hstep : Step.release released ≠ .attach := nofun
      show Engine.IsShownBy _ (_ ++ [])
      rw [List.append_nil]
      exact ih ((isListening_concat_iff hstep).mp h).1
    | command command =>
      have hstep : Step.command command ≠ .attach := nofun
      have hlistening := ((isListening_concat_iff hstep).mp h).1
      have hshown := isShownBy_perform scale observer (ih hlistening) command
      rw [← listener_run_iff.mpr hlistening] at hshown
      exact hshown

/-! ## Observed runs -/

/-- Runs with observers that are made and released at any time. Runs with the same calls lead to the
same engine and the same log, and each call of them as well; the other steps do nothing to the
engine. A notice is received by the observer that is listening and by nobody else. An observer that
is listening and has displayed something shows what the engine holds, or zero if that is nothing. -/
theorem run_observed (scale : Scale) (engine : Engine) :
    let start : Session := { engine }
    let reached := fun steps : List Step => (start.run scale steps).session
    (∀ steps steps' : List Step, steps.filterMap Step.command? = steps'.filterMap Step.command? →
      (reached steps).engine = (reached steps').engine ∧
      (start.run scale steps).log = (start.run scale steps').log ∧
      ∀ command : Command,
        let outcome := (reached steps).step scale (.command command)
        let outcome' := (reached steps').step scale (.command command)
        outcome.session.engine = outcome'.session.engine ∧ outcome.log = outcome'.log) ∧
    (∀ (steps : List Step) (step : Step), step.command? = none →
      let outcome := (reached steps).step scale step
      outcome.session.engine = (reached steps).engine ∧ outcome.log = [] ∧
        outcome.deliveries = []) ∧
    (∀ (steps : List Step) (step : Step) (delivery : Delivery),
      delivery ∈ ((reached steps).step scale step).deliveries ↔
        IsListening steps delivery.observer ∧ ∃ command, step = .command command ∧
          delivery.notice ∈ ((reached steps).engine.perform scale command).notices) ∧
    ∀ (steps : List Step) (observer : Nat) (text : String), IsListening steps observer →
      (displaysFor observer (start.run scale steps).deliveries).getLast? = some text →
      text = if (reached steps).engine.tokens = [] then "0"
        else Token.display (reached steps).engine.tokens := by
  intro start reached
  have hengine : ∀ steps : List Step,
      (reached steps).engine = engine.run scale (steps.filterMap Step.command?) :=
    start.engine_run scale
  refine ⟨?_, ?_, ?_, ?_⟩
  · intro steps steps' hcalls
    have hreached : (reached steps).engine = (reached steps').engine := by
      rw [hengine, hengine, hcalls]
    refine ⟨hreached, ?_, ?_⟩
    · rw [log_run, log_run, hcalls]
    · intro command outcome outcome'
      show ((reached steps).engine.perform scale command).engine = _ ∧
        ((reached steps).engine.perform scale command).entries = _
      rw [hreached]
      exact ⟨rfl, rfl⟩
  · intro steps step
    exact step_of_command?_eq_none (reached steps)
  · intro steps step delivery
    exact mem_deliveries_step_iff
  · intro steps observer text hlistening htext
    exact isShownBy_displaysFor_run hlistening text htext

/-- The keys of `12-7=` with three observers. The first one is released while it is attached, the
second one is replaced and released afterwards; the third one has the result. -/
theorem run_observed_of_three_observers :
    let steps : List Step :=
      [.attach, .command (.digits "1"), .release 0, .command (.digits "2"), .attach,
        .command (.operator "-"), .attach, .release 1, .command (.digits "7"), .command .equals]
    let unobserved := steps.filter fun step => step.command?.isSome
    let outcome := ({} : Session).run .wrapped steps
    outcome.session.engine = (({} : Session).run .wrapped unobserved).session.engine ∧
      outcome.log = (({} : Session).run .wrapped unobserved).log ∧
      IsListening steps 2 ∧ displaysFor 2 outcome.deliveries = ["12-7", "12-7=5"] ∧
      "12-7=5" = Token.display outcome.session.engine.tokens := by
  intro steps unobserved outcome
  have hlistening : IsListening steps 2 :=
    ⟨steps.take 6, steps.drop 7, rfl, rfl, by decide, by decide⟩
  have hdisplays : displaysFor 2 outcome.deliveries = ["12-7", "12-7=5"] := by decide +kernel
  have hheld : outcome.session.engine.tokens ≠ [] := by decide +kernel
  obtain ⟨hsame, -, -, hshown⟩ := run_observed .wrapped {}
  obtain ⟨hengine, hlog, -⟩ := hsame steps unobserved rfl
  have htext := hshown steps 2 "12-7=5" hlistening (congrArg List.getLast? hdisplays)
  rw [if_neg hheld] at htext
  exact ⟨hengine, hlog, hlistening, hdisplays, htext⟩

end Session

end KeypadCalculator
