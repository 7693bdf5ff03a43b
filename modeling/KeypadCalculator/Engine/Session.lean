import KeypadCalculator.Engine.Basic

/-!
# Calls to the engine, and sessions with observers

A call takes the engine to its reply. A session is an engine together with the observer that hears
its notices.

* `Engine.insertDigits`, `Engine.insertOperator`, `Engine.insertEquals`, `Engine.clear`: the keys.
* `Command` and `Engine.perform`: all calls under one type, so that a run is a list of commands.
* `Engine.run_append`: a run in two parts.
* `Session.deliver`: who receives notices, and `Session.mem_deliver_iff`: nobody else does.
* `Session.step` carries out one step; its `Outcome` says who was told what.
* `Session.run` carries out a list of steps and collects deliveries and log entries in order.
-/

namespace KeypadCalculator

/-!
## Calls

A call takes the engine to a `Reply`: the engine after the call, the notices that it gave and the
entries that it logged. Digits typed after a result start a new expression, an operator goes on from
it, and a second `=` does nothing. Who receives a notice is no matter of the engine.
-/

/-- What a call to the engine leads to. -/
structure Reply where
  /-- The engine after the call. -/
  engine : Engine
  /-- What the observer is told, in order. -/
  notices : List Notice := []
  /-- What is logged, in order. -/
  entries : List LogEntry := []
  deriving DecidableEq, Repr

namespace Engine

/-! ### Keys -/

/-- Digits are typed. They are taken as they are; after a result they start a new expression. -/
def insertDigits (engine : Engine) (text : String) : Reply :=
  let tokens :=
    if (result? engine.tokens).isSome then [.number text] else writeDigits engine.tokens text
  { engine := { engine with tokens }
    notices := [.display (Token.display tokens)]
    entries := [.digits text (Token.display tokens)] }

/-- An operator key is pressed. A refusal is logged, but nobody is notified of it. -/
def insertOperator (engine : Engine) (text : String) : Reply :=
  match Operator.ofText? text with
  | none => { engine, entries := [.unknownOperator text] }
  | some op =>
    match writeOperator? engine.tokens op with
    | none => { engine, entries := [.refusedOperator text] }
    | some tokens =>
      { engine := { engine with tokens }
        notices := [.display (Token.display tokens)]
        entries := [.operator text (Token.display tokens)] }

/-- The equals key is pressed. An incomplete expression and a division by zero are refused with a
notice; an expression that has its result is left alone. -/
def insertEquals (scale : Scale) (engine : Engine) : Reply :=
  if !isComplete engine.tokens then
    { engine
      notices := [.error engine.settings.refusal]
      entries := [.incomplete engine.display] }
  else if engine.tokens.contains .equals then
    { engine }
  else
    match evaluate scale engine.settings.decimals engine.tokens with
    | .ok text =>
      let tokens := engine.tokens ++ [.equals, .number text]
      { engine := { engine with tokens }
        notices := [.display (Token.display tokens)]
        entries := [.result (Token.display tokens)] }
    | .error .divisionByZero =>
      { engine
        notices := [.error engine.settings.refusal]
        entries := [.divisionByZero engine.display] }
    | .error cause => { engine, entries := [.abandoned cause engine.display] }

/-- Everything is cleared, and the display goes back to zero. -/
def clear (engine : Engine) : Reply :=
  { engine := { engine with tokens := [] }
    notices := [.display "0"]
    entries := [.cleared] }

end Engine

/-! ### Commands -/

/-- A call to the engine. -/
inductive Command where
  /-- Digits are typed; any text is taken for digits. -/
  | digits (text : String)
  /-- An operator key is pressed; its text need not name an operator. -/
  | operator (text : String)
  /-- The equals key is pressed. -/
  | equals
  /-- Everything is cleared. -/
  | clear
  /-- The number of decimals is set. -/
  | setDecimals (decimals : Nat)
  deriving DecidableEq, Repr

/-- The command of a typed character: a digit, `=`, `C` to clear; any other character is taken for
an operator key. -/
def Command.ofChar (c : Char) : Command :=
  if c.isDigit then .digits c.toString
  else if c = '=' then .equals
  else if c = 'C' then .clear
  else .operator c.toString

namespace Engine

/-- Carries out a command. -/
def perform (scale : Scale) (engine : Engine) : Command → Reply
  | .digits text => engine.insertDigits text
  | .operator text => engine.insertOperator text
  | .equals => engine.insertEquals scale
  | .clear => engine.clear
  | .setDecimals decimals => { engine := engine.setDecimals decimals }

/-- The operator key is the insertion of its text. -/
theorem perform_operator (scale : Scale) (engine : Engine) (text : String) :
    engine.perform scale (.operator text) = engine.insertOperator text := rfl

/-- The equals key is the insertion of an equals sign. -/
theorem perform_equals (scale : Scale) (engine : Engine) :
    engine.perform scale .equals = engine.insertEquals scale := rfl

/-- The engine after a run of commands. -/
def run (scale : Scale) (engine : Engine) (commands : List Command) : Engine :=
  commands.foldl (fun engine command => (engine.perform scale command).engine) engine

/-- A run of no calls leaves the engine as it is. -/
@[simp] theorem run_nil (scale : Scale) (engine : Engine) : engine.run scale [] = engine := rfl

/-- A run makes its first call, and the others on the engine that this call leaves. -/
@[simp] theorem run_cons (scale : Scale) (engine : Engine) (command : Command)
    (commands : List Command) :
    engine.run scale (command :: commands) =
      (engine.perform scale command).engine.run scale commands := rfl

/-- Two runs in a row are one run. -/
theorem run_append (scale : Scale) (engine : Engine) (before after : List Command) :
    engine.run scale (before ++ after) = (engine.run scale before).run scale after :=
  List.foldl_append

end Engine

/-!
## Sessions

Observers are numbered in the order in which they are made. Making one attaches it to the engine
in the place of the one before. The engine does not own its observer: one that is released while
it is attached leaves the engine with nobody to notify, until another is made.
-/

/-- An engine with the observer that it notifies. -/
structure Session where
  /-- The engine. -/
  engine : Engine := {}
  /-- How many observers were made so far. -/
  made : Nat := 0
  /-- The attached observer, if it still exists. -/
  listener : Option Nat := none
  deriving DecidableEq, Repr

/-- One step of a session. -/
inductive Step where
  /-- A call to the engine. -/
  | command (command : Command)
  /-- A new observer is made and attached. -/
  | attach
  /-- An observer ceases to exist. -/
  | release (observer : Nat)
  deriving DecidableEq, Repr

/-- A notice and the number of the observer that received it. -/
structure Delivery where
  observer : Nat
  notice : Notice
  deriving DecidableEq, Repr

/-- What one or more steps of a session lead to. -/
structure Outcome where
  /-- The session afterwards. -/
  session : Session
  /-- The notices that reached an observer, in order. -/
  deliveries : List Delivery := []
  /-- The log entries, in order. -/
  log : List LogEntry := []
  deriving DecidableEq, Repr

namespace Session

/-- Who receives notices: the attached observer, if there is one. -/
def deliver (listener : Option Nat) (notices : List Notice) : List Delivery :=
  match listener with
  | some observer => notices.map fun notice => { observer, notice }
  | none => []

/-- A notice reaches the attached observer and nobody else. -/
theorem mem_deliver_iff {listener : Option Nat} {notices : List Notice} {delivery : Delivery} :
    delivery ∈ deliver listener notices ↔
      listener = some delivery.observer ∧ delivery.notice ∈ notices := by
  cases listener with
  | none => simp [deliver]
  | some observer =>
    constructor
    · intro h
      obtain ⟨notice, hnotice, rfl⟩ := List.mem_map.mp h
      exact ⟨rfl, hnotice⟩
    · rintro ⟨hlistener, hnotice⟩
      obtain rfl := Option.some.inj hlistener
      exact List.mem_map.mpr ⟨delivery.notice, hnotice, rfl⟩

/-- Every notice is delivered once at most. -/
theorem length_deliver_le (listener : Option Nat) (notices : List Notice) :
    (deliver listener notices).length ≤ notices.length := by
  cases listener <;> simp [deliver]

/-- Without a notice nobody receives anything. -/
@[simp] theorem deliver_nil (listener : Option Nat) : deliver listener [] = [] := by
  cases listener <;> rfl

/-- Carries out one step. -/
def step (scale : Scale) (session : Session) : Step → Outcome
  | .command command =>
    let reply := session.engine.perform scale command
    { session := { session with engine := reply.engine }
      deliveries := deliver session.listener reply.notices
      log := reply.entries }
  | .attach =>
    { session := { session with made := session.made + 1, listener := some session.made } }
  | .release observer =>
    { session :=
        { session with
          listener := if session.listener = some observer then none else session.listener } }

/-- What a call leads to is its reply, with the notices delivered. -/
theorem step_command_of_perform_eq {scale : Scale} {session : Session} {command : Command}
    {reply : Reply} (h : session.engine.perform scale command = reply) :
    session.step scale (.command command) =
      { session := { session with engine := reply.engine }
        deliveries := deliver session.listener reply.notices
        log := reply.entries } := by
  subst h
  rfl

/-- Carries out a list of steps. -/
def run (scale : Scale) (session : Session) : List Step → Outcome
  | [] => { session }
  | s :: steps =>
    let head := session.step scale s
    let tail := head.session.run scale steps
    { session := tail.session
      deliveries := head.deliveries ++ tail.deliveries
      log := head.log ++ tail.log }

/-- A run of no steps leaves the session as it is and gives nothing. -/
@[simp] theorem run_nil (scale : Scale) (session : Session) :
    session.run scale [] = { session } := rfl

/-- What happens in a longer run is what happens in its two parts, one after the other. -/
theorem run_append (scale : Scale) (session : Session) (before after : List Step) :
    session.run scale (before ++ after) =
      let first := session.run scale before
      let second := first.session.run scale after
      { session := second.session
        deliveries := first.deliveries ++ second.deliveries
        log := first.log ++ second.log } := by
  induction before generalizing session with
  | nil => simp
  | cons s steps ih => simp [run, ih]

end Session

end KeypadCalculator
