import KeypadCalculator.Proofs.Engine.Shape
import KeypadCalculator.Proofs.Expression.Success

/-!
# What a call reports

A call has three outputs: the tokens, its notices, and its log entries. The notices say whenever the
tokens have changed, and the log says when there is a notice.

* `Engine.shown`: the text for a token sequence. Nothing is shown as zero.
* `Engine.notices_perform_cases`: what a call notifies of, and what it leaves alone.
* `Engine.WellFormed.isRefused`: a refusal is a matter of the tokens.
* `LogEntry.notice?`: what the observer is told when an entry is logged.
* `Engine.notices_perform_eq`, `Engine.entries_perform_cases`: the log determines the notices, and
  repeats the display.
* `Engine.length_entries_perform_le`, `Engine.length_notices_perform_le`: a call logs one entry at
  most, and gives one notice at most.
* `Engine.display_notice_cases`: what a notice displays.
* `Engine.WellFormed.entries_perform_eq_nil_iff`: which calls are not logged.
* `Session.step_command_accounts`: the three outputs of a call with an observer attached.
-/

namespace KeypadCalculator

/-!
## What a call tells the observer

An observer never asks the engine anything, so what it shows is right only if every call that
changes the tokens says so. A call displays the tokens as they are afterwards, or it reports a
refusal and leaves the engine alone, or it is silent and leaves the tokens alone. Only the equals
key refuses, and what it has refused once it refuses again, whatever the settings are in the
meantime.
-/

section

variable {scale : Scale} {engine : Engine} {tokens : List Token}

namespace Engine

/-! ### Calls that display the tokens -/

/-- The text that the display has for tokens: zero as long as there are none. -/
def shown (tokens : List Token) : String :=
  if tokens = [] then "0" else Token.display tokens

/-- Tokens are shown as they are displayed. -/
theorem shown_of_ne_nil (h : tokens ≠ []) : shown tokens = Token.display tokens :=
  if_neg h

/-- Digits leave at least one token. -/
theorem writeDigits_ne_nil (tokens : List Token) (text : String) :
    writeDigits tokens text ≠ [] := by
  unfold writeDigits
  split
  · exact List.append_ne_nil_of_right_ne_nil _ (List.cons_ne_nil _ _)
  · exact List.append_ne_nil_of_right_ne_nil _ (List.cons_ne_nil _ _)

/-- An operator that may be added leaves at least one token. -/
theorem ne_nil_of_writeOperator? {op : Operator} {out : List Token}
    (h : writeOperator? tokens op = some out) : out ≠ [] := by
  unfold writeOperator? at h
  split at h
  · obtain rfl := Option.some.inj h
    exact List.cons_ne_nil _ _
  · split_ifs at h
    obtain rfl := Option.some.inj h
    exact List.append_ne_nil_of_right_ne_nil _ (List.cons_ne_nil _ _)

/-- What a call notifies of. It displays the tokens as they are after the call; or it is a refusal
by the equals key, and the engine is as it was; or it notifies of nothing, and the tokens are as
they were. The message for a refusal is never changed. -/
theorem notices_perform_cases (scale : Scale) (engine : Engine) (command : Command) :
    let reply := engine.perform scale command
    (reply.notices = [.display (shown reply.engine.tokens)] ∧
        reply.engine.settings = engine.settings) ∨
      (command = .equals ∧ reply.notices = [.error engine.settings.refusal] ∧
        reply.engine = engine) ∨
      (reply.notices = [] ∧ reply.engine.tokens = engine.tokens ∧
        reply.engine.settings.refusal = engine.settings.refusal) := by
  intro reply
  cases command with
  | digits text =>
    have hne : reply.engine.tokens ≠ [] := by
      show (if (result? engine.tokens).isSome then _ else _) ≠ []
      split_ifs
      · exact List.cons_ne_nil _ _
      · exact writeDigits_ne_nil _ _
    refine .inl ⟨?_, rfl⟩
    rw [shown_of_ne_nil hne]
    rfl
  | operator text =>
    have hreply : reply = engine.insertOperator text := rfl
    rcases insertOperator_reply_cases engine text with heq | heq | ⟨op, tokens, -, htokens, heq⟩
    · rw [hreply, heq]
      exact .inr (.inr ⟨rfl, rfl, rfl⟩)
    · rw [hreply, heq]
      exact .inr (.inr ⟨rfl, rfl, rfl⟩)
    · rw [hreply, heq, shown_of_ne_nil (ne_nil_of_writeOperator? htokens)]
      exact .inl ⟨rfl, rfl⟩
  | equals =>
    have hreply : reply = engine.insertEquals scale := rfl
    rcases insertEquals_reply_cases scale engine with ⟨-, heq⟩ | ⟨-, -, heq⟩ |
      ⟨-, -, ⟨text, -, heq⟩ | ⟨-, heq⟩ | ⟨cause, -, -, heq⟩⟩
    · rw [hreply, heq]
      exact .inr (.inl ⟨rfl, rfl, rfl⟩)
    · rw [hreply, heq]
      exact .inr (.inr ⟨rfl, rfl, rfl⟩)
    · have hne : engine.tokens ++ [.equals, .number text] ≠ [] :=
        List.append_ne_nil_of_right_ne_nil _ (List.cons_ne_nil _ _)
      rw [hreply, heq, shown_of_ne_nil hne]
      exact .inl ⟨rfl, rfl⟩
    · rw [hreply, heq]
      exact .inr (.inl ⟨rfl, rfl, rfl⟩)
    · rw [hreply, heq]
      exact .inr (.inr ⟨rfl, rfl, rfl⟩)
  | clear => exact .inl ⟨rfl, rfl⟩
  | setDecimals decimals => exact .inr (.inr ⟨rfl, rfl, rfl⟩)

/-! ### Refusals -/

/-- The equals key refuses the tokens and leaves them alone, whatever the settings are. -/
def IsRefused (scale : Scale) (tokens : List Token) : Prop :=
  ∀ settings : Settings,
    let engine : Engine := { tokens, settings }
    (engine.insertEquals scale).notices = [.error settings.refusal] ∧
      (engine.insertEquals scale).engine = engine

/-- The equals key refuses tokens that are not complete, whatever the settings are. -/
theorem isRefused_of_not_isComplete (h : isComplete tokens = false) : IsRefused scale tokens := by
  intro settings engine
  have hreply : engine.insertEquals scale = _ := insertEquals_of_not_isComplete h
  rw [hreply]
  exact ⟨rfl, rfl⟩

/-- A divisor of value zero is found with every number of decimals or with none. -/
theorem isRefused_of_divisionByZero {chain : Chain String} {decimals : Nat}
    (hcomplete : isComplete chain.tokens = true)
    (h : evaluate scale decimals chain.tokens = .error .divisionByZero) :
    IsRefused scale chain.tokens := by
  intro settings engine
  have hvalue : evaluate scale settings.decimals chain.tokens = .error .divisionByZero :=
    (chain.evaluate_tokens_sameOutcome scale decimals settings.decimals).eq_error_iff.mp h
  have hreply : engine.insertEquals scale = _ :=
    insertEquals_of_not_mem hcomplete chain.equals_not_mem_tokens
  rw [hreply, hvalue]
  exact ⟨rfl, rfl⟩

/-- If the equals key refuses what the engine holds, it does so with all settings. The evaluation is
no exception: its error does not depend on the number of decimals. -/
theorem WellFormed.isRefused {Typed : String → Prop} (h : engine.WellFormed scale Typed)
    {message : String} (hnotice : .error message ∈ (engine.insertEquals scale).notices) :
    IsRefused scale engine.tokens := by
  rcases insertEquals_reply_cases scale engine with ⟨hincomplete, -⟩ | ⟨-, -, heq⟩ |
    ⟨hcomplete, hmem, ⟨text, -, heq⟩ | ⟨hvalue, -⟩ | ⟨cause, -, -, heq⟩⟩
  · exact isRefused_of_not_isComplete hincomplete
  · rw [heq] at hnotice
    simp at hnotice
  · rw [heq] at hnotice
    simp at hnotice
  · obtain ⟨chain, htokens, -⟩ := h.shape.exists_of_isComplete hcomplete hmem
    rw [htokens] at hcomplete hvalue ⊢
    exact isRefused_of_divisionByZero hcomplete hvalue
  · rw [heq] at hnotice
    simp at hnotice

end Engine

end

/-!
## What is logged and what the observer is told

A call has three outputs: the tokens, its notices, and its log entries. The log is the most detailed
of them, and it determines the notices: an entry for a change of the tokens goes with a notice that
displays them, an entry for a refusal goes with a notice of it, and all other entries go with none.
No call logs more than one entry, so no call gives more than one notice. The display that an entry
repeats is that of the tokens after the call. Only the equals key on a result, and a change of the
number of decimals, leave no entry.
-/

section

variable {scale : Scale} {engine : Engine} {command : Command}

/-! ### Entries and notices -/

namespace LogEntry

/-- What the observer is told when an entry is logged, by an engine with a given message for
refusals. -/
def notice? (refusal : String) : LogEntry → Option Notice
  | cleared => some (.display "0")
  | digits _ display | operator _ display | result display => some (.display display)
  | incomplete _ | divisionByZero _ => some (.error refusal)
  | unknownOperator _ | refusedOperator _ | abandoned .. => none

/-- The levels and messages of the entries that go with a change of the display. -/
def displayMessages : List (LogLevel × String) :=
  [(.debug, "reset"), (.debug, "chiffre"), (.debug, "opérateur"), (.info, "résultat")]

/-- Warnings, and nothing else, go with a notice of a refusal. -/
theorem exists_notice?_eq_error_iff {refusal : String} {entry : LogEntry} :
    (∃ message, entry.notice? refusal = some (.error message)) ↔ entry.level = .warn := by
  cases entry <;> simp [notice?, level]

/-- An entry goes with a display exactly if its level and message say so. -/
theorem exists_notice?_eq_display_iff {refusal : String} {entry : LogEntry} :
    (∃ text, entry.notice? refusal = some (.display text)) ↔
      (entry.level, entry.message) ∈ displayMessages := by
  have hlevel : ∀ {level : LogLevel}, level ∉ displayMessages.map Prod.fst →
      ∀ message : String, (level, message) ∉ displayMessages :=
    fun hnot message hmem => hnot (List.mem_map_of_mem hmem)
  have hwarn : LogLevel.warn ∉ displayMessages.map Prod.fst := by decide
  have herror : LogLevel.error ∉ displayMessages.map Prod.fst := by decide
  cases entry with
  | cleared => exact iff_of_true ⟨_, rfl⟩ (.head _)
  | digits text display => exact iff_of_true ⟨_, rfl⟩ (.tail _ (.head _))
  | operator text display => exact iff_of_true ⟨_, rfl⟩ (.tail _ (.tail _ (.head _)))
  | result display => exact iff_of_true ⟨_, rfl⟩ (.tail _ (.tail _ (.tail _ (.head _))))
  | unknownOperator text =>
    -- the message does not depend on the text
    have hmessage :
        ((unknownOperator "").level, (unknownOperator "").message) ∉ displayMessages := by
      decide
    exact iff_of_false nofun hmessage
  | refusedOperator text =>
    have hmessage :
        ((refusedOperator "").level, (refusedOperator "").message) ∉ displayMessages := by
      decide
    exact iff_of_false nofun hmessage
  | incomplete display => exact iff_of_false nofun (hlevel hwarn _)
  | divisionByZero display => exact iff_of_false nofun (hlevel hwarn _)
  | abandoned cause display => exact iff_of_false nofun (hlevel herror _)

end LogEntry

/-! ### The log of a call -/

namespace Engine

/-- The log determines the notices. -/
theorem notices_perform_eq (scale : Scale) (engine : Engine) (command : Command) :
    (engine.perform scale command).notices =
      (engine.perform scale command).entries.filterMap
        (LogEntry.notice? engine.settings.refusal) := by
  cases command with
  | digits text => rfl
  | operator text =>
    rw [perform_operator]
    rcases insertOperator_reply_cases engine text with heq | heq | ⟨op, tokens, -, -, heq⟩ <;>
      rw [heq] <;> rfl
  | equals =>
    rw [perform_equals]
    rcases insertEquals_reply_cases scale engine with ⟨-, heq⟩ | ⟨-, -, heq⟩ |
      ⟨-, -, ⟨text, -, heq⟩ | ⟨-, heq⟩ | ⟨cause, -, -, heq⟩⟩ <;> rw [heq] <;> rfl
  | clear => rfl
  | setDecimals decimals => rfl

/-- A notice is given exactly if an entry is logged that goes with it. -/
theorem mem_notices_perform_iff {notice : Notice} :
    notice ∈ (engine.perform scale command).notices ↔
      ∃ entry ∈ (engine.perform scale command).entries,
        entry.notice? engine.settings.refusal = some notice := by
  rw [notices_perform_eq, List.mem_filterMap]

/-- A call logs nothing or one entry. Clearing is logged as that; the entry of any other call
repeats the display as it is after the call, if it has a display at all. -/
theorem entries_perform_cases (scale : Scale) (engine : Engine) (command : Command) :
    let reply := engine.perform scale command
    reply.entries = [] ∨ ∃ entry, reply.entries = [entry] ∧
      ((command = .clear ∧ entry = .cleared) ∨
        (command ≠ .clear ∧ entry ≠ .cleared ∧
          ∀ display, ("affichage", display) ∈ entry.fields → display = reply.engine.display)) := by
  intro reply
  cases command with
  | digits text =>
    refine .inr ⟨_, rfl, .inr ⟨nofun, nofun, ?_⟩⟩
    simp [LogEntry.fields, reply, perform, insertDigits, display]
  | operator text =>
    have hreply : reply = engine.insertOperator text := rfl
    rcases insertOperator_reply_cases engine text with heq | heq | ⟨op, tokens, -, -, heq⟩
    · rw [hreply, heq]
      exact .inr ⟨_, rfl, .inr ⟨nofun, nofun, by simp [LogEntry.fields]⟩⟩
    · rw [hreply, heq]
      exact .inr ⟨_, rfl, .inr ⟨nofun, nofun, by simp [LogEntry.fields]⟩⟩
    · rw [hreply, heq]
      exact .inr ⟨_, rfl, .inr ⟨nofun, nofun, by simp [LogEntry.fields, display]⟩⟩
  | equals =>
    have hreply : reply = engine.insertEquals scale := rfl
    rcases insertEquals_reply_cases scale engine with ⟨-, heq⟩ | ⟨-, -, heq⟩ |
      ⟨-, -, ⟨text, -, heq⟩ | ⟨-, heq⟩ | ⟨cause, -, -, heq⟩⟩
    · rw [hreply, heq]
      exact .inr ⟨_, rfl, .inr ⟨nofun, nofun, by simp [LogEntry.fields]⟩⟩
    · rw [hreply, heq]
      exact .inl rfl
    · rw [hreply, heq]
      exact .inr ⟨_, rfl, .inr ⟨nofun, nofun, by simp [LogEntry.fields, display]⟩⟩
    · rw [hreply, heq]
      exact .inr ⟨_, rfl, .inr ⟨nofun, nofun, by simp [LogEntry.fields]⟩⟩
    · rw [hreply, heq]
      exact .inr ⟨_, rfl, .inr ⟨nofun, nofun, by simp [LogEntry.fields]⟩⟩
  | clear => exact .inr ⟨_, rfl, .inl ⟨rfl, rfl⟩⟩
  | setDecimals decimals => exact .inl rfl

/-- A call logs one entry at most. -/
theorem length_entries_perform_le (scale : Scale) (engine : Engine) (command : Command) :
    (engine.perform scale command).entries.length ≤ 1 := by
  rcases entries_perform_cases scale engine command with hentries | ⟨entry, hentries, -⟩
  · rw [hentries]
    exact Nat.zero_le 1
  · rw [hentries]
    exact le_rfl

/-- A call gives one notice at most, because every notice goes with an entry. -/
theorem length_notices_perform_le (scale : Scale) (engine : Engine) (command : Command) :
    (engine.perform scale command).notices.length ≤ 1 := by
  rw [notices_perform_eq]
  exact (List.length_filterMap_le _ _).trans (length_entries_perform_le scale engine command)

/-- A notice of a call is the only one. -/
theorem notices_perform_eq_singleton {notice : Notice}
    (h : notice ∈ (engine.perform scale command).notices) :
    (engine.perform scale command).notices = [notice] := by
  have hlength : (engine.perform scale command).notices.length = 1 :=
    le_antisymm (length_notices_perform_le scale engine command) (List.length_pos_of_mem h)
  obtain ⟨only, honly⟩ := List.length_eq_one_iff.mp hlength
  rw [honly] at h ⊢
  rw [List.mem_singleton.mp h]

/-- What a notice displays: zero if everything was cleared, and else the tokens as they are after
the call. -/
theorem display_notice_cases {text : String}
    (h : .display text ∈ (engine.perform scale command).notices) :
    (command = .clear ∧ text = "0" ∧ (engine.perform scale command).engine.tokens = []) ∨
      (command ≠ .clear ∧ text = (engine.perform scale command).engine.display) := by
  obtain ⟨entry, hentry, hnotice⟩ := mem_notices_perform_iff.mp h
  rcases entries_perform_cases scale engine command with hentries | ⟨logged, hentries, hcases⟩
  · rw [hentries] at hentry
    cases hentry
  rw [hentries] at hentry
  obtain rfl := List.mem_singleton.mp hentry
  rcases hcases with ⟨rfl, rfl⟩ | ⟨hcommand, hcleared, hdisplay⟩
  · cases hnotice
    exact .inl ⟨rfl, rfl, rfl⟩
  · refine .inr ⟨hcommand, hdisplay text ?_⟩
    cases entry <;> cases hnotice
    · exact absurd rfl hcleared
    all_goals simp [LogEntry.fields]

/-- A refusal leaves the engine as it was. -/
theorem engine_perform_of_error {message : String}
    (h : .error message ∈ (engine.perform scale command).notices) :
    (engine.perform scale command).engine = engine := by
  rcases notices_perform_cases scale engine command with ⟨hnotices, -⟩ | ⟨-, -, hengine⟩ |
    ⟨hnotices, -⟩
  · rw [hnotices] at h
    cases List.mem_singleton.mp h
  · exact hengine
  · rw [hnotices] at h
    cases h

/-- A call that says nothing leaves the tokens as they were. -/
theorem tokens_perform_of_notices_eq_nil (h : (engine.perform scale command).notices = []) :
    (engine.perform scale command).engine.tokens = engine.tokens := by
  rcases notices_perform_cases scale engine command with ⟨hnotices, -⟩ | ⟨-, hnotices, -⟩ |
    ⟨-, htokens, -⟩
  · cases hnotices.symm.trans h
  · cases hnotices.symm.trans h
  · exact htokens

/-- The observer is told of a refusal exactly if a warning is logged. -/
theorem exists_error_notice_iff :
    (∃ message, .error message ∈ (engine.perform scale command).notices) ↔
      ∃ entry ∈ (engine.perform scale command).entries, entry.level = .warn := by
  simp only [mem_notices_perform_iff]
  rw [exists_comm]
  simp only [exists_and_left, LogEntry.exists_notice?_eq_error_iff]

/-- The observer is told of a display exactly if an entry for that is logged. -/
theorem exists_display_notice_iff :
    (∃ text, .display text ∈ (engine.perform scale command).notices) ↔
      ∃ entry ∈ (engine.perform scale command).entries,
        (entry.level, entry.message) ∈ LogEntry.displayMessages := by
  simp only [mem_notices_perform_iff]
  rw [exists_comm]
  simp only [exists_and_left, LogEntry.exists_notice?_eq_display_iff]

/-! ### Calls that are not logged -/

/-- Every call is logged, but for a change of the number of decimals and for the equals key on a
result. -/
theorem WellFormed.entries_perform_eq_nil_iff {Typed : String → Prop}
    (h : engine.WellFormed scale Typed) :
    (engine.perform scale command).entries = [] ↔
      (∃ decimals, command = .setDecimals decimals) ∨
        (command = .equals ∧ ∃ before result,
          engine.tokens = before ++ [.equals, .number result]) := by
  rw [← h.shape.mem_equals_iff]
  cases command with
  | digits text => exact iff_of_false nofun (by simp)
  | operator text =>
    rw [perform_operator]
    rcases insertOperator_reply_cases engine text with heq | heq | ⟨op, tokens, -, -, heq⟩ <;>
      simp [heq]
  | equals =>
    rw [perform_equals]
    by_cases hmem : Token.equals ∈ engine.tokens
    · rw [insertEquals_of_mem (h.shape.isComplete_of_mem hmem) hmem]
      exact iff_of_true rfl (.inr ⟨rfl, hmem⟩)
    · rcases insertEquals_reply_cases scale engine with ⟨-, heq⟩ | ⟨-, hmem', -⟩ |
        ⟨-, -, ⟨text, -, heq⟩ | ⟨-, heq⟩ | ⟨cause, -, -, heq⟩⟩
      · simp [heq, hmem]
      · exact absurd hmem' hmem
      · simp [heq, hmem]
      · simp [heq, hmem]
      · simp [heq, hmem]
  | clear => exact iff_of_false nofun (by simp)
  | setDecimals decimals => exact iff_of_true rfl (.inl ⟨decimals, rfl⟩)

end Engine

/-! ### With an observer attached -/

namespace Session

/-- The three outputs of a call, after any run and with an observer attached. At most one notice is
given, to this observer, and at most one entry is logged. A display is that of the tokens after the
call, or zero if everything was cleared; a refusal leaves the engine as it was, and silence leaves
the tokens as they were. Refusals go with warnings, displays go with the entries that are logged for
them, and only the equals key on a result is not logged at all. -/
theorem step_command_accounts (scale : Scale) (refusal : String) (values : List Nat)
    (steps : List Step) {observer : Nat} (command : Command) :
    let engine : Engine := { settings := values.foldl Settings.setDecimals { refusal } }
    let session := (({ engine } : Session).run scale steps).session
    let outcome := session.step scale (.command command)
    let tokens := outcome.session.engine.tokens
    session.listener = some observer →
      outcome.deliveries.length ≤ 1 ∧ outcome.log.length ≤ 1 ∧
      (∀ delivery ∈ outcome.deliveries, delivery.observer = observer) ∧
      (∀ text, { observer, notice := .display text } ∈ outcome.deliveries →
        (command = .clear ∧ text = "0" ∧ tokens = []) ∨
          (command ≠ .clear ∧ text = Token.display tokens)) ∧
      (∀ message, { observer, notice := .error message } ∈ outcome.deliveries →
        outcome.session = session) ∧
      (outcome.deliveries = [] → tokens = session.engine.tokens) ∧
      ((∃ message, { observer, notice := .error message } ∈ outcome.deliveries) ↔
        ∃ entry ∈ outcome.log, entry.level = .warn) ∧
      ((∃ text, { observer, notice := .display text } ∈ outcome.deliveries) ↔
        ∃ entry ∈ outcome.log, (entry.level, entry.message) ∈ LogEntry.displayMessages) ∧
      ((∀ decimals, command ≠ .setDecimals decimals) →
        (outcome.log = [] ↔ command = .equals ∧
          ∃ before result, session.engine.tokens = before ++ [.equals, .number result])) := by
  intro engine session outcome tokens hlistener
  have hwellFormed : session.engine.WellFormed scale fun _ => True :=
    wellFormed_run scale refusal values steps
  let reply := session.engine.perform scale command
  have hdeliveries : outcome.deliveries = deliver (some observer) reply.notices := by
    rw [← hlistener]
    rfl
  have hlog : outcome.log = reply.entries := rfl
  have hsession : outcome.session = { session with engine := reply.engine } := rfl
  have htold : ∀ notice : Notice,
      { observer, notice } ∈ outcome.deliveries ↔ notice ∈ reply.notices := by
    intro notice
    rw [hdeliveries, mem_deliver_iff, and_iff_right rfl]
  refine ⟨?_, ?_, ?_, ?_, ?_, ?_, ?_, ?_, ?_⟩
  · rw [hdeliveries]
    exact (length_deliver_le _ _).trans (Engine.length_notices_perform_le scale _ command)
  · exact Engine.length_entries_perform_le scale session.engine command
  · intro delivery hdelivery
    rw [hdeliveries, mem_deliver_iff] at hdelivery
    exact (Option.some.inj hdelivery.1).symm
  · intro text htext
    exact Engine.display_notice_cases ((htold _).mp htext)
  · intro message hmessage
    have hengine : reply.engine = session.engine :=
      Engine.engine_perform_of_error ((htold _).mp hmessage)
    rw [hsession, hengine]
  · intro hnil
    apply Engine.tokens_perform_of_notices_eq_nil
    rw [List.eq_nil_iff_forall_not_mem]
    intro notice hnotice
    have hmem := (htold notice).mpr hnotice
    rw [hnil] at hmem
    cases hmem
  · simp only [htold, hlog]
    exact Engine.exists_error_notice_iff
  · simp only [htold, hlog]
    exact Engine.exists_display_notice_iff
  · intro hkey
    rw [hlog, hwellFormed.entries_perform_eq_nil_iff]
    exact or_iff_right fun ⟨decimals, hdecimals⟩ => hkey decimals hdecimals

/-- `9-1/8/00=` with the second of two observers attached: one refusal, one warning, and nothing
else. -/
theorem step_command_accounts_of_zero_divisor :
    let typed : List Step := "9-1/8/00".toList.map fun c => .command (Command.ofChar c)
    let session := (({} : Session).run .wrapped (.attach :: .attach :: typed)).session
    let outcome := session.step .wrapped (.command .equals)
    let refused : Delivery := { observer := 1, notice := .error "Expression incorrecte" }
    session.listener = some 1 ∧ outcome.deliveries = [refused] ∧ outcome.session = session ∧
      (∃ entry ∈ outcome.log, entry.level = .warn) ∧
      ¬∃ before result, session.engine.tokens = before ++ [.equals, .number result] := by
  intro typed session outcome refused
  have hlistener : session.listener = some 1 := by decide +kernel
  have hdeliveries : outcome.deliveries = [refused] := by decide +kernel
  have hmem : refused ∈ outcome.deliveries := by
    rw [hdeliveries]
    exact List.mem_cons_self
  obtain ⟨-, -, -, -, herror, -, hwarn, -, hsilent⟩ :=
    step_command_accounts .wrapped "Expression incorrecte" [] (.attach :: .attach :: typed) .equals
      hlistener
  have hentry : ∃ entry ∈ outcome.log, entry.level = .warn := hwarn.mp ⟨_, hmem⟩
  refine ⟨hlistener, hdeliveries, herror _ hmem, hentry, ?_⟩
  intro hresult
  have hnil : outcome.log = [] := (hsilent nofun).mpr ⟨rfl, hresult⟩
  obtain ⟨entry, hlogged, -⟩ := hentry
  rw [hnil] at hlogged
  cases hlogged

end Session

end

end KeypadCalculator
