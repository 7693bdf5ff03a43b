import KeypadCalculator.Proofs.Engine.Shape
import KeypadCalculator.Proofs.Expression.Success

/-!
# The equals key

What the key answers, and which of its answers it gives in an engine into which nothing but digits
was typed for numbers.

* `Answer`, `Engine.Answers`: what the key tells a user.
* `Engine.answers_of_isReadable`: operands that can be read get an answer.
* `Engine.IsReady`: what the answer looks at.
* `Chain.IsEntered.isSound_iff`: on a chain of such operands, it is what the evaluation needs.
* `Engine.insertEquals_of_isReady`, `Engine.insertEquals_of_not_isReady`: the two answers.
* `Session.step_equals_cases`: the equals key with an observer attached, in three cases.
-/

namespace KeypadCalculator

/-!
## What the equals key answers

The equals key shows the tokens with a result behind them, or a message. Which of them is decided by
the tokens and the settings alone, whatever was typed to get there. Only an operand that cannot be
read is met with silence; where every operand can be read, the evaluation fails on a divisor of
value zero and on nothing else.
-/

section

variable {scale : Scale} {engine : Engine}

/-- What the equals key answers. -/
inductive Answer where
  /-- The expression has this result. -/
  | result (text : String)
  /-- The expression is refused with this message. -/
  | refusal (message : String)
  deriving DecidableEq, Repr

namespace Engine

/-- The equals key gives an answer: it puts a result behind the tokens and displays them, or it
leaves the engine as it was and shows a message. -/
def Answers (scale : Scale) (engine : Engine) : Answer → Prop
  | .result text =>
    let tokens := engine.tokens ++ [.equals, .number text]
    (engine.insertEquals scale).engine = { engine with tokens } ∧
      (engine.insertEquals scale).notices = [.display (Token.display tokens)]
  | .refusal message =>
    (engine.insertEquals scale).engine = engine ∧
      (engine.insertEquals scale).notices = [.error message]

/-- The answer that tokens without a result call for, unless one of them cannot be read. -/
def answer (scale : Scale) (settings : Settings) (tokens : List Token) : Answer :=
  if isComplete tokens then
    match evaluate scale settings.decimals tokens with
    | .ok text => .result text
    | .error _ => .refusal settings.refusal
  else .refusal settings.refusal

/-- The answer to tokens that are not complete is a refusal. -/
theorem answer_of_not_isComplete {settings : Settings} {tokens : List Token}
    (h : isComplete tokens = false) : answer scale settings tokens = .refusal settings.refusal := by
  rw [answer, h]
  rfl

/-- Tokens that are not complete are refused. -/
theorem answers_of_not_isComplete (h : isComplete engine.tokens = false) :
    engine.Answers scale (.refusal engine.settings.refusal) := by
  unfold Answers
  rw [insertEquals_of_not_isComplete h]
  exact ⟨rfl, rfl⟩

/-- If the operands of a chain can be read, the equals key gives an answer, because the evaluation
can fail at nothing but a divisor of value zero. -/
theorem answers_of_isReadable {chain : Chain String} (htokens : engine.tokens = chain.tokens)
    (hreadable : ∀ text ∈ chain.operands, IsReadable scale text) :
    engine.Answers scale (answer scale engine.settings chain.tokens) := by
  have hmem : Token.equals ∉ engine.tokens := by
    rw [htokens]
    exact chain.equals_not_mem_tokens
  unfold answer
  rw [← htokens]
  split_ifs with hcomplete
  · rcases hvalue : evaluate scale engine.settings.decimals engine.tokens with cause | text
    · have hcause : cause = .divisionByZero := by
        rw [htokens] at hvalue
        rcases Chain.isFault_of_evaluate_eq_error hvalue with hzero | ⟨text, htext, hnot, -⟩
        · exact hzero
        · exact absurd (hreadable text htext) hnot
      subst hcause
      unfold Answers
      rw [insertEquals_of_not_mem hcomplete hmem, hvalue]
      exact ⟨rfl, rfl⟩
    · unfold Answers
      rw [insertEquals_of_not_mem hcomplete hmem, hvalue]
      exact ⟨rfl, rfl⟩
  · exact answers_of_not_isComplete (Bool.eq_false_iff.mpr hcomplete)

end Engine

end

/-!
## The equals key among digit keys

If nothing but digits is typed for numbers, then every operand can be read: what was typed is a text
of digits, and what was taken over is a result that was written to be read. The evaluation behind
the equals key can then fail for one reason only, a divisor whose digits are all zeros, and the
question whether the key gives a result can be answered by looking at the tokens.
-/

section

variable {scale : Scale}

/-- The tokens end on a number, there are three of them at least, and no divisor consists of zeros
only. -/
structure Engine.IsReady (tokens : List Token) : Prop where
  /-- There are three tokens at least. -/
  three_le_length : 3 ≤ tokens.length
  /-- The last one is a number. -/
  exists_getLast? : ∃ text, tokens.getLast? = some (.number text)
  /-- Every divisor has a character other than zero. -/
  exists_ne_zero : ∀ text, [.operator .divide, .number text] <:+: tokens →
    ∃ c ∈ text.toList, c ≠ '0'

/-- Digits can be read. -/
theorem IsDigits.isReadable {text : String} (h : IsDigits text) (scale : Scale) :
    IsReadable scale text :=
  isReadable_of_read? (h.read?_eq scale)

namespace Chain

variable {chain : Chain String}

/-- A chain is ready if it has an operator and each of its divisors has a digit that is not zero. -/
theorem isReady_tokens_iff :
    Engine.IsReady chain.tokens ↔
      chain.rest ≠ [] ∧ ∀ text, (.divide, text) ∈ chain.rest → ∃ c ∈ text.toList, c ≠ '0' := by
  constructor
  · rintro ⟨hlength, -, hzero⟩
    refine ⟨?_, fun text htext => hzero text (infix_tokens_iff.mpr htext)⟩
    intro hrest
    rw [length_tokens, hrest, List.length_nil] at hlength
    omega
  · rintro ⟨hrest, hzero⟩
    refine ⟨?_, ?_, fun text htext => hzero text (infix_tokens_iff.mp htext)⟩
    · have := List.length_pos_iff.mpr hrest
      rw [length_tokens]
      omega
    · exact chain.exists_getLast?_tokens

/-- A result was written, with a number of decimals that an engine can be set to. -/
theorem HasResult.exists_write {text : String} (h : chain.HasResult scale text) :
    ∃ decimals ≤ maxDecimals, ∃ r, text = Numeral.write scale decimals r := by
  obtain ⟨decimals, hdecimals, hvalue⟩ := h.exists_evaluate
  obtain ⟨hrest, -⟩ := Engine.isComplete_tokens_iff.mp h.isComplete
  exact ⟨decimals, hdecimals, exists_write_of_evaluate hvalue hrest⟩

/-- A result can be read. -/
theorem HasResult.isReadable {text : String} (h : chain.HasResult scale text) :
    IsReadable scale text := by
  obtain ⟨decimals, -, r, rfl⟩ := h.exists_write
  exact isReadable_write scale decimals r

/-- Operands that were typed as digits or taken over can be read. -/
theorem IsEntered.isReadable (h : chain.IsEntered scale IsDigits) :
    ∀ text ∈ chain.operands, IsReadable scale text :=
  h.forall_operands (fun _ hdigits => hdigits.isReadable scale) fun _ _ hresult =>
    hresult.isReadable

/-- With an operator, such a chain can be evaluated exactly if it is ready: a divisor was typed, so
it is zero only if all its digits are zeros. -/
theorem IsEntered.isSound_iff (h : chain.IsEntered scale IsDigits) (hrest : chain.rest ≠ []) :
    chain.IsSound scale ↔ Engine.IsReady chain.tokens := by
  have hzero : ∀ text, (.divide, text) ∈ chain.rest →
      (Numeral.read? scale text ≠ some 0 ↔ ∃ c ∈ text.toList, c ≠ '0') := by
    intro text htext
    have hdigits : IsDigits text := h.rest _ htext
    rw [Ne, hdigits.read?_eq_zero_iff, not_forall]
    simp only [not_forall, exists_prop, ne_eq]
  rw [isReady_tokens_iff]
  constructor
  · intro hsound
    refine ⟨hrest, fun text htext => (hzero text htext).mp ?_⟩
    exact hsound.divisor_ne_zero text (mem_divisors_iff.mpr htext)
  · rintro ⟨-, hdivisors⟩
    refine ⟨h.isReadable, fun text htext => ?_⟩
    have hlink := mem_divisors_iff.mp htext
    exact (hzero text hlink).mpr (hdivisors text hlink)

end Chain

namespace Engine

variable {engine : Engine}

/-- Tokens that are ready get their result. -/
theorem insertEquals_of_isReady (h : engine.WellFormed scale IsDigits)
    (hmem : Token.equals ∉ engine.tokens) (hready : IsReady engine.tokens) :
    ∃ text, engine.insertEquals scale =
      { engine := { engine with tokens := engine.tokens ++ [.equals, .number text] }
        notices := [.display (Token.display (engine.tokens ++ [.equals, .number text]))]
        entries := [.result (Token.display (engine.tokens ++ [.equals, .number text]))] } := by
  obtain ⟨chain, htokens, hentered⟩ := h.shape.exists_of_getLast? hmem hready.exists_getLast?
  obtain ⟨hrest, hdivisors⟩ := Chain.isReady_tokens_iff.mp (htokens ▸ hready)
  have hsound : chain.IsSound scale := by
    rw [hentered.isSound_iff hrest, ← htokens]
    exact hready
  obtain ⟨text, hvalue⟩ := hsound.exists_evaluate_eq_ok engine.settings.decimals
  have hcomplete : isComplete engine.tokens = true := by
    rw [htokens, isComplete_tokens_iff]
    refine ⟨hrest, ?_⟩
    intro hzero
    obtain ⟨c, hc, hne⟩ := hdivisors "0" hzero
    exact hne (List.mem_singleton.mp hc)
  rw [← htokens] at hvalue
  rw [insertEquals_of_not_mem hcomplete hmem, hvalue]
  exact ⟨text, rfl⟩

/-- Tokens that are not ready are refused, either because they are not complete or because the
evaluation comes to a divisor of value zero. -/
theorem insertEquals_of_not_isReady (h : engine.WellFormed scale IsDigits)
    (hmem : Token.equals ∉ engine.tokens) (hready : ¬IsReady engine.tokens) :
    ∃ entry, (entry = .incomplete engine.display ∨ entry = .divisionByZero engine.display) ∧
      engine.insertEquals scale =
        { engine, notices := [.error engine.settings.refusal], entries := [entry] } := by
  by_cases hcomplete : isComplete engine.tokens = true
  · obtain ⟨chain, htokens, hentered⟩ := h.shape.exists_of_isComplete hcomplete hmem
    obtain ⟨hrest, -⟩ := isComplete_tokens_iff.mp (htokens ▸ hcomplete)
    have hnot : ¬chain.IsSound scale := by
      rw [hentered.isSound_iff hrest, ← htokens]
      exact hready
    cases hvalue : evaluate scale engine.settings.decimals chain.tokens with
    | ok text => exact absurd (Chain.isSound_of_evaluate_eq_ok hvalue hrest) hnot
    | error cause =>
      rcases Chain.isFault_of_evaluate_eq_error hvalue with rfl | ⟨text, htext, hunreadable, -⟩
      · rw [← htokens] at hvalue
        rw [insertEquals_of_not_mem hcomplete hmem, hvalue]
        exact ⟨_, .inr rfl, rfl⟩
      · exact absurd (hentered.isReadable text htext) hunreadable
  · rw [insertEquals_of_not_isComplete ((Bool.not_eq_true _).mp hcomplete)]
    exact ⟨_, .inl rfl, rfl⟩

end Engine

/-! ### With an observer attached -/

/-- A typed character makes the command for digits only if it is one. -/
theorem Command.ofChar_eq_digits {c : Char} {text : String} (h : ofChar c = .digits text) :
    c.isDigit = true ∧ text = c.toString := by
  unfold ofChar at h
  split at h
  · rename_i hdigit
    cases h
    exact ⟨hdigit, rfl⟩
  · split at h
    · cases h
    · split at h <;> cases h

/-- The keys of a text type single digits for numbers. -/
theorem Command.exists_digit_of_mem_map_ofChar {keys : List Char} {text : String}
    (h : .digits text ∈ keys.map ofChar) : ∃ c : Char, c.isDigit = true ∧ text = c.toString := by
  obtain ⟨c, -, hc⟩ := List.mem_map.mp h
  exact ⟨c, ofChar_eq_digits hc⟩

/-- A single digit is a text of digits, and so is one with a digit behind it. -/
theorem Command.types_digits_toString {c : Char} (h : c.isDigit = true) :
    (Command.digits c.toString).Types IsDigits :=
  ⟨isDigits_toString h, fun _ hbefore => hbefore.append (isDigits_toString h)⟩

/-- A command that types a single digit for a number, if it types anything, types digits. -/
theorem Command.types_isDigits {command : Command}
    (h : ∀ text, command = .digits text → ∃ c : Char, c.isDigit = true ∧ text = c.toString) :
    command.Types IsDigits := by
  cases command with
  | digits text =>
    obtain ⟨c, hc, rfl⟩ := h text rfl
    exact types_digits_toString hc
  | operator _ => trivial
  | equals => trivial
  | clear => trivial
  | setDecimals _ => trivial

/-- An engine stays well formed in a run in which single digits are typed for numbers. -/
theorem Engine.wellFormed_of_digit_keys (refusal : String) (values : List Nat)
    {commands : List Command}
    (hdigits : ∀ text, .digits text ∈ commands → ∃ c : Char, c.isDigit = true ∧ text = c.toString) :
    let start : Engine := { settings := values.foldl Settings.setDecimals { refusal } }
    (start.run scale commands).WellFormed scale IsDigits := by
  apply (Engine.wellFormed_start refusal values).run
  intro command hcommand
  exact Command.types_isDigits fun text heq => hdigits text (heq ▸ hcommand)

namespace Session

/-- The equals key, after any run in which single digits are typed for numbers, and with an observer
attached. The evaluation is never abandoned. A result that is there already is left alone and nobody
is told; tokens that are ready get their result, and the observer is told the new display; all
others are refused, and the observer is told so once. -/
theorem step_equals_cases (scale : Scale) (refusal : String) (values : List Nat)
    {commands : List Command}
    (hdigits : ∀ text, .digits text ∈ commands → ∃ c : Char, c.isDigit = true ∧ text = c.toString)
    (made observer : Nat) :
    let settings : Settings := values.foldl Settings.setDecimals { refusal }
    let engine : Engine := ({ settings } : Engine).run scale commands
    let session : Session := { engine, made, listener := some observer }
    let outcome := session.step scale (.command .equals)
    (∀ cause display, .abandoned cause display ∉ outcome.log) ∧
      ((.equals ∈ engine.tokens ∧ outcome = { session }) ∨
        (.equals ∉ engine.tokens ∧ Engine.IsReady engine.tokens ∧
          ∃ result : String,
            let tokens := engine.tokens ++ [.equals, .number result]
            outcome.session = { session with engine := { engine with tokens } } ∧
              outcome.deliveries = [{ observer, notice := .display (Token.display tokens) }]) ∨
        (.equals ∉ engine.tokens ∧ ¬Engine.IsReady engine.tokens ∧ outcome.session = session ∧
          outcome.deliveries = [{ observer, notice := .error engine.settings.refusal }])) := by
  intro settings engine session outcome
  have h : engine.WellFormed scale IsDigits :=
    Engine.wellFormed_of_digit_keys refusal values hdigits
  have houtcome : outcome =
      let reply := engine.insertEquals scale
      { session := { session with engine := reply.engine }
        deliveries := deliver (some observer) reply.notices
        log := reply.entries } := rfl
  clear_value outcome engine
  by_cases hmem : Token.equals ∈ engine.tokens
  · rw [Engine.insertEquals_of_mem (h.shape.isComplete_of_mem hmem) hmem] at houtcome
    subst houtcome
    exact ⟨fun _ _ hlog => (List.not_mem_nil hlog).elim, .inl ⟨hmem, rfl⟩⟩
  by_cases hready : Engine.IsReady engine.tokens
  · obtain ⟨result, hreply⟩ := Engine.insertEquals_of_isReady h hmem hready
    rw [hreply] at houtcome
    subst houtcome
    refine ⟨?_, .inr (.inl ⟨hmem, hready, result, rfl, rfl⟩)⟩
    intro cause display hlog
    cases List.mem_singleton.mp hlog
  · obtain ⟨entry, hentry, hreply⟩ := Engine.insertEquals_of_not_isReady h hmem hready
    rw [hreply] at houtcome
    subst houtcome
    refine ⟨?_, .inr (.inr ⟨hmem, hready, rfl, rfl⟩)⟩
    intro cause display hlog
    rcases hentry with rfl | rfl
    · cases List.mem_singleton.mp hlog
    · cases List.mem_singleton.mp hlog

/-- `1/8=/00`: the result `0.12` is taken over and divided by a zero that is not the text `0`. -/
theorem step_equals_cases_of_zero_digits :
    let commands := "1/8=/00".toList.map Command.ofChar
    let engine : Engine := ({} : Engine).run .wrapped commands
    let session : Session := { engine, listener := some 3 }
    let outcome := session.step .wrapped (.command .equals)
    engine.tokens = [.number "0.12", .operator .divide, .number "00"] ∧
      outcome.session = session ∧
      outcome.deliveries = [{ observer := 3, notice := .error "Expression incorrecte" }] := by
  intro commands engine session outcome
  have hdigits : ∀ text, .digits text ∈ commands →
      ∃ c : Char, c.isDigit = true ∧ text = c.toString :=
    fun _ => Command.exists_digit_of_mem_map_ofChar
  have htokens : engine.tokens = [.number "0.12", .operator .divide, .number "00"] := by
    decide +kernel
  have hrefusal : engine.settings.refusal = "Expression incorrecte" := by decide +kernel
  obtain ⟨-, ⟨hmem, -⟩ | ⟨-, hready, -⟩ | ⟨-, -, hsession, hdeliveries⟩⟩ :=
    step_equals_cases .wrapped "Expression incorrecte" [] hdigits 0 3
  · -- there is no result
    have hmem' : Token.equals ∈ engine.tokens := hmem
    rw [htokens] at hmem'
    simp at hmem'
  · -- all characters behind the `/` are zeros
    have hready' : Engine.IsReady engine.tokens := hready
    rw [htokens] at hready'
    obtain ⟨c, hc, hne⟩ := hready'.exists_ne_zero "00" (List.suffix_cons _ _).isInfix
    have hzero : c = '0' := by simpa using hc
    exact absurd hzero hne
  · exact ⟨htokens, hsession, hrefusal ▸ hdeliveries⟩

end Session

end

end KeypadCalculator
