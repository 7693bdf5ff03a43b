import KeypadCalculator.Engine.Session
import KeypadCalculator.Proofs.Engine.Ending

/-!
# The shape of what the engine holds

Whatever calls are made in whatever order, the engine holds nothing, or a chain, or a chain with an
operator behind it, or a chain with its result. The shape is kept together with where the texts come
from, since the next call reads them again: all of them were typed, but for the first operand, which
may be a result that was taken over. A result stays tied to the number of decimals it was computed
with, also after that number was changed.

What is typed is a parameter. Of arbitrary texts the shape is all there is to say; of digits the
same invariant says that every operand can be read.

* `Chain.HasResult`: a chain that may be evaluated, with its result for some number of decimals.
* `Engine.Shape`, `Engine.WellFormed`: the invariant, of the tokens and of the engine.
* `Engine.WellFormed.perform`, `Engine.WellFormed.run`: every call preserves it, and so does a run.
* `Session.tokens_run_cases`: what an engine can hold, whatever is typed and whoever observes it.
-/

namespace KeypadCalculator

variable {scale : Scale} {Typed : String → Prop}

/-! ## Chains as they come about -/

namespace Chain

/-- A chain that may be evaluated, and its result for a number of decimals that an engine can be set
to. -/
structure HasResult (scale : Scale) (chain : Chain String) (text : String) : Prop where
  /-- The chain has an operator, and it does not divide by the single digit zero. -/
  isComplete : Engine.isComplete chain.tokens = true
  /-- The result was computed with some number of decimals. -/
  exists_evaluate : ∃ decimals ≤ maxDecimals, evaluate scale decimals chain.tokens = .ok text

/-- Every operand was typed, but for the first one, which may be the result of an earlier chain. -/
structure IsEntered (scale : Scale) (Typed : String → Prop) (chain : Chain String) : Prop where
  /-- Where the first operand comes from. -/
  first : Typed chain.first ∨ ∃ earlier : Chain String, earlier.HasResult scale chain.first
  /-- All others were typed. -/
  rest : ∀ link ∈ chain.rest, Typed link.2

/-- A single operand may be typed, or it is the result of an earlier chain. -/
theorem isEntered_single {text : String}
    (h : Typed text ∨ ∃ earlier : Chain String, earlier.HasResult scale text) :
    IsEntered scale Typed { first := text } := by
  refine ⟨h, ?_⟩
  intro link hlink
  cases hlink

/-- A further operand has to be typed. -/
theorem isEntered_join_single_iff {before : Chain String} {op : Operator} {text : String} :
    (before.join op { first := text }).IsEntered scale Typed ↔
      before.IsEntered scale Typed ∧ Typed text := by
  constructor
  · rintro ⟨hfirst, hrest⟩
    rw [rest_join_single, List.forall_mem_append] at hrest
    exact ⟨⟨hfirst, hrest.1⟩, hrest.2 _ List.mem_cons_self⟩
  · rintro ⟨⟨hfirst, hrest⟩, htext⟩
    refine ⟨hfirst, ?_⟩
    rw [rest_join_single, List.forall_mem_append]
    exact ⟨hrest, List.forall_mem_singleton.mpr htext⟩

/-- What is true of all texts that are typed, and of all results, is true of every operand. -/
theorem IsEntered.forall_operands {chain : Chain String} (h : chain.IsEntered scale Typed)
    {P : String → Prop} (htyped : ∀ text, Typed text → P text)
    (hresult : ∀ (earlier : Chain String) (text : String), earlier.HasResult scale text → P text) :
    ∀ text ∈ chain.operands, P text := by
  refine List.forall_mem_cons.mpr ⟨?_, ?_⟩
  · rcases h.first with hfirst | ⟨earlier, hfirst⟩
    · exact htyped _ hfirst
    · exact hresult earlier _ hfirst
  · intro text htext
    obtain ⟨link, hlink, rfl⟩ := List.mem_map.mp htext
    exact htyped _ (h.rest link hlink)

end Chain

/-- A command that types nothing but texts of one kind: such a text alone is of that kind, and so
is one that goes on from another. -/
def Command.Types (Typed : String → Prop) : Command → Prop
  | .digits text => Typed text ∧ ∀ before, Typed before → Typed (before ++ text)
  | _ => True

/-- Arbitrary texts are typed in every command. -/
theorem Command.types_true (command : Command) : command.Types fun _ => True := by
  cases command <;> simp [Types]

namespace Engine

/-! ## The invariant -/

/-- What the engine holds, by how it ends. -/
inductive Shape (scale : Scale) (Typed : String → Prop) : List Token → Prop where
  /-- Nothing. -/
  | blank : Shape scale Typed []
  /-- A chain. A result that was taken over is followed by an operator, so it is not alone. -/
  | operand {chain : Chain String} (entered : chain.IsEntered scale Typed)
      (single : chain.rest = [] → Typed chain.first) : Shape scale Typed chain.tokens
  /-- A chain and the operator that was typed last. -/
  | operator {chain : Chain String} (entered : chain.IsEntered scale Typed) (op : Operator) :
      Shape scale Typed (chain.tokens ++ [.operator op])
  /-- A chain and its result. -/
  | result {chain : Chain String} {text : String} (entered : chain.IsEntered scale Typed)
      (hasResult : chain.HasResult scale text) :
      Shape scale Typed (chain.tokens ++ [.equals, .number text])

/-- The invariant of an engine in use. -/
structure WellFormed (scale : Scale) (Typed : String → Prop) (engine : Engine) : Prop where
  /-- Its tokens have the shape. -/
  shape : Shape scale Typed engine.tokens
  /-- Its number of decimals is one that can be set. -/
  decimals_le : engine.settings.decimals ≤ maxDecimals

/-! ## One call -/

variable {tokens : List Token} {engine : Engine}

/-- A number that was typed is one of the forms. -/
theorem Shape.single {text : String} (h : Typed text) : Shape scale Typed [.number text] :=
  .operand (Chain.isEntered_single (.inl h)) fun _ => h

/-- A chain with one more operand that was typed is one of the forms. -/
theorem Shape.join_single {before : Chain String} (h : before.IsEntered scale Typed)
    (op : Operator) {text : String} (htext : Typed text) :
    Shape scale Typed (before.join op { first := text }).tokens := by
  refine .operand (Chain.isEntered_join_single_iff.mpr ⟨h, htext⟩) ?_
  intro hrest
  rw [Chain.rest_join_single] at hrest
  exact absurd hrest (List.append_ne_nil_of_right_ne_nil _ (List.cons_ne_nil _ _))

/-- Digits make an operand longer or are one of their own. -/
theorem Shape.writeDigits (h : Shape scale Typed tokens) (hresult : result? tokens = none)
    {text : String} (htext : Typed text)
    (happend : ∀ before, Typed before → Typed (before ++ text)) :
    Shape scale Typed (writeDigits tokens text) := by
  cases h with
  | blank => exact .single htext
  | @operand chain entered single =>
    obtain ⟨last, rfl⟩ | ⟨before, op, last, rfl⟩ := chain.eq_single_or_join
    · exact .single (happend last (single rfl))
    · obtain ⟨hbefore, hlast⟩ := Chain.isEntered_join_single_iff.mp entered
      rw [writeDigits_tokens_join]
      exact .join_single hbefore op (happend last hlast)
  | @operator chain entered op =>
    rw [writeDigits_append_operator, ← Chain.tokens_join_single]
    exact .join_single entered op htext
  | result => simp at hresult

/-- An operator goes on from an operand or from a result. -/
theorem Shape.writeOperator? (h : Shape scale Typed tokens) {op : Operator} {out : List Token}
    (hout : writeOperator? tokens op = some out) : Shape scale Typed out := by
  cases h with
  | blank => cases hout
  | @operand chain entered single =>
    unfold Engine.writeOperator? at hout
    rw [result?_tokens, acceptsOperator_tokens] at hout
    cases hout
    exact .operator entered op
  | operator entered before =>
    rw [writeOperator?_append_operator] at hout
    cases hout
  | @result chain text entered hasResult =>
    rw [writeOperator?_of_result (result?_append_result _ text)] at hout
    cases hout
    exact .operator (Chain.isEntered_single (.inr ⟨chain, hasResult⟩)) op

/-- Tokens that end on a number are a chain, unless the number is a result. -/
theorem Shape.exists_of_getLast? (h : Shape scale Typed tokens) (hmem : Token.equals ∉ tokens)
    (hlast : ∃ text, tokens.getLast? = some (.number text)) :
    ∃ chain : Chain String, tokens = chain.tokens ∧ chain.IsEntered scale Typed := by
  cases h with
  | blank =>
    obtain ⟨text, htext⟩ := hlast
    cases htext
  | @operand chain entered single => exact ⟨chain, rfl, entered⟩
  | operator entered op =>
    obtain ⟨text, htext⟩ := hlast
    simp at htext
  | result entered hasResult => simp at hmem

/-- Tokens that may be evaluated, and have no result, are a chain. -/
theorem Shape.exists_of_isComplete (h : Shape scale Typed tokens)
    (hcomplete : isComplete tokens = true) (hmem : Token.equals ∉ tokens) :
    ∃ chain : Chain String, tokens = chain.tokens ∧ chain.IsEntered scale Typed := by
  obtain ⟨-, -, -, hlast⟩ := isComplete_iff.mp hcomplete
  exact h.exists_of_getLast? hmem hlast

/-- A whole calculation gets its result. -/
theorem Shape.append_result (h : Shape scale Typed tokens) (hcomplete : isComplete tokens = true)
    (hmem : Token.equals ∉ tokens) {decimals : Nat} (hdecimals : decimals ≤ maxDecimals)
    {text : String} (hvalue : evaluate scale decimals tokens = .ok text) :
    Shape scale Typed (tokens ++ [.equals, .number text]) := by
  obtain ⟨chain, rfl, hentered⟩ := h.exists_of_isComplete hcomplete hmem
  exact .result hentered ⟨hcomplete, decimals, hdecimals, hvalue⟩

/-- An equals sign is one with a result behind it at the end. -/
theorem Shape.mem_equals_iff (h : Shape scale Typed tokens) :
    Token.equals ∈ tokens ↔ ∃ before result, tokens = before ++ [.equals, .number result] := by
  constructor
  · intro hmem
    cases h with
    | blank => cases hmem
    | operand entered single => exact absurd hmem (Chain.equals_not_mem_tokens _)
    | operator entered op => simp at hmem
    | result entered hasResult => exact ⟨_, _, rfl⟩
  · rintro ⟨before, result, rfl⟩
    simp

/-- A result stands behind a whole calculation. -/
theorem Shape.isComplete_of_mem (h : Shape scale Typed tokens) (hmem : Token.equals ∈ tokens) :
    isComplete tokens = true := by
  cases h with
  | blank => cases hmem
  | @operand chain entered single => exact absurd hmem chain.equals_not_mem_tokens
  | operator entered op => simp at hmem
  | result entered hasResult => exact isComplete_append_result hasResult.isComplete _

/-- Every call preserves the invariant. -/
theorem WellFormed.perform (h : engine.WellFormed scale Typed) {command : Command}
    (htypes : command.Types Typed) :
    (engine.perform scale command).engine.WellFormed scale Typed := by
  cases command with
  | digits text =>
    refine ⟨?_, h.decimals_le⟩
    show Shape scale Typed (if (result? engine.tokens).isSome then _ else _)
    split
    · exact .single htypes.1
    · rename_i hnone
      exact h.shape.writeDigits (by simpa using hnone) htypes.1 htypes.2
  | operator text =>
    rw [perform_operator]
    rcases insertOperator_reply_cases engine text with heq | heq | ⟨op, tokens, -, htokens, heq⟩ <;>
      rw [heq]
    · exact h
    · exact h
    · exact ⟨h.shape.writeOperator? htokens, h.decimals_le⟩
  | equals =>
    rw [perform_equals]
    rcases insertEquals_cases scale engine with heq | ⟨text, hcomplete, hmem, hvalue, heq⟩
    · rw [heq]
      exact h
    · rw [heq]
      exact ⟨h.shape.append_result hcomplete hmem h.decimals_le hvalue, h.decimals_le⟩
  | clear => exact ⟨.blank, h.decimals_le⟩
  | setDecimals decimals => exact ⟨h.shape, Settings.decimals_setDecimals_le _ _⟩

/-- A run of calls preserves the invariant. -/
theorem WellFormed.run (h : engine.WellFormed scale Typed) {commands : List Command}
    (htypes : ∀ command ∈ commands, command.Types Typed) :
    (engine.run scale commands).WellFormed scale Typed := by
  induction commands generalizing engine with
  | nil => exact h
  | cons command commands ih =>
    rw [run_cons]
    apply ih
    · exact h.perform (htypes command List.mem_cons_self)
    · intro other hother
      exact htypes other (List.mem_cons_of_mem _ hother)

end Engine

/-! ## Sessions -/

/-- Setting the decimals any number of times keeps them within bounds. -/
theorem Settings.decimals_foldl_setDecimals_le {settings : Settings}
    (h : settings.decimals ≤ maxDecimals) (values : List Nat) :
    (values.foldl Settings.setDecimals settings).decimals ≤ maxDecimals := by
  induction values generalizing settings with
  | nil => exact h
  | cons value values ih => exact ih (settings.decimals_setDecimals_le value)

/-- Setting the decimals any number of times leaves the message for refusals alone. -/
theorem Settings.refusal_foldl_setDecimals (settings : Settings) (values : List Nat) :
    (values.foldl setDecimals settings).refusal = settings.refusal := by
  induction values generalizing settings with
  | nil => rfl
  | cons value values ih => exact ih _

/-- An engine that was set up and not used yet. Two decimals are set at first. -/
theorem Engine.wellFormed_start (refusal : String) (values : List Nat) :
    let engine : Engine := { settings := values.foldl Settings.setDecimals { refusal } }
    engine.WellFormed scale Typed :=
  ⟨.blank, Settings.decimals_foldl_setDecimals_le (show 2 ≤ maxDecimals by decide) values⟩

/-- The call to the engine that a step makes, if it makes one. -/
def Step.command? : Step → Option Command
  | .command call => some call
  | .attach | .release _ => none

namespace Session

/-- Observers come and go without the engine taking notice. -/
theorem engine_run (scale : Scale) (session : Session) (steps : List Step) :
    (session.run scale steps).session.engine =
      session.engine.run scale (steps.filterMap Step.command?) := by
  induction steps generalizing session with
  | nil => rfl
  | cons step steps ih =>
    show ((session.step scale step).session.run scale steps).session.engine = _
    rw [ih]
    cases step <;> rfl

/-- Whatever is typed and whoever observes it, the engine stays well formed. -/
theorem wellFormed_run (scale : Scale) (refusal : String) (values : List Nat) (steps : List Step) :
    let engine : Engine := { settings := values.foldl Settings.setDecimals { refusal } }
    (({ engine } : Session).run scale steps).session.engine.WellFormed scale fun _ => True := by
  intro engine
  rw [engine_run]
  exact (Engine.wellFormed_start refusal values).run fun command _ => command.types_true

/-- Whatever is typed and whoever observes it, the engine holds nothing, or a chain, or a chain with
an operator behind it, or a chain with a result. The result is that of the chain for some number of
decimals that an engine can be set to, and the chain has an operator and does not divide by the
single digit zero. -/
theorem tokens_run_cases (scale : Scale) (values : List Nat) (steps : List Step) :
    let engine : Engine := { settings := values.foldl Settings.setDecimals {} }
    let session : Session := { engine }
    let tokens := (session.run scale steps).session.engine.tokens
    tokens = [] ∨ (∃ chain : Chain String, tokens = chain.tokens) ∨
      (∃ (chain : Chain String) (op : Operator), tokens = chain.tokens ++ [.operator op]) ∨
      ∃ (chain : Chain String) (text : String), tokens = chain.tokens ++ [.equals, .number text] ∧
        chain.rest ≠ [] ∧ ¬[.operator .divide, .number "0"] <:+: chain.tokens ∧
        ∃ decimals ≤ maxDecimals, evaluate scale decimals chain.tokens = .ok text := by
  intro engine session tokens
  have hshape : Engine.Shape scale (fun _ => True) tokens :=
    (wellFormed_run scale "Expression incorrecte" values steps).shape
  clear_value tokens
  cases hshape with
  | blank => exact .inl rfl
  | @operand chain entered single => exact .inr (.inl ⟨chain, rfl⟩)
  | @operator chain entered op => exact .inr (.inr (.inl ⟨chain, op, rfl⟩))
  | @result chain text entered hasResult =>
    obtain ⟨hrest, hzero⟩ := Engine.isComplete_tokens_iff.mp hasResult.isComplete
    refine .inr (.inr (.inr ⟨chain, text, rfl, hrest, ?_, hasResult.exists_evaluate⟩))
    rwa [Chain.infix_tokens_iff]

end Session

end KeypadCalculator
