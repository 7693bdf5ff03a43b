import KeypadCalculator.Engine.Session
import KeypadCalculator.Expression.Chain
import Mathlib.Data.List.Basic

/-!
# What the engine makes of a chain

The engine asks of its tokens how they end and whether they may be evaluated. What it holds is a
chain, alone or with an operator or a result behind it, and there its questions have short answers:
a chain ends on a number, it may be evaluated if it has an operator and none of its divisors is the
single digit zero, and a result behind it changes nothing of that.

* `Chain.eq_single_or_join`: the last operand of a chain.
* `Chain.infix_tokens_iff`: an operator and a number next to each other are a link of the chain.
* `Engine.isComplete_tokens_iff`, `Engine.isComplete_append_result`: which chains may be evaluated.
* `Engine.insertOperator_reply_cases`: all that an operator key can do.
* `Engine.insertEquals_of_not_isComplete`, `Engine.insertEquals_of_mem`,
  `Engine.insertEquals_of_not_mem`: what the equals key does, case by case.
* `Engine.insertEquals_reply_cases`, `Engine.insertEquals_cases`: all that it can reply, and what it
  does to the engine.
-/

namespace KeypadCalculator

/-- The test for operators finds the operators. -/
theorem Token.isOperator_iff {token : Token} :
    token.isOperator = true ↔ ∃ op, token = .operator op := by
  cases token <;> simp [isOperator]

/-- The test for numbers finds the numbers. -/
theorem Token.isNumber_iff {token : Token} :
    token.isNumber = true ↔ ∃ text, token = .number text := by
  cases token <;> simp [isNumber]

namespace Chain

variable {α : Type}

/-! ## The last operand -/

/-- A chain is a single operand, or a shorter chain with one more operand. -/
theorem eq_single_or_join (chain : Chain α) :
    (∃ operand, chain = { first := operand }) ∨
      ∃ (before : Chain α) (op : Operator) (operand : α),
        chain = before.join op { first := operand } := by
  obtain ⟨first, rest⟩ := chain
  obtain rfl | ⟨links, ⟨op, operand⟩, rfl⟩ := List.eq_nil_or_concat' rest
  · exact .inl ⟨first, rfl⟩
  · exact .inr ⟨{ first, rest := links }, op, operand, rfl⟩

/-- A single operand has its number as its only token. -/
@[simp] theorem tokens_single (text : String) :
    ({ first := text } : Chain String).tokens = [.number text] := rfl

/-- One more operand adds its operator and its number to the tokens. -/
theorem tokens_join_single (before : Chain String) (op : Operator) (text : String) :
    (before.join op { first := text }).tokens = before.tokens ++ [.operator op, .number text] := by
  rw [tokens_join, tokens_single]

/-- The same tokens, split in front of the last one. -/
theorem tokens_join_single_eq_concat (before : Chain String) (op : Operator) (text : String) :
    (before.join op { first := text }).tokens =
      before.tokens ++ [.operator op] ++ [.number text] := by
  rw [tokens_join_single, List.append_cons]

/-- One more operand is one more link at the end. -/
theorem rest_join_single (before : Chain α) (op : Operator) (operand : α) :
    (before.join op { first := operand }).rest = before.rest ++ [(op, operand)] := rfl

/-- A chain ends on a number. -/
theorem exists_tokens_eq_append_number (chain : Chain String) :
    ∃ before text, chain.tokens = before ++ [.number text] := by
  obtain ⟨text, rfl⟩ | ⟨before, op, text, rfl⟩ := chain.eq_single_or_join
  · exact ⟨[], text, rfl⟩
  · exact ⟨_, text, before.tokens_join_single_eq_concat op text⟩

/-- The last token of a chain is a number. -/
theorem exists_getLast?_tokens (chain : Chain String) :
    ∃ text, chain.tokens.getLast? = some (.number text) := by
  obtain ⟨before, text, h⟩ := chain.exists_tokens_eq_append_number
  exact ⟨text, by rw [h, List.getLast?_concat]⟩

/-! ## What stands in a chain -/

/-- The tokens of a chain are the first number in front of the tokens of the links. -/
theorem tokens_eq_cons (chain : Chain String) :
    chain.tokens = .number chain.first :: linkTokens chain.rest := rfl

/-- The first link has its operator and its number in front of the tokens of the others. -/
theorem linkTokens_cons (op : Operator) (text : String) (rest : List (Operator × String)) :
    linkTokens ((op, text) :: rest) = .operator op :: .number text :: linkTokens rest := rfl

/-- A chain has no equals sign. -/
@[simp] theorem equals_not_mem_tokens (chain : Chain String) : Token.equals ∉ chain.tokens := by
  simp [tokens, linkTokens]

/-- The numbers of a chain are its operands. -/
theorem number_mem_tokens_iff {chain : Chain String} {text : String} :
    Token.number text ∈ chain.tokens ↔ text ∈ chain.operands := by
  simp [tokens, linkTokens, operands, eq_comm]

/-- An operator and a number next to each other are a link of the chain. -/
theorem infix_tokens_iff {chain : Chain String} {op : Operator} {text : String} :
    [.operator op, .number text] <:+: chain.tokens ↔ (op, text) ∈ chain.rest := by
  have hnumber : ∀ (first : String) (tokens : List Token),
      [.operator op, .number text] <:+: .number first :: tokens ↔
        [.operator op, .number text] <:+: tokens := by
    intro first tokens
    rw [List.infix_cons_iff, List.cons_prefix_cons]
    exact or_iff_right fun h => Token.noConfusion h.1
  have hlinks : ∀ rest : List (Operator × String),
      [.operator op, .number text] <:+: linkTokens rest ↔ (op, text) ∈ rest := by
    intro rest
    induction rest with
    | nil => simp [linkTokens]
    | cons link rest ih =>
      obtain ⟨op', text'⟩ := link
      have hhere : [.operator op, .number text] <+:
            .operator op' :: .number text' :: linkTokens rest ↔ (op, text) = (op', text') := by
        rw [List.cons_prefix_cons, List.cons_prefix_cons, Token.operator.injEq,
          Token.number.injEq, Prod.mk.injEq, and_iff_left List.nil_prefix]
      rw [linkTokens_cons, List.infix_cons_iff, hnumber, ih, hhere, List.mem_cons]
  rw [tokens_eq_cons, hnumber, hlinks]

end Chain

namespace Engine

variable {scale : Scale} {engine : Engine}

/-! ## The questions -/

/-- Without an equals sign there is no result. -/
theorem result?_eq_none_of_not_mem {tokens : List Token} (h : Token.equals ∉ tokens) :
    result? tokens = none := by
  apply Option.eq_none_iff_forall_ne_some.mpr
  intro text htext
  obtain ⟨before, rfl⟩ := result?_eq_some_iff.mp htext
  exact h (by simp)

/-- A chain is no result. -/
@[simp] theorem result?_tokens (chain : Chain String) : result? chain.tokens = none :=
  result?_eq_none_of_not_mem chain.equals_not_mem_tokens

/-- A number behind an equals sign at the end is a result. -/
@[simp] theorem result?_append_result (tokens : List Token) (text : String) :
    result? (tokens ++ [.equals, .number text]) = some text :=
  result?_eq_some_iff.mpr ⟨tokens, rfl⟩

/-- An operator may stand behind a chain. -/
theorem acceptsOperator_tokens (chain : Chain String) : acceptsOperator chain.tokens = true := by
  obtain ⟨before, text, h⟩ := chain.exists_tokens_eq_append_number
  rw [h]
  simp [acceptsOperator, Token.isOperator]

/-- Two tokens are a token and the one behind it exactly if they stand next to each other. -/
theorem mem_zip_tail_iff {tokens : List Token} {a b : Token} :
    (a, b) ∈ tokens.zip tokens.tail ↔ [a, b] <:+: tokens := by
  induction tokens with
  | nil => simp
  | cons first tokens ih =>
    cases tokens with
    | nil => simp [List.infix_cons_iff]
    | cons second tokens =>
      rw [List.infix_cons_iff, ← ih, List.cons_prefix_cons, List.cons_prefix_cons,
        and_iff_left List.nil_prefix, ← Prod.mk.injEq]
      exact List.mem_cons

/-- The test for a division by the single digit zero finds the two tokens next to each other. -/
theorem dividesByLiteralZero_iff {tokens : List Token} :
    dividesByLiteralZero tokens = true ↔ [.operator .divide, .number "0"] <:+: tokens := by
  rw [← mem_zip_tail_iff]
  simp [dividesByLiteralZero]

/-- An operator and the number behind it are never parted by an equals sign. -/
theorem infix_append_result_iff {tokens : List Token} {op : Operator} {left right : String} :
    [.operator op, .number left] <:+: tokens ++ [.equals, .number right] ↔
      [.operator op, .number left] <:+: tokens := by
  constructor
  · intro h
    rcases List.infix_append_iff.mp h with h | h | ⟨before, after, heq, hbefore, hafter⟩
    · exact h
    · exact absurd (h.eq_of_length rfl) (by simp)
    · cases after with
      | nil =>
        rw [List.append_nil] at heq
        exact heq ▸ hbefore.isInfix
      | cons token after =>
        obtain ⟨rfl, -⟩ := List.cons_prefix_cons.mp hafter
        have hmem : Token.equals ∈ [.operator op, .number left] := by
          rw [heq]
          simp
        simp at hmem
  · intro h
    exact List.infix_append_of_infix_left h

/-- What is asked of tokens before they are evaluated. -/
theorem isComplete_iff {tokens : List Token} :
    isComplete tokens = true ↔
      3 ≤ tokens.length ∧ (∃ op, .operator op ∈ tokens) ∧
        ¬[.operator .divide, .number "0"] <:+: tokens ∧
        ∃ text, tokens.getLast? = some (.number text) := by
  have hoperator : tokens.any Token.isOperator = true ↔ ∃ op, .operator op ∈ tokens := by
    rw [List.any_eq_true]
    constructor
    · rintro ⟨token, hmem, htoken⟩
      obtain ⟨op, rfl⟩ := Token.isOperator_iff.mp htoken
      exact ⟨op, hmem⟩
    · rintro ⟨op, hmem⟩
      exact ⟨_, hmem, rfl⟩
  have hnumber : tokens.getLast?.any Token.isNumber = true ↔
      ∃ text, tokens.getLast? = some (.number text) := by
    rw [Option.any_eq_true]
    constructor
    · rintro ⟨token, hlast, htoken⟩
      obtain ⟨text, rfl⟩ := Token.isNumber_iff.mp htoken
      exact ⟨text, hlast⟩
    · rintro ⟨text, hlast⟩
      exact ⟨_, hlast, rfl⟩
  unfold isComplete
  rw [Bool.and_eq_true, Bool.and_eq_true, Bool.and_eq_true, decide_eq_true_iff, hoperator,
    hnumber, Bool.not_eq_true', ← Bool.not_eq_true, dividesByLiteralZero_iff, and_assoc, and_assoc]

/-- A chain may be evaluated if it has an operator and no divisor that is the single digit zero. -/
theorem isComplete_tokens_iff {chain : Chain String} :
    isComplete chain.tokens = true ↔ chain.rest ≠ [] ∧ (.divide, "0") ∉ chain.rest := by
  rw [isComplete_iff, Chain.infix_tokens_iff, Chain.length_tokens]
  constructor
  · rintro ⟨hlength, -, hzero, -⟩
    refine ⟨?_, hzero⟩
    intro hrest
    rw [hrest, List.length_nil] at hlength
    omega
  · rintro ⟨hrest, hzero⟩
    obtain ⟨⟨op, text⟩, links, hlinks⟩ := List.exists_cons_of_ne_nil hrest
    have hinfix := Chain.infix_tokens_iff.mpr (hlinks ▸ List.mem_cons_self (a := (op, text)))
    refine ⟨?_, ⟨op, hinfix.subset List.mem_cons_self⟩, hzero, chain.exists_getLast?_tokens⟩
    rw [hlinks, List.length_cons]
    omega

/-- A result behind a chain that may be evaluated does not change that. -/
theorem isComplete_append_result {tokens : List Token} (h : isComplete tokens = true)
    (text : String) : isComplete (tokens ++ [.equals, .number text]) = true := by
  obtain ⟨hlength, ⟨op, hop⟩, hzero, -⟩ := isComplete_iff.mp h
  refine isComplete_iff.mpr ⟨?_, ⟨op, List.mem_append_left _ hop⟩, ?_, text, by simp⟩
  · rw [List.length_append]
    omega
  · rwa [infix_append_result_iff]

/-! ## Typing -/

/-- Digits behind a chain make its last operand longer. -/
theorem writeDigits_tokens_join (before : Chain String) (op : Operator) (last text : String) :
    writeDigits (before.join op { first := last }).tokens text =
      (before.join op { first := last ++ text }).tokens := by
  rw [Chain.tokens_join_single_eq_concat, Chain.tokens_join_single_eq_concat,
    writeDigits_append_number]

/-- All that an operator key can do: it names no operator, or none may stand here, or it is
added. -/
theorem insertOperator_reply_cases (engine : Engine) (text : String) :
    engine.insertOperator text = { engine, entries := [.unknownOperator text] } ∨
      engine.insertOperator text = { engine, entries := [.refusedOperator text] } ∨
      ∃ op tokens, Operator.ofText? text = some op ∧ writeOperator? engine.tokens op = some tokens ∧
        engine.insertOperator text =
          { engine := { engine with tokens }
            notices := [.display (Token.display tokens)]
            entries := [.operator text (Token.display tokens)] } := by
  unfold insertOperator
  split
  · exact .inl rfl
  · rename_i op hop
    split
    · exact .inr (.inl rfl)
    · rename_i tokens htokens
      exact .inr (.inr ⟨op, tokens, hop, htokens, rfl⟩)

/-! ## The equals key -/

/-- The equals key refuses tokens that are not complete. -/
theorem insertEquals_of_not_isComplete (h : isComplete engine.tokens = false) :
    engine.insertEquals scale =
      { engine
        notices := [.error engine.settings.refusal]
        entries := [.incomplete engine.display] } := by
  unfold insertEquals
  rw [h]
  rfl

/-- Behind a result the equals key does nothing. -/
theorem insertEquals_of_mem (h : isComplete engine.tokens = true)
    (hmem : Token.equals ∈ engine.tokens) : engine.insertEquals scale = { engine } := by
  unfold insertEquals
  rw [h, List.contains_iff_mem.mpr hmem]
  rfl

/-- Complete tokens without a result are evaluated, and the outcome decides. -/
theorem insertEquals_of_not_mem (h : isComplete engine.tokens = true)
    (hmem : Token.equals ∉ engine.tokens) :
    engine.insertEquals scale =
      match evaluate scale engine.settings.decimals engine.tokens with
      | .ok text =>
        let tokens := engine.tokens ++ [.equals, .number text]
        { engine := { engine with tokens }
          notices := [.display (Token.display tokens)]
          entries := [.result (Token.display tokens)] }
      | .error .divisionByZero =>
        { engine
          notices := [.error engine.settings.refusal]
          entries := [.divisionByZero engine.display] }
      | .error cause => { engine, entries := [.abandoned cause engine.display] } := by
  have hcontains : engine.tokens.contains .equals = false := by
    simpa using hmem
  unfold insertEquals
  rw [h, hcontains]
  rfl

/-- All that the equals key can do: refuse tokens that are not complete, leave a result alone, give
a result, refuse a divisor of value zero, or give up for another reason. -/
theorem insertEquals_reply_cases (scale : Scale) (engine : Engine) :
    (isComplete engine.tokens = false ∧
      engine.insertEquals scale =
        { engine
          notices := [.error engine.settings.refusal]
          entries := [.incomplete engine.display] }) ∨
    (isComplete engine.tokens = true ∧ Token.equals ∈ engine.tokens ∧
      engine.insertEquals scale = { engine }) ∨
    (isComplete engine.tokens = true ∧ Token.equals ∉ engine.tokens ∧
      ((∃ text, evaluate scale engine.settings.decimals engine.tokens = .ok text ∧
          let tokens := engine.tokens ++ [.equals, .number text]
          engine.insertEquals scale =
            { engine := { engine with tokens }
              notices := [.display (Token.display tokens)]
              entries := [.result (Token.display tokens)] }) ∨
        (evaluate scale engine.settings.decimals engine.tokens = .error .divisionByZero ∧
          engine.insertEquals scale =
            { engine
              notices := [.error engine.settings.refusal]
              entries := [.divisionByZero engine.display] }) ∨
        ∃ cause, cause ≠ .divisionByZero ∧
          evaluate scale engine.settings.decimals engine.tokens = .error cause ∧
          engine.insertEquals scale =
            { engine, entries := [.abandoned cause engine.display] })) := by
  by_cases hcomplete : isComplete engine.tokens = true
  · refine .inr ?_
    by_cases hmem : Token.equals ∈ engine.tokens
    · exact .inl ⟨hcomplete, hmem, insertEquals_of_mem hcomplete hmem⟩
    · refine .inr ⟨hcomplete, hmem, ?_⟩
      rw [insertEquals_of_not_mem hcomplete hmem]
      split
      · rename_i text hvalue
        exact .inl ⟨text, hvalue, rfl⟩
      · rename_i hvalue
        exact .inr (.inl ⟨hvalue, rfl⟩)
      · rename_i cause hne hvalue
        exact .inr (.inr ⟨cause, hne, hvalue, rfl⟩)
  · have hincomplete := Bool.eq_false_iff.mpr hcomplete
    exact .inl ⟨hincomplete, insertEquals_of_not_isComplete hincomplete⟩

/-- The equals key leaves the engine as it was, or it puts the result of the whole behind it. -/
theorem insertEquals_cases (scale : Scale) (engine : Engine) :
    (engine.insertEquals scale).engine = engine ∨
      ∃ text, isComplete engine.tokens = true ∧ Token.equals ∉ engine.tokens ∧
        evaluate scale engine.settings.decimals engine.tokens = .ok text ∧
        (engine.insertEquals scale).engine =
          { engine with tokens := engine.tokens ++ [.equals, .number text] } := by
  rcases insertEquals_reply_cases scale engine with ⟨-, heq⟩ | ⟨-, -, heq⟩ |
    ⟨hcomplete, hmem, ⟨text, hvalue, heq⟩ | ⟨-, heq⟩ | ⟨cause, -, -, heq⟩⟩
  · exact .inl (congrArg Reply.engine heq)
  · exact .inl (congrArg Reply.engine heq)
  · exact .inr ⟨text, hcomplete, hmem, hvalue, congrArg Reply.engine heq⟩
  · exact .inl (congrArg Reply.engine heq)
  · exact .inl (congrArg Reply.engine heq)

end Engine

end KeypadCalculator
