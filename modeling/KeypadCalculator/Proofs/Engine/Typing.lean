import KeypadCalculator.Proofs.Engine.Ending
import KeypadCalculator.Proofs.Token.Lexing

/-!
# Typing an expression key by key

A key changes the end of what the engine holds and nothing else: a digit goes on from a digit, and
an operator is passed over behind another one. So the engine holds at any time the tokens that the
keys spell, without the operators that were passed over. What it held before typing decides about
the first key alone. In front of nothing an operator is passed over too; behind a result it takes
the result for its left operand, while a digit forgets the result.

* `Engine.tokens_perform_key`: one key. The invariant is that the tokens are those of the squeezed
  text, behind a first operand that was taken over.
* `Engine.tokens_run_append_lex`: further keys, by induction on them.
* `Engine.tokens_run_of_digit`, `Engine.tokens_run_of_symbol`: the first key.
* `Engine.tokens_run_keys`: what is typed on an engine that holds nothing, and on a result.
* `Engine.tokens_run_ofDisplay`, `Engine.tokens_run_ofDisplay_of_result`: a chain of digits is typed
  by the keys of its display.
-/

namespace KeypadCalculator

variable {scale : Scale} {engine : Engine} {c d : Char}

/-- The key of a digit types it. -/
theorem Command.ofChar_of_isDigit (h : c.isDigit = true) :
    Command.ofChar c = .digits c.toString := by
  rw [Command.ofChar, if_pos h]

/-- The key of an operator's symbol is that of the operator. -/
theorem Command.ofChar_symbol (op : Operator) : Command.ofChar op.symbol = .operator op.text := by
  cases op <;> rfl

/-- The keys with which tokens are typed as they are displayed. -/
def Command.ofDisplay (tokens : List Token) : List Command :=
  (Token.display tokens).toList.map ofChar

/-- The keys of two displays in a row are those of the one and then of the other. -/
theorem Command.ofDisplay_append (tokens more : List Token) :
    ofDisplay (tokens ++ more) = ofDisplay tokens ++ ofDisplay more := by
  rw [ofDisplay, Token.display_append, String.toList_append, List.map_append]
  rfl

namespace Engine

/-! ## One key -/

/-- Digits are written behind tokens that are no result. -/
theorem tokens_perform_digits (h : result? engine.tokens = none) (text : String) :
    (engine.perform scale (.digits text)).engine.tokens = writeDigits engine.tokens text := by
  show (if (result? engine.tokens).isSome then _ else _) = _
  rw [h]
  rfl

/-- Digits typed behind a result start a new expression. -/
theorem tokens_perform_digits_of_result {result : String} (h : result? engine.tokens = some result)
    (text : String) : (engine.perform scale (.digits text)).engine.tokens = [.number text] := by
  show (if (result? engine.tokens).isSome then _ else _) = _
  rw [h]
  rfl

/-- An operator is written where it may stand and passed over elsewhere. -/
theorem tokens_perform_operator (op : Operator) :
    (engine.perform scale (.operator op.text)).engine.tokens =
      (writeOperator? engine.tokens op).getD engine.tokens := by
  show (engine.insertOperator op.text).engine.tokens = _
  unfold insertOperator
  rw [Operator.ofText?_text]
  simp only
  split
  · rename_i hnone
    rw [hnone]
    rfl
  · rename_i tokens hsome
    rw [hsome]
    rfl

/-- An operator may follow a number that is not a result. -/
theorem writeOperator?_append_number {tokens : List Token} (h : Token.equals ∉ tokens)
    (text : String) (op : Operator) :
    writeOperator? (tokens ++ [.number text]) op =
      some (tokens ++ [.number text] ++ [.operator op]) := by
  have hnone : result? (tokens ++ [.number text]) = none := by
    apply result?_eq_none_of_not_mem
    simpa using h
  have haccepts : acceptsOperator (tokens ++ [.number text]) = true := by
    simp [acceptsOperator, Token.isOperator]
  unfold writeOperator?
  rw [hnone, haccepts]
  rfl

/-! ## One key behind others -/

section behind

variable {base : List Token}

/-- A digit typed behind a digit is lexed with it. -/
theorem writeDigits_append_lex_digit (base : List Token) (keys : List Char) (hd : d.isDigit = true)
    (hc : c.isDigit = true) :
    writeDigits (base ++ lex (keys ++ [d])) c.toString = base ++ lex (keys ++ [d] ++ [c]) := by
  obtain ⟨before, text, hbefore, hafter⟩ := exists_lex_concat_digit keys hd hc
  rw [hbefore, hafter, ← List.append_assoc, writeDigits_append_number, List.append_assoc]

/-- A digit typed behind an operator is lexed as a number of its own. -/
theorem writeDigits_append_lex_symbol (base : List Token) (keys : List Char) (op : Operator)
    (hc : c.isDigit = true) :
    writeDigits (base ++ lex (keys ++ [op.symbol])) c.toString =
      base ++ lex (keys ++ [op.symbol] ++ [c]) := by
  rw [lex_concat_symbol, lex_concat_digit_of_symbol keys op hc, ← List.append_assoc,
    writeDigits_append_operator, List.append_assoc]

/-- An operator typed behind a digit is lexed as its own token. -/
theorem writeOperator?_append_lex_digit (hbase : Token.equals ∉ base) (keys : List Char)
    (hd : d.isDigit = true) (op : Operator) :
    writeOperator? (base ++ lex (keys ++ [d])) op =
      some (base ++ lex (keys ++ [d] ++ [op.symbol])) := by
  obtain ⟨before, text, hbefore, -⟩ := exists_lex_concat_digit keys hd hd
  have hmem : Token.equals ∉ base ++ before := by
    have hlex := equals_not_mem_lex (keys ++ [d])
    rw [hbefore, List.mem_append, not_or] at hlex
    rw [List.mem_append, not_or]
    exact ⟨hbase, hlex.1⟩
  rw [lex_concat_symbol, hbefore, ← List.append_assoc, writeOperator?_append_number hmem,
    List.append_assoc, List.append_assoc, List.append_assoc]

/-- An operator may not be typed behind an operator. -/
theorem writeOperator?_append_lex_symbol (base : List Token) (keys : List Char)
    (before op : Operator) : writeOperator? (base ++ lex (keys ++ [before.symbol])) op = none := by
  rw [lex_concat_symbol, ← List.append_assoc, writeOperator?_append_operator]

/-- The tokens of a text are no result, whatever stands in front of them. -/
theorem result?_append_lex (hbase : Token.equals ∉ base) (keys : List Char) :
    result? (base ++ lex keys) = none := by
  apply result?_eq_none_of_not_mem
  rw [List.mem_append, not_or]
  exact ⟨hbase, equals_not_mem_lex keys⟩

/-- If the engine holds the tokens of a text without the operators that are passed over, then it
does so with one more key, whatever stands in front of them. -/
theorem tokens_perform_key (hbase : Token.equals ∉ base) {text : List Char} (hd : IsExpressionKey d)
    (h : engine.tokens = base ++ lex (squeeze (text ++ [d]))) (hc : IsExpressionKey c) :
    (engine.perform scale (Command.ofChar c)).engine.tokens =
      base ++ lex (squeeze (text ++ [d] ++ [c])) := by
  have hresult : result? engine.tokens = none := by
    rw [h]
    exact result?_append_lex hbase _
  rcases hc with hc | ⟨op, rfl⟩
  · rw [Command.ofChar_of_isDigit hc, tokens_perform_digits hresult, h, squeeze_concat_digit _ hc]
    rcases hd with hd | ⟨before, rfl⟩
    · rw [squeeze_concat_digit _ hd]
      exact writeDigits_append_lex_digit base _ hd hc
    · obtain ⟨kept, last, hkept, -⟩ := exists_squeeze_concat_symbol_of_symbol text before before
      rw [hkept]
      exact writeDigits_append_lex_symbol base kept last hc
  · rw [Command.ofChar_symbol, tokens_perform_operator, h]
    rcases hd with hd | ⟨before, rfl⟩
    · rw [squeeze_concat_symbol_of_digit hd, squeeze_concat_digit _ hd,
        writeOperator?_append_lex_digit hbase _ hd]
      rfl
    · obtain ⟨kept, last, hbefore, hafter⟩ :=
        exists_squeeze_concat_symbol_of_symbol text before op
      rw [hafter, hbefore, writeOperator?_append_lex_symbol]
      rfl

/-- Further keys, one at a time. -/
theorem tokens_run_append_lex (hbase : Token.equals ∉ base) {text keys : List Char}
    (hd : IsExpressionKey d) (h : engine.tokens = base ++ lex (squeeze (text ++ [d])))
    (hkeys : ∀ c ∈ keys, IsExpressionKey c) :
    (engine.run scale (keys.map Command.ofChar)).tokens =
      base ++ lex (squeeze (text ++ [d] ++ keys)) := by
  induction keys generalizing engine text d with
  | nil =>
    rw [List.append_nil]
    exact h
  | cons c keys ih =>
    have hc := hkeys c List.mem_cons_self
    rw [List.map_cons, run_cons, List.append_cons (text ++ [d])]
    exact ih hc (tokens_perform_key hbase hd h hc) fun e he => hkeys e (List.mem_cons_of_mem _ he)

end behind

/-! ## The first key -/

/-- An engine on which a digit starts a new expression: it holds nothing or a result. -/
def StartsAnew (engine : Engine) : Prop :=
  engine.tokens = [] ∨ ∃ before result, engine.tokens = before ++ [.equals, .number result]

/-- Where a new expression starts, digits are its only token. -/
theorem StartsAnew.tokens_perform_digits (h : engine.StartsAnew) (text : String) :
    (engine.perform scale (.digits text)).engine.tokens = [.number text] := by
  rcases h with hnil | ⟨before, result, hresult⟩
  · have hnone : result? engine.tokens = none := by
      rw [hnil]
      rfl
    rw [Engine.tokens_perform_digits hnone, hnil, writeDigits_nil]
  · exact tokens_perform_digits_of_result (result?_eq_some_iff.mpr ⟨before, hresult⟩) text

variable {keys : List Char}

/-- Keys that start with a digit are an expression of their own. -/
theorem tokens_run_of_digit (h : engine.StartsAnew) (hc : c.isDigit = true)
    (hkeys : ∀ d ∈ keys, IsExpressionKey d) :
    (engine.run scale ((c :: keys).map Command.ofChar)).tokens = lex (squeeze (c :: keys)) := by
  have hfirst : (engine.perform scale (Command.ofChar c)).engine.tokens =
      [] ++ lex (squeeze ([] ++ [c])) := by
    rw [Command.ofChar_of_isDigit hc, h.tokens_perform_digits, List.nil_append, List.nil_append,
      squeeze_singleton, lex_digit hc]
  rw [List.map_cons, run_cons]
  exact tokens_run_append_lex List.not_mem_nil (.inl hc) hfirst hkeys

/-- Keys that start with an operator go on from a result. -/
theorem tokens_run_of_symbol {before : List Token} {result : String}
    (h : engine.tokens = before ++ [.equals, .number result]) (op : Operator)
    (hkeys : ∀ d ∈ keys, IsExpressionKey d) :
    (engine.run scale ((op.symbol :: keys).map Command.ofChar)).tokens =
      .number result :: lex (squeeze (op.symbol :: keys)) := by
  have hfirst : (engine.perform scale (Command.ofChar op.symbol)).engine.tokens =
      [.number result] ++ lex (squeeze ([] ++ [op.symbol])) := by
    rw [Command.ofChar_symbol, tokens_perform_operator,
      writeOperator?_of_result (result?_eq_some_iff.mpr ⟨before, h⟩), List.nil_append,
      squeeze_singleton, lex_symbol]
    rfl
  rw [List.map_cons, run_cons]
  exact tokens_run_append_lex (by simp) (.inr ⟨op, rfl⟩) hfirst hkeys

/-- Operators are passed over as long as there is nothing in front of them. -/
theorem tokens_run_symbols (h : engine.tokens = [])
    (hkeys : ∀ d ∈ keys, Operator.isSymbol d = true) :
    (engine.run scale (keys.map Command.ofChar)).tokens = [] := by
  induction keys generalizing engine with
  | nil => exact h
  | cons c keys ih =>
    obtain ⟨op, rfl⟩ := Operator.isSymbol_iff.mp (hkeys c List.mem_cons_self)
    rw [List.map_cons, run_cons]
    refine ih ?_ fun d hd => hkeys d (List.mem_cons_of_mem _ hd)
    rw [Command.ofChar_symbol, tokens_perform_operator, h]
    rfl

/-- Keys typed on an engine that holds nothing. -/
theorem tokens_run_of_nil (h : engine.tokens = []) (hkeys : ∀ d ∈ keys, IsExpressionKey d) :
    (engine.run scale (keys.map Command.ofChar)).tokens = lex (keptKeys keys) := by
  let leading := keys.takeWhile Operator.isSymbol
  have hrun : engine.run scale (keys.map Command.ofChar) =
      (engine.run scale (leading.map Command.ofChar)).run scale
        ((keys.dropWhile Operator.isSymbol).map Command.ofChar) := by
    rw [← run_append, ← List.map_append, List.takeWhile_append_dropWhile]
  have hleading : (engine.run scale (leading.map Command.ofChar)).tokens = [] :=
    tokens_run_symbols h fun d hd => List.all_eq_true.mp List.all_takeWhile d hd
  have hnot := List.head?_dropWhile_not Operator.isSymbol keys
  have hmem : ∀ d ∈ keys.dropWhile Operator.isSymbol, IsExpressionKey d :=
    fun d hd => hkeys d ((List.dropWhile_sublist _).mem hd)
  rw [hrun, keptKeys]
  rcases hdrop : keys.dropWhile Operator.isSymbol with _ | ⟨c, rest⟩
  · exact hleading
  · rw [hdrop] at hnot hmem
    have hc : c.isDigit = true := by
      rcases hmem c List.mem_cons_self with hc | ⟨op, rfl⟩
      · exact hc
      · simp at hnot
    exact tokens_run_of_digit (.inl hleading) hc fun d hd => hmem d (List.mem_cons_of_mem _ hd)

/-- Keys on an engine that holds nothing are an expression without the operators that stand in front
or follow another. On a result, keys that start with a digit have the same effect, and those that
start with an operator go on from the result. -/
theorem tokens_run_keys (scale : Scale) (engine : Engine) {keys : List Char}
    (hkeys : ∀ c ∈ keys, IsExpressionKey c) :
    let commands := keys.map Command.ofChar
    let typed := engine.run scale commands
    (engine.tokens = [] →
      typed.display = String.ofList (keptKeys keys) ∧ typed.tokens = lex (keptKeys keys)) ∧
    ∀ (before : List Token) (result : String), engine.tokens = before ++ [.equals, .number result] →
      ∀ (first : Char) (rest : List Char), keys = first :: rest →
        (first.isDigit = true → ∀ fresh : Engine, fresh.tokens = [] →
          typed.tokens = (fresh.run scale commands).tokens) ∧
        (Operator.isSymbol first = true → typed.tokens = .number result :: lex (squeeze keys)) := by
  intro commands typed
  refine ⟨?_, ?_⟩
  · intro hnil
    have htokens : typed.tokens = lex (keptKeys keys) := tokens_run_of_nil hnil hkeys
    refine ⟨?_, htokens⟩
    rw [display, htokens, display_lex]
  · rintro before result hresult first rest rfl
    have hrest : ∀ d ∈ rest, IsExpressionKey d := fun d hd => hkeys d (List.mem_cons_of_mem _ hd)
    refine ⟨?_, ?_⟩
    · intro hfirst fresh hfresh
      have htyped : typed.tokens = lex (squeeze (first :: rest)) :=
        tokens_run_of_digit (.inr ⟨before, result, hresult⟩) hfirst hrest
      have hanew : (fresh.run scale commands).tokens = lex (squeeze (first :: rest)) :=
        tokens_run_of_digit (.inl hfresh) hfirst hrest
      exact htyped.trans hanew.symm
    · intro hfirst
      obtain ⟨op, rfl⟩ := Operator.isSymbol_iff.mp hfirst
      exact tokens_run_of_symbol hresult op hrest

/-- `*+2//03` is the expression `2/03`, and on the result of `1/8` it is `0.12*2/03`. -/
theorem tokens_run_keys_of_superfluous_operators :
    let keys := "*+2//03".toList
    let engine : Engine := ({} : Engine).run .wrapped ("1/8=".toList.map Command.ofChar)
    engine.tokens = [.number "1", .operator .divide, .number "8"] ++ [.equals, .number "0.12"] ∧
      (({} : Engine).run .wrapped (keys.map Command.ofChar)).display = "2/03" ∧
      (({} : Engine).run .wrapped (keys.map Command.ofChar)).tokens =
        [.number "2", .operator .divide, .number "03"] ∧
      (engine.run .wrapped (keys.map Command.ofChar)).tokens =
        [.number "0.12", .operator .times, .number "2", .operator .divide, .number "03"] := by
  intro keys engine
  have hall : (keys.all fun c => decide (IsExpressionKey c)) = true := by decide +kernel
  have hkeys : ∀ c ∈ keys, IsExpressionKey c :=
    fun c hc => of_decide_eq_true (List.all_eq_true.mp hall c hc)
  have hresult : engine.tokens =
      [.number "1", .operator .divide, .number "8"] ++ [.equals, .number "0.12"] := by
    decide +kernel
  obtain ⟨hblank, -⟩ := tokens_run_keys .wrapped {} hkeys
  obtain ⟨hdisplay, htokens⟩ := hblank rfl
  obtain ⟨-, hbehind⟩ := tokens_run_keys .wrapped engine hkeys
  obtain ⟨-, hsymbol⟩ := hbehind _ _ hresult '*' "+2//03".toList (by decide +kernel)
  refine ⟨hresult, ?_, ?_, ?_⟩
  · exact hdisplay.trans (by decide +kernel)
  · exact htokens.trans (by decide +kernel)
  · exact (hsymbol (by decide)).trans (by decide +kernel)

/-! ## Typing a chain of digits -/

section chain

variable {chain : Chain String}

/-- Only setting the decimals changes the settings. -/
theorem settings_perform {command : Command} (h : ∀ decimals, command ≠ .setDecimals decimals) :
    (engine.perform scale command).engine.settings = engine.settings := by
  cases command with
  | digits text => rfl
  | operator text =>
    rw [perform_operator]
    rcases insertOperator_reply_cases engine text with heq | heq | ⟨op, tokens, -, -, heq⟩ <;>
      rw [heq]
  | equals =>
    rw [perform_equals]
    rcases insertEquals_cases scale engine with heq | ⟨text, -, -, -, heq⟩ <;> rw [heq]
  | clear => rfl
  | setDecimals decimals => exact absurd rfl (h decimals)

/-- Typing leaves the settings as they are. -/
theorem settings_run_ofDisplay (engine : Engine) (tokens : List Token) :
    (engine.run scale (Command.ofDisplay tokens)).settings = engine.settings := by
  unfold Command.ofDisplay
  induction (Token.display tokens).toList generalizing engine with
  | nil => rfl
  | cons c keys ih =>
    rw [List.map_cons, run_cons, ih]
    apply settings_perform
    intro decimals
    unfold Command.ofChar
    split_ifs <;> simp

/-- A chain of digits is typed by the keys of its display. -/
theorem tokens_run_ofDisplay (h : engine.StartsAnew)
    (hdigits : ∀ text ∈ chain.operands, IsDigits text) :
    (engine.run scale (Command.ofDisplay chain.tokens)).tokens = chain.tokens := by
  obtain ⟨hfirst, hrest⟩ := Chain.forall_operands_iff.mp hdigits
  obtain ⟨c, digits, hc⟩ := List.exists_cons_of_ne_nil hfirst.toList_ne_nil
  have hall := hfirst.isDigit
  rw [hc, List.forall_mem_cons] at hall
  have hdisplay : (Token.display chain.tokens).toList =
      c :: (digits ++ (Token.display (Chain.linkTokens chain.rest)).toList) := by
    rw [chain.toList_display_tokens, hc, List.cons_append]
  have hkeys : ∀ d ∈ digits ++ (Token.display (Chain.linkTokens chain.rest)).toList,
      IsExpressionKey d := by
    rw [List.forall_mem_append]
    exact ⟨fun d hd => .inl (hall.2 d hd), Chain.isExpressionKey_of_mem_display_linkTokens hrest⟩
  rw [Command.ofDisplay, hdisplay, tokens_run_of_digit h hall.1 hkeys, ← hdisplay,
    Chain.squeeze_display_tokens hdigits, Chain.lex_display_tokens hdigits]

/-- An operator and a chain of digits go on from a result. -/
theorem tokens_run_ofDisplay_of_result {before : List Token} {result : String}
    (h : engine.tokens = before ++ [.equals, .number result]) (op : Operator)
    (hdigits : ∀ text ∈ chain.operands, IsDigits text) :
    (engine.run scale (Command.ofDisplay (.operator op :: chain.tokens))).tokens =
      (Chain.join { first := result } op chain).tokens := by
  have hlinks : ∀ link ∈ (op, chain.first) :: chain.rest, IsDigits link.2 := by
    obtain ⟨hfirst, hrest⟩ := Chain.forall_operands_iff.mp hdigits
    exact List.forall_mem_cons.mpr ⟨hfirst, hrest⟩
  have htokens : Token.operator op :: chain.tokens =
      Chain.linkTokens ((op, chain.first) :: chain.rest) := rfl
  have hdisplay :=
    Chain.toList_display_linkTokens_cons op chain.first chain.rest
  have hkeys := Chain.isExpressionKey_of_mem_display_linkTokens hlinks
  rw [hdisplay, List.forall_mem_cons] at hkeys
  rw [htokens, Command.ofDisplay, hdisplay, tokens_run_of_symbol h op hkeys.2, ← hdisplay,
    Chain.squeeze_display_linkTokens hlinks, Chain.lex_display_linkTokens hlinks]
  rfl

end chain

end Engine

end KeypadCalculator
