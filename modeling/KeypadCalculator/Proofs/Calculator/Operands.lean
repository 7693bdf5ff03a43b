import KeypadCalculator.Proofs.Calculator.Coherence
import KeypadCalculator.Proofs.Calculator.Keyboard
import KeypadCalculator.Proofs.Engine.Reading
import KeypadCalculator.Proofs.Engine.Typing

/-!
# Operands of a calculator in use

The engine takes any text for digits. Its user cannot type any text: a button types one digit, and
the keyboard passes over every character that names no key. So all that is done on the panel is a
run of actions that type digits, and the invariant of the engine holds with digits for what is
typed. It says that every number can be read: it was typed, or it is a result in one of two places,
in front of an operator at the start or behind the equals sign, and no digit is ever put behind it.
With readable numbers the equals key is never silent on an expression that has no result.

* `Calculator.use`: a calculator after several gestures.
* `Calculator.exists_run_eq_use`: gestures are runs of actions that type digits.
* `Engine.Shape.number_cases`: where numbers of each kind stand.
* `Engine.Shape.digits_cases`: what digits do to the tokens.
* `Calculator.press_equals_cases`: the equals key gets a result or opens an alert.
* `Calculator.numbers_use_start`: all of it, for a calculator in use.
-/

namespace KeypadCalculator

variable {scale : Scale}

/-! ## Gestures type digits -/

/-- An action that types nothing but texts of one kind. -/
def Action.Types (Typed : String → Prop) : Action → Prop
  | .command call => call.Types Typed
  | .dismiss => True

/-- Every button types a digit, if it types at all. -/
theorem Button.types_command (button : Button) : button.command.Types IsDigits := by
  cases button with
  | digit value =>
    have hdigit : (Nat.digitChar value).isDigit = true := by
      revert value
      decide
    exact Command.types_digits_toString hdigit
  | operator op => trivial
  | equals => trivial
  | clear => trivial

namespace Calculator

variable {calculator : Calculator}

/-- The calculator after several gestures of its user. -/
def use (scale : Scale) (field : FieldReading) (calculator : Calculator) (gestures : List Gesture) :
    Calculator :=
  gestures.foldl (handle scale field) calculator

/-- A button that is on the screen closes the alert, or it is one of the keypad. -/
theorem exists_button_of_isOffered {label : String}
    (h : (Gesture.press label).isOffered calculator = true) :
    label = dismissLabel ∨ ∃ button : Button, button.label = label := by
  simp only [Gesture.isOffered] at h
  split_ifs at h with hdismiss
  · exact .inl hdismiss
  · obtain ⟨button, -, hbutton⟩ := List.any_eq_true.mp h
    exact .inr ⟨button, of_decide_eq_true hbutton⟩

/-- A gesture is a run of actions, all of which type digits or nothing. However the field takes what
is typed into it, it sets the number of decimals at most. -/
theorem exists_run_eq_handle (scale : Scale) (field : FieldReading) (calculator : Calculator)
    (gesture : Gesture) :
    ∃ actions : List Action, (∀ action ∈ actions, action.Types IsDigits) ∧
      calculator.handle scale field gesture = calculator.run scale actions := by
  have hone : ∀ action : Action, action.Types IsDigits →
      ∀ other ∈ [action], other.Types IsDigits :=
    fun action haction => List.forall_mem_singleton.mpr haction
  cases gesture with
  | press label =>
    simp only [handle]
    split_ifs with hoffered hdismiss
    · exact ⟨[], nofun, rfl⟩
    · exact ⟨[.dismiss], hone _ trivial, rfl⟩
    · have hshown : (Gesture.press label).isOffered calculator = true := by simpa using hoffered
      obtain ⟨button, rfl⟩ := (exists_button_of_isOffered hshown).resolve_left hdismiss
      exact ⟨[.command button.command], hone _ button.types_command,
        press_eq_perform scale calculator button⟩
  | keyboard frame =>
    show ∃ actions : List Action, _ ∧ calculator.readFrame scale frame false = _
    cases hescape : frame.escape with
    | false =>
      refine ⟨frame.commands.map .command, ?_, readFrame_of_not_escape hescape⟩
      intro action haction
      obtain ⟨command, hcommand, rfl⟩ := List.mem_map.mp haction
      obtain ⟨button, rfl⟩ := Frame.exists_button_of_mem_commands hcommand
      exact button.types_command
    | true =>
      rw [readFrame, if_neg Bool.false_ne_true, if_pos hescape, escape]
      split
      · exact ⟨[.dismiss], hone _ trivial, rfl⟩
      · exact ⟨[.command .clear], hone _ trivial, rfl⟩
  | turnField decimals => exact ⟨[.command (.setDecimals decimals)], hone _ trivial, rfl⟩
  | typeField text =>
    simp only [handle]
    split
    · exact ⟨[.command (.setDecimals _)], hone _ trivial, rfl⟩
    · exact ⟨[], nofun, rfl⟩

/-- Several gestures are a run of actions as well. -/
theorem exists_run_eq_use (scale : Scale) (field : FieldReading) (calculator : Calculator)
    (gestures : List Gesture) :
    ∃ actions : List Action, (∀ action ∈ actions, action.Types IsDigits) ∧
      calculator.use scale field gestures = calculator.run scale actions := by
  induction gestures generalizing calculator with
  | nil => exact ⟨[], nofun, rfl⟩
  | cons gesture gestures ih =>
    obtain ⟨first, hfirst, hhandle⟩ := exists_run_eq_handle scale field calculator gesture
    obtain ⟨more, hmore, huse⟩ := ih (calculator.handle scale field gesture)
    refine ⟨first ++ more, List.forall_mem_append.mpr ⟨hfirst, hmore⟩, ?_⟩
    rw [run_append, ← hhandle]
    exact huse

/-- An action reaches the engine as a call, or not at all. -/
theorem wellFormed_engine_perform {Typed : String → Prop}
    (h : calculator.engine.WellFormed scale Typed) {action : Action} (htypes : action.Types Typed) :
    (calculator.perform scale action).engine.WellFormed scale Typed := by
  cases action with
  | command command =>
    rw [perform]
    split
    · exact h
    · exact h.perform htypes
  | dismiss => exact h

/-- A run of actions that type texts of one kind keeps the engine well formed. -/
theorem wellFormed_engine_run {Typed : String → Prop}
    (h : calculator.engine.WellFormed scale Typed) {actions : List Action}
    (htypes : ∀ action ∈ actions, action.Types Typed) :
    (calculator.run scale actions).engine.WellFormed scale Typed := by
  induction actions generalizing calculator with
  | nil => exact h
  | cons action actions ih =>
    obtain ⟨haction, hactions⟩ := List.forall_mem_cons.mp htypes
    rw [run_cons]
    exact ih (wellFormed_engine_perform h haction) hactions

/-- A calculator in use keeps its screen up to date, and only digits are typed. -/
theorem invariants_use_start (scale : Scale) (field : FieldReading) (gestures : List Gesture) :
    (start.use scale field gestures).Coherent scale ∧
      (start.use scale field gestures).engine.WellFormed scale IsDigits := by
  obtain ⟨actions, htypes, huse⟩ := exists_run_eq_use scale field start gestures
  rw [huse]
  exact ⟨(coherent_start scale).run actions,
    wellFormed_engine_run (Engine.wellFormed_start _ []) htypes⟩

end Calculator

/-! ## Where numbers stand -/

/-- A number in tokens with an ending is one of the ending, or it stands in front of it. -/
theorem eq_append_number_cases {front ending before after : List Token} {text : String}
    (h : front ++ ending = before ++ Token.number text :: after) :
    (∃ middle, before = front ++ middle ∧ ending = middle ++ Token.number text :: after) ∨
      ∃ rest, front = before ++ Token.number text :: rest ∧ after = rest ++ ending := by
  rcases List.append_eq_append_iff.mp h with ⟨middle, hbefore, hending⟩ | ⟨rest, hfront, hafter⟩
  · exact .inl ⟨middle, hbefore, hending⟩
  · cases rest with
    | nil => exact .inl ⟨[], by simpa using hfront.symm, hafter.symm⟩
    | cons token rest =>
      obtain ⟨rfl, rfl⟩ := List.cons.inj hafter
      exact .inr ⟨rest, hfront, rfl⟩

/-- Links begin with an operator. -/
theorem Chain.exists_linkTokens_eq_cons {rest : List (Operator × String)} (h : rest ≠ []) :
    ∃ op more, linkTokens rest = .operator op :: more := by
  obtain ⟨⟨op, text⟩, rest, rfl⟩ := List.exists_cons_of_ne_nil h
  exact ⟨op, _, linkTokens_cons op text rest⟩

/-- A number in a chain was typed, or it is the first one and a result. -/
theorem Chain.IsEntered.number_cases {chain : Chain String} (h : chain.IsEntered scale IsDigits)
    {before after : List Token} {text : String}
    (heq : chain.tokens = before ++ Token.number text :: after) :
    IsDigits text ∨
      IsResultText text ∧ text = chain.first ∧ before = [] ∧ after = linkTokens chain.rest := by
  rw [tokens_eq_cons] at heq
  cases before with
  | nil =>
    obtain ⟨htext, rfl⟩ := List.cons.inj heq
    obtain rfl := Token.number.inj htext
    rcases h.first with hdigits | ⟨earlier, hresult⟩
    · exact .inl hdigits
    · exact .inr ⟨hresult.isResultText, rfl, rfl, rfl⟩
  | cons token before =>
    obtain ⟨-, hlinks⟩ := List.cons.inj heq
    have hmem : .number text ∈ linkTokens chain.rest := by
      rw [hlinks]
      exact List.mem_append_right _ List.mem_cons_self
    obtain ⟨link, hlink, htext⟩ := List.mem_flatMap.mp hmem
    obtain rfl : text = link.2 := by simpa using htext
    exact .inl (h.rest link hlink)

/-- A number in a chain with an ending was typed, or it is a result at the start with an operator
behind it, or it is one of the ending. A result that is the whole chain needs an operator in the
ending. -/
theorem Chain.IsEntered.number_append_cases {chain : Chain String}
    (h : chain.IsEntered scale IsDigits) {ending before after : List Token} {text : String}
    (hstart : chain.rest = [] →
      IsDigits chain.first ∨ ∃ op more, ending = .operator op :: more)
    (heq : chain.tokens ++ ending = before ++ Token.number text :: after) :
    IsDigits text ∨
      (IsResultText text ∧ before = [] ∧ ∃ op rest, after = .operator op :: rest) ∨
      ∃ middle, before = chain.tokens ++ middle ∧
        ending = middle ++ Token.number text :: after := by
  rcases eq_append_number_cases heq with hending | ⟨rest, hchain, rfl⟩
  · exact .inr (.inr hending)
  · rcases h.number_cases hchain with hdigits | ⟨hresult, rfl, hbefore, rfl⟩
    · exact .inl hdigits
    · by_cases hrest : chain.rest = []
      · rcases hstart hrest with hdigits | ⟨op, more, rfl⟩
        · exact .inl hdigits
        · exact .inr (.inl ⟨hresult, hbefore, op, more, by rw [hrest]; rfl⟩)
      · obtain ⟨op, more, hmore⟩ := exists_linkTokens_eq_cons hrest
        exact .inr (.inl ⟨hresult, hbefore, op, more ++ ending, by rw [hmore]; rfl⟩)

namespace Engine

variable {tokens : List Token} {engine : Engine}

/-- A number was typed; or it is a result, which stands at the start with an operator behind it, or
at the end with the equals sign in front of it. -/
theorem Shape.number_cases (h : Shape scale IsDigits tokens) {before after : List Token}
    {text : String} (heq : tokens = before ++ Token.number text :: after) :
    IsDigits text ∨ IsResultText text ∧
      ((before = [] ∧ ∃ op rest, after = .operator op :: rest) ∨
        (after = [] ∧ ∃ rest, before = rest ++ [Token.equals])) := by
  cases h with
  | blank => simp at heq
  | @operand chain entered single =>
    rcases entered.number_append_cases (fun hrest => .inl (single hrest))
      ((List.append_nil _).trans heq) with hdigits | ⟨hresult, hfirst⟩ | ⟨middle, -, hending⟩
    · exact .inl hdigits
    · exact .inr ⟨hresult, .inl hfirst⟩
    · simp at hending
  | @operator chain entered op =>
    rcases entered.number_append_cases (fun _ => .inr ⟨op, [], rfl⟩) heq with
      hdigits | ⟨hresult, hfirst⟩ | ⟨middle, -, hending⟩
    · exact .inl hdigits
    · exact .inr ⟨hresult, .inl hfirst⟩
    · have hmem : Token.number text ∈ [.operator op] := by
        rw [hending]
        exact List.mem_append_right _ List.mem_cons_self
      simp at hmem
  | @result chain result entered hasResult =>
    obtain ⟨hrest, -⟩ := isComplete_tokens_iff.mp hasResult.isComplete
    rcases entered.number_append_cases (fun hnil => absurd hnil hrest) heq with
      hdigits | ⟨hresult, hfirst⟩ | ⟨middle, rfl, hending⟩
    · exact .inl hdigits
    · exact .inr ⟨hresult, .inl hfirst⟩
    · -- of the two tokens of the ending, the number is the second
      cases middle with
      | nil => cases hending
      | cons sign middle =>
        obtain ⟨rfl, hnumber⟩ := List.cons.inj hending
        cases middle with
        | nil =>
          obtain ⟨htext, rfl⟩ := List.cons.inj hnumber
          obtain rfl := Token.number.inj htext
          exact .inr ⟨hasResult.isResultText, .inr ⟨rfl, chain.tokens, rfl⟩⟩
        | cons token middle =>
          have hnil : [] = middle ++ Token.number text :: after := (List.cons.inj hnumber).2
          simp at hnil

/-- What stands behind the equals sign is a result. -/
theorem Shape.isResultText {before : List Token} {text : String}
    (h : Shape scale IsDigits (before ++ [Token.equals, .number text])) : IsResultText text := by
  generalize heq : before ++ [Token.equals, .number text] = tokens at h
  have hmem : Token.equals ∈ tokens := by
    rw [← heq]
    simp
  cases h with
  | blank => cases hmem
  | @operand chain entered single => exact absurd hmem chain.equals_not_mem_tokens
  | operator entered op => simp at hmem
  | result entered hasResult =>
    obtain ⟨-, hending⟩ := List.append_inj' heq rfl
    obtain rfl := Token.number.inj (List.cons.inj (List.cons.inj hending).2).1
    exact hasResult.isResultText

/-- Where digits are put if there is no result: they begin the expression, or they are a new operand
behind an operator, or they make the last operand longer, which was typed. -/
theorem Shape.writeDigits_cases (h : Shape scale IsDigits tokens) (hmem : Token.equals ∉ tokens)
    (text : String) :
    (tokens = [] ∧ Engine.writeDigits tokens text = [.number text]) ∨
      (∃ before op, tokens = before ++ [Token.operator op] ∧
        Engine.writeDigits tokens text = tokens ++ [Token.number text]) ∨
      ∃ before last, tokens = before ++ [Token.number last] ∧ IsDigits last ∧
        Engine.writeDigits tokens text = before ++ [Token.number (last ++ text)] := by
  cases h with
  | blank => exact .inl ⟨rfl, rfl⟩
  | @operand chain entered single =>
    obtain ⟨last, rfl⟩ | ⟨before, op, last, rfl⟩ := chain.eq_single_or_join
    · exact .inr (.inr ⟨[], last, rfl, single rfl, rfl⟩)
    · have hlast := (Chain.isEntered_join_single_iff.mp entered).2
      refine .inr (.inr ⟨_, last, before.tokens_join_single_eq_concat op last, hlast, ?_⟩)
      rw [writeDigits_tokens_join, Chain.tokens_join_single_eq_concat]
  | @operator chain entered op =>
    refine .inr (.inl ⟨chain.tokens, op, rfl, ?_⟩)
    rw [writeDigits_append_operator, ← List.append_cons]
  | result entered hasResult => simp at hmem

/-- What digits do to the tokens. They begin a new expression if there is none or one with its
result; and no result is ever made longer. -/
theorem Shape.digits_cases (h : Shape scale IsDigits engine.tokens) (text : String) :
    let typed := (engine.perform scale (.digits text)).engine.tokens
    ((engine.tokens = [] ∨ .equals ∈ engine.tokens) ∧ typed = [.number text]) ∨
      (∃ before op, engine.tokens = before ++ [Token.operator op] ∧
        typed = engine.tokens ++ [Token.number text]) ∨
      ∃ before last, engine.tokens = before ++ [Token.number last] ∧ .equals ∉ engine.tokens ∧
        IsDigits last ∧ typed = before ++ [Token.number (last ++ text)] := by
  intro typed
  by_cases hmem : Token.equals ∈ engine.tokens
  · obtain ⟨before, result, hresult⟩ := h.mem_equals_iff.mp hmem
    exact .inl ⟨.inr hmem,
      tokens_perform_digits_of_result (result?_eq_some_iff.mpr ⟨before, hresult⟩) text⟩
  · have htyped : typed = Engine.writeDigits engine.tokens text :=
      tokens_perform_digits (result?_eq_none_of_not_mem hmem) text
    rw [htyped]
    rcases h.writeDigits_cases hmem text with ⟨hnil, heq⟩ | hoperator | ⟨before, last, hlast, hrest⟩
    · exact .inl ⟨.inl hnil, heq⟩
    · exact .inr (.inl hoperator)
    · exact .inr (.inr ⟨before, last, hlast, hmem, hrest⟩)

end Engine

namespace Calculator

variable {calculator : Calculator}

/-- What a button sends while no alert is open, and what it leaves alone while one is. -/
theorem press_eq (scale : Scale) (calculator : Calculator) (button : Button) :
    calculator.press scale button =
      if calculator.screen.alert.isSome then calculator
      else calculator.send scale button.command := by
  rw [press_eq_perform, perform, button.isKey_command, Bool.true_and]

/-- The equals key, without an alert and without a result on the display. It opens an alert and
leaves everything else alone, or it puts an equals sign and a result behind what there is. -/
theorem press_equals_cases (h : calculator.Coherent scale)
    (hdigits : calculator.engine.WellFormed scale IsDigits)
    (halert : calculator.screen.alert = none) (hmem : Token.equals ∉ calculator.engine.tokens) :
    let pressed := calculator.press scale .equals
    (pressed.engine = calculator.engine ∧ pressed.screen =
        { calculator.screen with alert := some calculator.engine.settings.refusal }) ∨
      ∃ result, IsResultText result ∧
        pressed.engine.tokens = calculator.engine.tokens ++ [Token.equals, .number result] ∧
        pressed.screen =
          { calculator.screen with text := calculator.screen.text ++ "=" ++ result } := by
  intro pressed
  have hpressed : pressed = calculator.send scale .equals :=
    (press_eq_perform scale calculator .equals).trans (perform_of_alert_eq_none halert _)
  by_cases hready : Engine.IsReady calculator.engine.tokens
  · obtain ⟨result, hreply⟩ := Engine.insertEquals_of_isReady hdigits hmem hready
    rw [← Engine.perform_equals] at hreply
    have hwellFormed := hdigits.perform (show Command.equals.Types IsDigits from trivial)
    rw [hreply] at hwellFormed
    have hne : calculator.engine.tokens ≠ [] :=
      List.ne_nil_of_length_pos (Nat.zero_lt_of_lt hready.three_le_length)
    have htext : Token.display (calculator.engine.tokens ++ [Token.equals, .number result]) =
        calculator.screen.text ++ "=" ++ result := by
      rw [h.text, Engine.shown_of_ne_nil hne, Token.display_append, String.append_assoc]
      rfl
    rw [hpressed, send_of_notice (congrArg Reply.notices hreply), hreply, htext]
    exact .inr ⟨result, hwellFormed.shape.isResultText, rfl, rfl⟩
  · obtain ⟨entry, -, hreply⟩ := Engine.insertEquals_of_not_isReady hdigits hmem hready
    rw [← Engine.perform_equals] at hreply
    rw [hpressed, send_of_notice (congrArg Reply.notices hreply), hreply]
    exact .inl ⟨rfl, rfl⟩

/-- Whatever its user does on the panel, the calculator holds numbers that can be read: digits that
were typed, or results, and a result stands at the start with an operator behind it, or at the end
with the equals sign in front of it. A digit button does nothing under an alert; else it begins a
new expression, puts an operand behind an operator, or makes the last operand longer, which is no
result but was typed. And as long as there is no alert and no result on the display, the equals
button is never silent. -/
theorem numbers_use_start (scale : Scale) (field : FieldReading) (gestures : List Gesture) :
    let calculator := start.use scale field gestures
    let tokens := calculator.engine.tokens
    (∀ before text after, tokens = before ++ Token.number text :: after →
      IsDigits text ∨ IsResultText text ∧
        ((before = [] ∧ ∃ op rest, after = .operator op :: rest) ∨
          (after = [] ∧ ∃ rest, before = rest ++ [Token.equals]))) ∧
    (∀ value : Fin 10,
      let digit := (Button.digit value).label
      let typed := (calculator.press scale (.digit value)).engine.tokens
      (calculator.screen.alert.isSome = true ∧ typed = tokens) ∨
        ((tokens = [] ∨ .equals ∈ tokens) ∧ typed = [.number digit]) ∨
        (∃ before op, tokens = before ++ [Token.operator op] ∧
          typed = tokens ++ [Token.number digit]) ∨
        ∃ before last, tokens = before ++ [Token.number last] ∧ .equals ∉ tokens ∧ IsDigits last ∧
          typed = before ++ [Token.number (last ++ digit)]) ∧
    (calculator.screen.alert = none → .equals ∉ tokens →
      let pressed := calculator.press scale .equals
      (pressed.engine = calculator.engine ∧ pressed.screen =
          { calculator.screen with alert := some calculator.engine.settings.refusal }) ∨
        ∃ result, IsResultText result ∧
          pressed.engine.tokens = tokens ++ [Token.equals, .number result] ∧
          pressed.screen =
            { calculator.screen with text := calculator.screen.text ++ "=" ++ result }) := by
  intro calculator tokens
  obtain ⟨hcoherent, hdigits⟩ := invariants_use_start scale field gestures
  refine ⟨?_, ?_, ?_⟩
  · intro before text after htokens
    exact hdigits.shape.number_cases htokens
  · intro value digit typed
    have htyped : typed = (calculator.press scale (.digit value)).engine.tokens := rfl
    rw [press_eq] at htyped
    split at htyped
    · exact .inl ⟨‹_›, htyped⟩
    · rw [htyped]
      exact .inr (hdigits.shape.digits_cases digit)
  · intro halert hmem
    exact press_equals_cases hcoherent hdigits halert hmem

/-- `1/8=` with other characters among the keys, and then `/5` with an alert on the way: the result
`0.12` stands in front of an operator, and the equals button puts a result behind it. The field
takes the digits that are typed into it, but nothing while the alert is open. -/
theorem numbers_use_start_of_rounded_quotient :
    let field : FieldReading := fun alertOpen text =>
      if alertOpen then none else some (Nat.ofDigitChars 10 text.toList 0)
    let gestures : List Gesture :=
      [.turnField 7, .typeField "2", .press "1", .press "/",
        .keyboard { texts := ["é8 ", "kg"], enter := true }, .press "/", .press "=", .typeField "0",
        .press "OK", .keyboard { texts := ["5"] }]
    let calculator := start.use .wrapped field gestures
    let pressed := calculator.press .wrapped .equals
    calculator.screen = { text := "0.12/5" } ∧ IsResultText "0.12" ∧
      ∃ result, IsResultText result ∧ pressed.screen = { text := "0.12/5=" ++ result } := by
  intro field gestures calculator pressed
  have hscreen : calculator.screen = { text := "0.12/5" } := by decide +kernel
  have htokens : calculator.engine.tokens = [.number "0.12", .operator .divide, .number "5"] := by
    decide +kernel
  have hmem : Token.equals ∉ calculator.engine.tokens := by
    rw [htokens]
    decide
  have hpressed : pressed.screen.alert = none := by decide +kernel
  have halert : calculator.screen.alert = none := by rw [hscreen]
  have hstart := numbers_use_start .wrapped field gestures
  -- from here on the calculator is known by what it shows and holds, and need not be run again
  have hcalculator : start.use .wrapped field gestures = calculator := rfl
  rw [hcalculator] at hstart
  clear_value calculator
  obtain ⟨hnumbers, -, hequals⟩ := hstart
  have hfirst := hnumbers [] "0.12" [.operator .divide, .number "5"] htokens
  refine ⟨hscreen, (hfirst.resolve_left (by decide +kernel)).1, ?_⟩
  rcases hequals halert hmem with ⟨-, hopen⟩ | ⟨result, hresult, -, htext⟩
  · have hsome : pressed.screen.alert = some _ := congrArg Screen.alert hopen
    rw [hpressed] at hsome
    cases hsome
  · rw [hscreen] at htext
    exact ⟨result, hresult, htext⟩

end Calculator

end KeypadCalculator
