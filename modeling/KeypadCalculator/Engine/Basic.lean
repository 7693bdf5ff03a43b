import KeypadCalculator.Expression.Reduction

/-!
# The engine: settings, state and reports

What the engine is set to, what it holds, what it asks of that, and what it reports.

* `Settings.setDecimals`: the number of decimals, which has a bound.
* `Engine.result?`, `Engine.isComplete`, `Engine.acceptsOperator`: the questions.
* `Engine.writeDigits`, `Engine.writeOperator?`: the sequence with more typed at its end.
* `Engine.result?_eq_some_iff`: a result is the number at the end, behind an equals sign.
* `Notice`, `LogEntry`: what is reported.
-/

namespace KeypadCalculator

/-!
## Settings of the engine

How many decimals a result keeps, and the message that a user sees when an expression is
refused. The number of decimals is bounded so that a result still fits on the display.
-/

/-- The largest number of decimals that a result may keep. -/
def maxDecimals : Nat := 12

/-- What the engine is set to. -/
structure Settings where
  /-- The largest number of decimals in a result. -/
  decimals : Nat := 2
  /-- The message for a refused expression. -/
  refusal : String := "Expression incorrecte"
  deriving DecidableEq, Repr

namespace Settings

/-- Sets the number of decimals, or the largest one allowed if it is too large. -/
def setDecimals (settings : Settings) (decimals : Nat) : Settings :=
  { settings with decimals := min decimals maxDecimals }

/-- A number of decimals that is set is cut off at the largest one. -/
theorem decimals_setDecimals_le (settings : Settings) (decimals : Nat) :
    (settings.setDecimals decimals).decimals ≤ maxDecimals :=
  Nat.min_le_right _ _

/-- Setting the decimals leaves the message for refusals alone. -/
@[simp] theorem refusal_setDecimals (settings : Settings) (decimals : Nat) :
    (settings.setDecimals decimals).refusal = settings.refusal := rfl

end Settings

/-!
## The state and what is asked of it

The engine holds a token sequence and its settings. A result stays in the sequence behind an equals
sign, so that the whole calculation can be shown. What a key does depends on how the sequence ends:
on a number, on an operator, or on a result.
-/

/-- A calculator engine. -/
structure Engine where
  /-- The expression so far, with its result if there is one. -/
  tokens : List Token := []
  /-- What the engine is set to. -/
  settings : Settings := {}
  deriving DecidableEq, Repr

namespace Engine

/-- The display of the engine. -/
def display (engine : Engine) : String :=
  Token.display engine.tokens

/-! ### How a token sequence ends -/

/-- The text of the result at the end of a token sequence. -/
def result? (tokens : List Token) : Option String :=
  match tokens.reverse with
  | .number text :: .equals :: _ => some text
  | _ => none

/-- Whether some divisor is the single digit zero. -/
def dividesByLiteralZero (tokens : List Token) : Bool :=
  (tokens.zip tokens.tail).any (· = (.operator .divide, .number "0"))

/-- Whether a token sequence may be evaluated: it has three tokens or more, an operator among
them, no literal zero as divisor, and a number at its end. -/
def isComplete (tokens : List Token) : Bool :=
  decide (3 ≤ tokens.length) && tokens.any Token.isOperator && !dividesByLiteralZero tokens &&
    tokens.getLast?.any Token.isNumber

/-- Whether an operator may follow a token sequence. -/
def acceptsOperator (tokens : List Token) : Bool :=
  tokens.getLast?.any fun token => !token.isOperator

/-- A result is the number at the end, behind an equals sign. -/
theorem result?_eq_some_iff {tokens : List Token} {text : String} :
    result? tokens = some text ↔ ∃ before, tokens = before ++ [.equals, .number text] := by
  constructor
  · intro h
    unfold result? at h
    split at h
    · rename_i text' before hrev
      obtain rfl := Option.some.inj h
      refine ⟨before.reverse, ?_⟩
      rw [← List.reverse_reverse tokens, hrev]
      simp
    · cases h
  · rintro ⟨before, rfl⟩
    simp [result?]

/-- Where there are no tokens there is no result. -/
@[simp] theorem result?_nil : result? [] = none := rfl

/-! ### Typing at the end -/

/-- Writes digits at the end of a token sequence: after those of a number that stands there, else
as a number of their own. -/
def writeDigits (tokens : List Token) (text : String) : List Token :=
  match tokens.getLast? with
  | some (.number before) => tokens.dropLast ++ [.number (before ++ text)]
  | _ => tokens ++ [.number text]

/-- The first digits start a number. -/
@[simp] theorem writeDigits_nil (text : String) : writeDigits [] text = [.number text] := rfl

/-- Digits behind a number make it longer. -/
@[simp] theorem writeDigits_append_number (tokens : List Token) (before text : String) :
    writeDigits (tokens ++ [.number before]) text = tokens ++ [.number (before ++ text)] := by
  simp [writeDigits]

/-- Digits behind an operator are a number of their own. -/
@[simp] theorem writeDigits_append_operator (tokens : List Token) (op : Operator) (text : String) :
    writeDigits (tokens ++ [.operator op]) text = tokens ++ [.operator op, .number text] := by
  simp [writeDigits]

/-- The token sequence with an operator at its end: a result is taken as first operand, and an
operator is refused at the start and after another one. -/
def writeOperator? (tokens : List Token) (op : Operator) : Option (List Token) :=
  match result? tokens with
  | some result => some [.number result, .operator op]
  | none => if acceptsOperator tokens then some (tokens ++ [.operator op]) else none

/-- An expression starts with a number. -/
@[simp] theorem writeOperator?_nil (op : Operator) : writeOperator? [] op = none := rfl

/-- Two operators never follow each other. -/
theorem writeOperator?_append_operator (tokens : List Token) (before op : Operator) :
    writeOperator? (tokens ++ [.operator before]) op = none := by
  simp [writeOperator?, result?, acceptsOperator, Token.isOperator]

/-- A result is the first operand of what follows. -/
theorem writeOperator?_of_result {tokens : List Token} {result : String}
    (h : result? tokens = some result) (op : Operator) :
    writeOperator? tokens op = some [.number result, .operator op] := by
  simp [writeOperator?, h]

/-! ### Settings -/

/-- Sets the number of decimals of the results to come. -/
def setDecimals (engine : Engine) (decimals : Nat) : Engine :=
  { engine with settings := engine.settings.setDecimals decimals }

/-- Setting the decimals leaves the tokens alone. -/
@[simp] theorem tokens_setDecimals (engine : Engine) (decimals : Nat) :
    (engine.setDecimals decimals).tokens = engine.tokens := rfl

end Engine

/-!
## Reports

A call reports notices, which are meant for whoever shows the calculator, and log entries, which are
meant for whoever maintains it. A log entry is a cause with its data; its level, its wording and its
named fields are functions of the cause.
-/

/-- What the engine tells the observer that is attached to it. -/
inductive Notice where
  /-- The display now shows this text. -/
  | display (text : String)
  /-- The expression is refused with this message. -/
  | error (message : String)
  deriving DecidableEq, Repr

/-- How serious a log entry is. -/
inductive LogLevel where
  | debug
  | info
  | warn
  | error
  deriving DecidableEq, Repr

/-- The name of a level in the log. -/
def LogLevel.name : LogLevel → String
  | debug => "DEBUG"
  | info => "INFO"
  | warn => "WARN"
  | error => "ERROR"

/-- What the engine logs. Every `display` is the display after the call. -/
inductive LogEntry where
  /-- The expression was cleared. -/
  | cleared
  /-- Digits were typed. -/
  | digits (text display : String)
  /-- The text of an operator key names no operator. -/
  | unknownOperator (text : String)
  /-- An operator cannot stand at the end of this expression. -/
  | refusedOperator (text : String)
  /-- An operator was added. -/
  | operator (text display : String)
  /-- The expression is not complete. -/
  | incomplete (display : String)
  /-- The expression was evaluated. -/
  | result (display : String)
  /-- The value of a divisor is zero although its text is not `0`. -/
  | divisionByZero (display : String)
  /-- The evaluation failed for a reason that is not shown to the user. -/
  | abandoned (cause : ExpressionError) (display : String)
  deriving DecidableEq, Repr

namespace LogEntry

/-- How serious the entry is. -/
def level : LogEntry → LogLevel
  | cleared | digits .. | unknownOperator _ | refusedOperator _ | operator .. => .debug
  | result _ => .info
  | incomplete _ | divisionByZero _ => .warn
  | abandoned .. => .error

/-- The wording of the entry. -/
def message : LogEntry → String
  | cleared => "reset"
  | digits .. => "chiffre"
  | unknownOperator _ => "touche d’opérateur inconnue, ignorée"
  | refusedOperator _ => "opérateur refusé"
  | operator .. => "opérateur"
  | incomplete _ => ExpressionError.incomplete.message
  | result _ => "résultat"
  | divisionByZero _ => "division par un zéro non littéral"
  | abandoned cause _ => "évaluation abandonnée: " ++ cause.message

/-- The named data of the entry. -/
def fields : LogEntry → List (String × String)
  | cleared => []
  | digits text display => [("chiffre", text), ("affichage", display)]
  | unknownOperator text | refusedOperator text => [("touche", text)]
  | operator text display => [("touche", text), ("affichage", display)]
  | incomplete display | result display | divisionByZero display | abandoned _ display =>
    [("affichage", display)]

end LogEntry

end KeypadCalculator
