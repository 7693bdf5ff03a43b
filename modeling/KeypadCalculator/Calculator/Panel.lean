import KeypadCalculator.Engine.Session

/-!
# The calculator: an engine with a screen, a keyboard and a keypad

The screen is the observer of the engine. It holds the text that it was told last and the alert that
is open, if any. As long as an alert is open no key reaches the engine; the number of decimals may
still be set, and closing the alert leaves the expression as it is.

Keys come from two sides. The keyboard is read once in every frame of the display: what was typed
since the frame before comes as a list of texts, together with whether Enter and Escape were
pressed. Escape closes the alert, or clears the calculator if no alert is open, and nothing else in
its frame counts. Else the characters of all texts are taken in order, those that name no key are
passed over, and Enter is one `=` after them. The keypad has sixteen buttons in four rows: ten
digits, four operators, `=` and `AC`. What a button does is decided by its label.

The panel shows the display, the keypad, a field for the number of decimals, and an alert with an OK
button while one is open. The alert covers the rest: buttons beneath it are still there but do
nothing. How the field takes what is typed into it is no matter of the calculator.

* `Calculator.start`, `Calculator.perform`: the calculator as it is switched on, and one action of
  its user.
* `Calculator.perform_of_alert`: an open alert makes every key ineffective.
* `Command.ofTyped?`, `Frame.commands`, `Calculator.readFrame`: the keyboard.
* `Command.ofLabel`, `Calculator.pressLabel`: the keypad.
* `Command.ofLabel_label`: a button sends what its label says.
* `Gesture.isOffered`, `Calculator.handle`: what is on the panel, and what a gesture does.
-/

namespace KeypadCalculator

/-! ## Engine and screen -/

/-- What the calculator shows. -/
structure Screen where
  /-- The text on the display. -/
  text : String := "0"
  /-- The message of the open alert. -/
  alert : Option String := none
  deriving DecidableEq, Repr

/-- The screen after a notice of the engine. -/
def Screen.receive (screen : Screen) : Notice → Screen
  | .display text => { screen with text }
  | .error message => { screen with alert := some message }

/-- An engine and the screen that observes it. -/
structure Calculator where
  /-- The engine. -/
  engine : Engine := {}
  /-- The screen. -/
  screen : Screen := {}
  deriving DecidableEq, Repr

/-- What the user of a calculator may do. -/
inductive Action where
  /-- Presses a key, or sets the number of decimals. -/
  | command (command : Command)
  /-- Closes the alert. -/
  | dismiss
  deriving DecidableEq, Repr

/-- Whether a command is a key of the keypad. -/
def Command.isKey : Command → Bool
  | setDecimals _ => false
  | _ => true

namespace Calculator

/-- Hands a command to the engine, and the notices of the engine to the screen. -/
def send (scale : Scale) (calculator : Calculator) (command : Command) : Calculator :=
  let reply := calculator.engine.perform scale command
  { engine := reply.engine
    screen := reply.notices.foldl Screen.receive calculator.screen }

/-- The calculator as it is switched on: nothing typed, zero on the display, no alert. -/
def start : Calculator := {}

/-- Closes the alert. -/
def dismiss (calculator : Calculator) : Calculator :=
  { calculator with screen := { calculator.screen with alert := none } }

/-- Carries out an action; an open alert blocks the keys. -/
def perform (scale : Scale) (calculator : Calculator) : Action → Calculator
  | .command command =>
    if command.isKey && calculator.screen.alert.isSome then calculator
    else calculator.send scale command
  | .dismiss => calculator.dismiss

/-- The calculator after a run of actions. -/
def run (scale : Scale) (calculator : Calculator) (actions : List Action) : Calculator :=
  actions.foldl (perform scale) calculator

/-- The calculator after a run of commands, with the alert left to itself. -/
def typeKeys (scale : Scale) (calculator : Calculator) (commands : List Command) : Calculator :=
  calculator.run scale (commands.map .command)

/-- An empty run changes nothing. -/
@[simp] theorem run_nil (scale : Scale) (calculator : Calculator) :
    calculator.run scale [] = calculator := rfl

/-- A run carries out its first action and goes on from there. -/
@[simp] theorem run_cons (scale : Scale) (calculator : Calculator) (action : Action)
    (actions : List Action) :
    calculator.run scale (action :: actions) =
      (calculator.perform scale action).run scale actions :=
  rfl

/-- A run in two parts. -/
theorem run_append (scale : Scale) (calculator : Calculator) (before after : List Action) :
    calculator.run scale (before ++ after) = (calculator.run scale before).run scale after :=
  List.foldl_append

/-- As long as an alert is open, a key does nothing. -/
theorem perform_of_alert {scale : Scale} {calculator : Calculator} {command : Command}
    (hkey : command.isKey = true) (halert : calculator.screen.alert.isSome = true) :
    calculator.perform scale (.command command) = calculator := by
  simp [perform, hkey, halert]

end Calculator

/-! ## The keyboard -/

/-- What was typed since the last frame. -/
structure Frame where
  /-- The texts that were typed, in order. -/
  texts : List String := []
  /-- Whether Enter was pressed. -/
  enter : Bool := false
  /-- Whether Escape was pressed. -/
  escape : Bool := false
  deriving DecidableEq, Repr

/-- The key that a typed character stands for; most characters stand for none. -/
def Command.ofTyped? (c : Char) : Option Command :=
  if c.isDigit then some (.digits c.toString)
  else if c = '+' ∨ c = '-' ∨ c = '*' ∨ c = '/' then some (.operator c.toString)
  else if c = '=' then some .equals
  else none

/-- The keys of a frame without Escape. -/
def Frame.commands (frame : Frame) : List Command :=
  (frame.texts.flatMap String.toList).filterMap Command.ofTyped? ++
    if frame.enter then [.equals] else []

namespace Calculator

/-- Escape closes the alert, or clears the calculator if no alert is open. -/
def escape (scale : Scale) (calculator : Calculator) : Calculator :=
  if calculator.screen.alert.isSome then calculator.dismiss
  else calculator.perform scale (.command .clear)

/-- Reads a frame. A field that has the focus keeps all keys to itself. -/
def readFrame (scale : Scale) (calculator : Calculator) (frame : Frame) (fieldFocused : Bool) :
    Calculator :=
  if fieldFocused then calculator
  else if frame.escape then calculator.escape scale
  else calculator.typeKeys scale frame.commands

/-- A field that has the focus keeps all keys from the calculator. -/
@[simp] theorem readFrame_focused (scale : Scale) (calculator : Calculator) (frame : Frame) :
    calculator.readFrame scale frame true = calculator := rfl

end Calculator

/-! ## The keypad -/

/-- A button of the keypad. -/
inductive Button where
  /-- A digit. -/
  | digit (value : Fin 10)
  /-- An operator. -/
  | operator (op : Operator)
  /-- The equals button. -/
  | equals
  /-- The button that clears everything. -/
  | clear
  deriving DecidableEq, Repr

namespace Button

/-- The buttons as they are laid out. -/
def rows : List (List Button) :=
  [ [digit 7, digit 8, digit 9, operator .divide],
    [digit 4, digit 5, digit 6, operator .times],
    [digit 1, digit 2, digit 3, operator .minus],
    [clear, digit 0, equals, operator .plus] ]

/-- The text on a button. -/
def label : Button → String
  | digit value => (Nat.digitChar value).toString
  | operator op => op.text
  | equals => "="
  | clear => "AC"

/-- What a button sends to the calculator. A digit button types its label. -/
def command : Button → Command
  | digit value => .digits (digit value).label
  | operator op => .operator op.text
  | equals => .equals
  | clear => .clear

end Button

/-- What a label says. Every label that is none of `AC`, `=` and the operators is typed as
digits. -/
def Command.ofLabel (label : String) : Command :=
  match label with
  | "AC" => .clear
  | "=" => .equals
  | "+" | "-" | "*" | "/" => .operator label
  | digit => .digits digit

/-- A button sends what its label says. -/
theorem Command.ofLabel_label (button : Button) : ofLabel button.label = button.command := by
  cases button with
  | digit value => revert value; decide
  | operator op => cases op <;> rfl
  | equals => rfl
  | clear => rfl

namespace Calculator

/-- Does what a label says. -/
def pressLabel (scale : Scale) (calculator : Calculator) (label : String) : Calculator :=
  calculator.perform scale (.command (Command.ofLabel label))

/-- Presses a button of the keypad, which does what its label says. -/
def press (scale : Scale) (calculator : Calculator) (button : Button) : Calculator :=
  calculator.pressLabel scale button.label

/-- What pressing a button is to the calculator. -/
theorem press_eq_perform (scale : Scale) (calculator : Calculator) (button : Button) :
    calculator.press scale button = calculator.perform scale (.command button.command) := by
  rw [press, pressLabel, Command.ofLabel_label]

end Calculator

/-! ## The panel -/

/-- Something that a user does on the panel. -/
inductive Gesture where
  /-- Presses the button with a label, on the keypad or in the alert. -/
  | press (label : String)
  /-- Types on the keyboard, while no field has the focus. -/
  | keyboard (frame : Frame)
  /-- Turns the field for the number of decimals to a value. -/
  | turnField (decimals : Nat)
  /-- Types a text into the field and confirms it. -/
  | typeField (text : String)
  deriving DecidableEq, Repr

/-- How the field for the number of decimals takes a text: the value that it is set to, if any, by
whether an alert is open. -/
abbrev FieldReading : Type :=
  (alertOpen : Bool) → (text : String) → Option Nat

/-- The button that closes the alert. -/
def dismissLabel : String := "OK"

/-- Whether what a gesture aims at is on the screen. Only a button may be missing. -/
def Gesture.isOffered (calculator : Calculator) : Gesture → Bool
  | press label =>
    if label = dismissLabel then calculator.screen.alert.isSome
    else Button.rows.flatten.any (·.label = label)
  | _ => true

namespace Calculator

/-- The calculator after a gesture. A button that is not on the screen does nothing. -/
def handle (scale : Scale) (field : FieldReading) (calculator : Calculator) : Gesture → Calculator
  | .press label =>
    if !(Gesture.press label).isOffered calculator then calculator
    else if label = dismissLabel then calculator.dismiss
    else calculator.pressLabel scale label
  | .keyboard frame => calculator.readFrame scale frame false
  | .turnField decimals => calculator.perform scale (.command (.setDecimals decimals))
  | .typeField text =>
    match field calculator.screen.alert.isSome text with
    | some decimals => calculator.perform scale (.command (.setDecimals decimals))
    | none => calculator

end Calculator

end KeypadCalculator
