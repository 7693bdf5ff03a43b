/-!
# Operators and tokens

What an expression is made of: the four operators, and the tokens into which everything that was
typed is put.

* `Operator.compute`: what an operator does to two numbers.
* `Operator.ofText?_eq_some_iff`: a text is read as an operator exactly if it is the operator's
  symbol.
* `Token.display`: the text of a token sequence.
* `Token.display_append`: the display of a longer sequence extends that of a shorter one.
-/

namespace KeypadCalculator

/-!
## The four operators

An operator is named by the one-character text on its key, and `*` and `/` bind tighter than
`+` and `-`.
-/

/-- The four operation keys. -/
inductive Operator where
  | plus
  | minus
  | times
  | divide
  deriving DecidableEq, Repr

namespace Operator

/-- The character on the key. -/
def symbol : Operator → Char
  | plus => '+'
  | minus => '-'
  | times => '*'
  | divide => '/'

/-- The text on the key. -/
def text (op : Operator) : String :=
  op.symbol.toString

/-- The operator with a given text, if there is one. -/
def ofText? (text : String) : Option Operator :=
  if text = "+" then some plus
  else if text = "-" then some minus
  else if text = "*" then some times
  else if text = "/" then some divide
  else none

/-- Whether the operator binds tighter than `+` and `-`. -/
def isMultiplicative : Operator → Bool
  | times | divide => true
  | plus | minus => false

/-- The exact result of an operation. A quotient by zero is zero here; whether a divisor is zero
has to be asked before. -/
def compute : Operator → Rat → Rat → Rat
  | plus, left, right => left + right
  | minus, left, right => left - right
  | times, left, right => left * right
  | divide, left, right => left / right

/-- A text is read as an operator exactly if it is the operator's own text. -/
theorem ofText?_eq_some_iff {text : String} {op : Operator} :
    ofText? text = some op ↔ text = op.text := by
  constructor
  · intro h
    unfold ofText? at h
    split at h
    · obtain rfl := Option.some.inj h; assumption
    split at h
    · obtain rfl := Option.some.inj h; assumption
    split at h
    · obtain rfl := Option.some.inj h; assumption
    split at h
    · obtain rfl := Option.some.inj h; assumption
    · cases h
  · rintro rfl
    cases op <;> rfl

/-- The text of an operator is read as that operator. -/
@[simp] theorem ofText?_text (op : Operator) : ofText? op.text = some op :=
  ofText?_eq_some_iff.mpr rfl

end Operator

/-!
## Tokens

An expression is kept as the sequence of what was typed: numbers as raw text, operators, and an
equals sign in front of a result. The display is the concatenation of their texts with nothing
in between.
-/

/-- One element of an expression. -/
inductive Token where
  /-- The raw text of a number: typed digits one after the other, or a result as written. -/
  | number (text : String)
  /-- An operator. -/
  | operator (op : Operator)
  /-- The sign in front of a result. -/
  | equals
  deriving DecidableEq, Repr

namespace Token

/-- The text of a token on the display. -/
def text : Token → String
  | number text => text
  | operator op => op.text
  | equals => "="

/-- Whether the token is a number. -/
def isNumber : Token → Bool
  | number _ => true
  | _ => false

/-- Whether the token is an operator. -/
def isOperator : Token → Bool
  | operator _ => true
  | _ => false

/-- Whether the token is `*` or `/`. -/
def isMultiplicative : Token → Bool
  | operator op => op.isMultiplicative
  | _ => false

/-- The display of a token sequence. -/
def display (tokens : List Token) : String :=
  String.join (tokens.map text)

/-- Nothing is displayed as nothing. -/
@[simp] theorem display_nil : display [] = "" := rfl

/-- What is displayed of two sequences is what is displayed of each, one behind the other. -/
@[simp] theorem display_append (xs ys : List Token) :
    display (xs ++ ys) = display xs ++ display ys := by
  simp [display, String.join_append]

end Token

end KeypadCalculator
