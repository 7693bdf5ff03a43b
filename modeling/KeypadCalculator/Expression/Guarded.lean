import KeypadCalculator.Expression.Reduction

/-!
# Evaluating under guard

The evaluation subtracts positions, slices token sequences and divides, and each of these has no
answer on some arguments: a subtraction may go below zero, a slice may lie behind the end, a divisor
may be zero. In the other files such a case has an answer of no meaning, as the difference of two
naturals is never below zero. In this file it is a trap, which ends the computation without any
answer; a trap is not an error, which is an answer that is told to the user. A loop that is not done
after a given number of reductions is a trap as well.

* `Guarded.Trap`: why a computation has no answer.
* `Guarded.difference`, `Guarded.sliceTo`, `Guarded.sliceFrom`, `Guarded.quotient`,
  `Guarded.remainder`: the operations that may have none.
* `Guarded.read`, `Guarded.write`, `Guarded.apply`: reading, writing and combining numbers with
  guarded divisions.
* `Guarded.reduceAt`, `Guarded.reduceProducts`, `Guarded.reduceSums`: one reduction with guarded
  slices, and the two loops with a bound on the number of reductions.
-/

namespace KeypadCalculator

namespace Guarded

/-- Why a computation ends without an answer. -/
inductive Trap where
  /-- A natural number was subtracted from a smaller one. -/
  | underflow
  /-- A slice starts or ends behind the end of the sequence. -/
  | outOfRange
  /-- A divisor or a denominator is zero. -/
  | zeroDivisor
  /-- A loop has used up its reductions and is not done. -/
  | unfinished
  deriving DecidableEq, Repr

/-- A computation that traps, or ends with an error, or gives a value. -/
abbrev Evaluation (α : Type) : Type :=
  ExceptT ExpressionError (Except Trap) α

/-! ## Operations that may trap -/

/-- What is left of `a` without `b`. -/
def difference (a b : Nat) : Except Trap Nat :=
  if b ≤ a then .ok (a - b) else .error .underflow

/-- The tokens in front of a position. -/
def sliceTo (tokens : List Token) (stop : Nat) : Except Trap (List Token) :=
  if stop ≤ tokens.length then .ok (tokens.take stop) else .error .outOfRange

/-- The tokens from a position on. -/
def sliceFrom (tokens : List Token) (start : Nat) : Except Trap (List Token) :=
  if start ≤ tokens.length then .ok (tokens.drop start) else .error .outOfRange

section

variable {α : Type} [OfNat α 0] [DecidableEq α]

/-- A quotient, of integers without the remainder. -/
def quotient [Div α] (a b : α) : Except Trap α :=
  if b = 0 then .error .zeroDivisor else .ok (a / b)

/-- The remainder of a quotient. -/
def remainder [Mod α] (a b : α) : Except Trap α :=
  if b = 0 then .error .zeroDivisor else .ok (a % b)

end

/-! ## Reading and writing -/

/-- The fraction of a numeral's digits and the units of its last decimal. -/
def value (scale : Scale) (n : Numeral) : Except Trap Rat :=
  quotient (n.unitCount : Rat) (scale.units n.fraction.length : Rat)

/-- The rational number that a text denotes, if it is a plain decimal. -/
def read (scale : Scale) (text : String) : Except Trap (Option Rat) :=
  match Numeral.parse? text.toList with
  | none => .ok none
  | some n => do
    let r ← value scale n
    return some r

/-- The integer nearest to `x`, and the even one of two that are equally near. -/
def roundHalfEven (x : Rat) : Except Trap Int := do
  let below := x.floor
  let rest := x - below
  let half ← quotient (1 : Rat) 2
  if half < rest then return below + 1
  else if rest = half then
    let parity ← remainder below 2
    return if parity = 1 then below + 1 else below
  else return below

/-- The shortest numeral of a whole number of units of the last decimal. -/
def ofUnits (scale : Scale) (decimals : Nat) (units : Int) : Except Trap Numeral := do
  let whole ← quotient units.natAbs (scale.units decimals)
  let rest ← remainder units.natAbs (scale.units decimals)
  return {
    negative := decide (units < 0)
    whole := Nat.toDigits 10 whole
    fraction := Numeral.fractionDigits decimals rest }

/-- The text of a value, rounded half to even to a number of decimals. -/
def write (scale : Scale) (decimals : Nat) (r : Rat) : Except Trap String := do
  let units ← roundHalfEven (r * (scale.units decimals : Rat))
  let n ← ofUnits scale decimals units
  return String.ofList n.text

/-! ## Operands and operators -/

/-- The value of a token as an operand of `op`. -/
def operandValue (scale : Scale) (op : Operator) : Token → Evaluation Rat
  | .number text => do
    match ← read scale text with
    | some r => return r
    | none => throw (.unreadableOperand text)
  | _ => throw (.missingOperand op)

/-- The exact result of an operation; only a quotient may go wrong. -/
def apply (op : Operator) (left right : Rat) : Evaluation Rat :=
  match op with
  | .plus => return left + right
  | .minus => return left - right
  | .times => return left * right
  | .divide => do
    if right = 0 then throw .divisionByZero
    else return ← (quotient left right : Except Trap Rat)

/-- The number that an operator makes of its two neighbours, written to a number of decimals. -/
def combine (scale : Scale) (decimals : Nat) (op : Operator) (left right : Token) :
    Evaluation Token := do
  let a ← operandValue scale op left
  let b ← operandValue scale op right
  let result ← apply op a b
  let text ← write scale decimals result
  return .number text

/-! ## Reductions -/

/-- Replaces the operator at position `i` and its two neighbours by their result. The first
difference is the room that is made for the sequence without them. -/
def reduceAt (scale : Scale) (decimals : Nat) (tokens : List Token) (i : Nat) :
    Evaluation (List Token) :=
  match tokens[i]? with
  | some (.operator op) =>
    match tokenBefore? tokens i, tokens[i + 1]? with
    | some left, some right => do
      let result ← combine scale decimals op left right
      let _room ← difference tokens.length 2
      let stop ← difference i 1
      let front ← sliceTo tokens stop
      let back ← sliceFrom tokens (i + 2)
      return front ++ result :: back
    | _, _ => throw (.missingOperand op)
  | some other => throw (.unexpectedToken other.text)
  | none => throw (.unexpectedToken "")

/-- Reduces at the position that `next` gives as long as it gives one, `bound` times at most, and
then makes an answer of what is left. -/
def reduceWhile {α : Type} (scale : Scale) (decimals : Nat) (next : List Token → Option Nat)
    (finish : List Token → Except ExpressionError α) (bound : Nat) (tokens : List Token) :
    Evaluation α :=
  match next tokens with
  | none => .mk (.ok (finish tokens))
  | some i => do
    let rest ← reduceAt scale decimals tokens i
    match bound with
    | 0 => throwThe Trap .unfinished
    | bound + 1 => reduceWhile scale decimals next finish bound rest

/-- Reduces the leftmost `*` or `/` as long as there is one. -/
def reduceProducts (scale : Scale) (decimals bound : Nat) (tokens : List Token) :
    Evaluation (List Token) :=
  reduceWhile scale decimals (List.findIdx? Token.isMultiplicative) .ok bound tokens

/-- The text of the last token, which must be a number. -/
def lastText (tokens : List Token) : Except ExpressionError String :=
  match tokens.getLast? with
  | some (.number text) => .ok text
  | some other => .error (.unexpectedToken other.text)
  | none => .error (.unexpectedToken "")

/-- Reduces the first operator until one token is left, and gives the text of that number. -/
def reduceSums (scale : Scale) (decimals bound : Nat) (tokens : List Token) : Evaluation String :=
  reduceWhile scale decimals (fun tokens => if 1 < tokens.length then some 1 else none) lastText
    bound
    tokens

end Guarded

end KeypadCalculator
