import KeypadCalculator.Numeral.Value
import KeypadCalculator.Text.Quoted
import KeypadCalculator.Token

/-!
# Evaluating a token sequence by reduction

An expression is evaluated by replacing an operator and its neighbours with their result until one
token is left. Any token sequence may be given, and what goes wrong first is reported.

* `ExpressionError`: what may go wrong, and `ExpressionError.message`: how it is worded.
* `reduceAt`, `reduceProducts`, `reduceSums`, `evaluate`: one reduction, the two passes, and
  their composition.
* `length_of_reduceAt`: a reduction takes exactly two tokens away. This bounds both passes.
* `reduceProducts_of_findIdx?_eq_none`, `reduceProducts_of_findIdx?_eq_some`,
  `reduceSums_of_two_le_length`: one step of each pass.
-/

namespace KeypadCalculator

/-!
## Why an expression has no value

Each constructor is one cause, and `ExpressionError.message` is the only place that words it.
A user is told of an incomplete expression and of a division by zero only; the other causes mean
that a token sequence is out of order.
-/

/-- Why an expression cannot be evaluated. -/
inductive ExpressionError where
  /-- The expression is not complete, or divides by a literal zero. -/
  | incomplete
  /-- A divisor has the value zero. -/
  | divisionByZero
  /-- The text of an operand is not a plain decimal. -/
  | unreadableOperand (text : String)
  /-- An operator lacks a number on one side. -/
  | missingOperand (op : Operator)
  /-- A token stands where something else belongs; its text is empty if the sequence ends there. -/
  | unexpectedToken (text : String)
  deriving DecidableEq, Repr

namespace ExpressionError

/-- The wording of an error. -/
def message : ExpressionError → String
  | incomplete => "expression incorrecte"
  | divisionByZero => "division par zéro"
  | unreadableOperand text => "opérande illisible: " ++ quoted text
  | missingOperand op => "opérande manquant autour de '" ++ op.text ++ "'"
  | unexpectedToken text => "jeton inattendu: " ++ quoted text

end ExpressionError

/-!
## Reduction

One reduction replaces an operator and its two neighbours by the number that they make, written
to the number of decimals in force, so that every intermediate result is rounded as it would be
on the display and then read again. Evaluation reduces the leftmost `*` or `/` as long as there
is one, and then the first operator until a single token is left.

What goes wrong first is reported: the token in place of an operator, then a neighbour that is
absent, then the left operand, then the right operand, then a zero divisor.
-/

/-! ### Operands -/

/-- The value of a token as an operand of `op`. -/
def operandValue (scale : Scale) (op : Operator) : Token → Except ExpressionError Rat
  | .number text =>
    match Numeral.read? scale text with
    | some value => .ok value
    | none => .error (.unreadableOperand text)
  | _ => .error (.missingOperand op)

/-- The exact result of an operation, unless it divides by zero. -/
def Operator.apply (op : Operator) (left right : Rat) : Except ExpressionError Rat :=
  if op = .divide ∧ right = 0 then .error .divisionByZero else .ok (op.compute left right)

/-- The number that an operator makes of its two neighbours, written to a number of decimals. -/
def combine (scale : Scale) (decimals : Nat) (op : Operator) (left right : Token) :
    Except ExpressionError Token := do
  let a ← operandValue scale op left
  let b ← operandValue scale op right
  let result ← op.apply a b
  return .number (Numeral.write scale decimals result)

/-! ### One reduction -/

/-- The token in front of a position. -/
def tokenBefore? (tokens : List Token) : Nat → Option Token
  | 0 => none
  | i + 1 => tokens[i]?

/-- Replaces the operator at position `i` and its two neighbours by their result. -/
def reduceAt (scale : Scale) (decimals : Nat) (tokens : List Token) (i : Nat) :
    Except ExpressionError (List Token) :=
  match tokens[i]? with
  | some (.operator op) =>
    match tokenBefore? tokens i, tokens[i + 1]? with
    | some left, some right => do
      let result ← combine scale decimals op left right
      return tokens.take (i - 1) ++ result :: tokens.drop (i + 2)
    | _, _ => .error (.missingOperand op)
  | some other => .error (.unexpectedToken other.text)
  | none => .error (.unexpectedToken "")

/-- A reduction that succeeds has an operator with a neighbour on each side, and it puts their
result in the place of the three. -/
theorem exists_of_reduceAt {scale : Scale} {decimals : Nat} {tokens out : List Token} {i : Nat}
    (h : reduceAt scale decimals tokens i = .ok out) :
    ∃ op left right result, 0 < i ∧ tokens[i - 1]? = some left ∧
      tokens[i]? = some (.operator op) ∧ tokens[i + 1]? = some right ∧
      combine scale decimals op left right = .ok result ∧
      out = tokens.take (i - 1) ++ result :: tokens.drop (i + 2) := by
  unfold reduceAt at h
  split at h
  · rename_i op hop
    split at h
    · rename_i left right hl hr
      cases i with
      | zero => cases hl
      | succ i =>
        cases hc : combine scale decimals op left right with
        | error e => rw [hc] at h; cases h
        | ok result =>
          rw [hc] at h
          cases h
          exact ⟨op, left, right, result, Nat.succ_pos i, hl, hop, hr, hc, rfl⟩
    · cases h
  · cases h
  · cases h

/-- A reduction takes exactly two tokens away. -/
theorem length_of_reduceAt {scale : Scale} {decimals : Nat} {tokens out : List Token} {i : Nat}
    (h : reduceAt scale decimals tokens i = .ok out) : out.length + 2 = tokens.length := by
  obtain ⟨_, _, _, _, hi, _, _, hr, _, rfl⟩ := exists_of_reduceAt h
  have hlt : i + 1 < tokens.length := (List.getElem?_eq_some_iff.mp hr).1
  simp only [List.length_append, List.length_take, List.length_cons, List.length_drop]
  omega

/-! ### The two passes -/

/-- Reduces the leftmost `*` or `/` as long as there is one. -/
def reduceProducts (scale : Scale) (decimals : Nat) (tokens : List Token) :
    Except ExpressionError (List Token) :=
  match tokens.findIdx? Token.isMultiplicative with
  | none => .ok tokens
  | some i =>
    match _ : reduceAt scale decimals tokens i with
    | .error e => .error e
    | .ok rest => reduceProducts scale decimals rest
  termination_by tokens.length
  decreasing_by
    have := length_of_reduceAt ‹_›
    omega

/-- Reduces the first operator until one token is left, and gives the text of that number. -/
def reduceSums (scale : Scale) (decimals : Nat) (tokens : List Token) :
    Except ExpressionError String :=
  match tokens with
  | [] => .error (.unexpectedToken "")
  | [.number text] => .ok text
  | [other] => .error (.unexpectedToken other.text)
  | first :: second :: others =>
    match _ : reduceAt scale decimals (first :: second :: others) 1 with
    | .error e => .error e
    | .ok rest => reduceSums scale decimals rest
  termination_by tokens.length
  decreasing_by
    have := length_of_reduceAt ‹_›
    omega

/-- Without a `*` or `/` the first pass is done. -/
theorem reduceProducts_of_findIdx?_eq_none {scale : Scale} {decimals : Nat} {tokens : List Token}
    (h : tokens.findIdx? Token.isMultiplicative = none) :
    reduceProducts scale decimals tokens = .ok tokens := by
  rw [reduceProducts]
  split
  · rfl
  · simp_all

/-- The first pass reduces at the leftmost `*` or `/` and goes on with what is left. -/
theorem reduceProducts_of_findIdx?_eq_some {scale : Scale} {decimals : Nat} {tokens : List Token}
    {i : Nat} (h : tokens.findIdx? Token.isMultiplicative = some i) :
    reduceProducts scale decimals tokens =
      (reduceAt scale decimals tokens i).bind (reduceProducts scale decimals) := by
  rw [reduceProducts]
  split
  · simp_all
  · rename_i j hj
    obtain rfl : i = j := Option.some.inj (h.symm.trans hj)
    cases hr : reduceAt scale decimals tokens i <;> rfl

/-- The second pass reduces at the second token and goes on with what is left. -/
theorem reduceSums_of_two_le_length {scale : Scale} {decimals : Nat} {tokens : List Token}
    (h : 2 ≤ tokens.length) :
    reduceSums scale decimals tokens =
      (reduceAt scale decimals tokens 1).bind (reduceSums scale decimals) := by
  match tokens, h with
  | first :: second :: others, _ =>
    rw [reduceSums]
    cases hr : reduceAt scale decimals (first :: second :: others) 1 <;> rfl

/-- The text of the value of a whole expression. -/
def evaluate (scale : Scale) (decimals : Nat) (tokens : List Token) :
    Except ExpressionError String := do
  let sums ← reduceProducts scale decimals tokens
  reduceSums scale decimals sums

end KeypadCalculator
