import KeypadCalculator.Expression.Reduction

/-!
# Evaluating in one scan

The evaluation said once more, without going back. What an operator makes of its neighbours is a row
of checks and then one of the four operations; and what the passes make of a token sequence is found
in one scan from left to right.

* `Operator.fault?`: the first check that fails.
* `Operator.attempt`: the result, or the error of that check.
* `scanProducts`, `scanSums`: the two scans.
* `scan`: their composition.
* `scanProductsFrom_cons_of_not_isMultiplicative`, `scanProductsFrom_of_absent`,
  `scanProductsFrom_cons_cons`, `scanProductsFrom_induction`: the first scan, token by token.
-/

namespace KeypadCalculator

/-!
## What an operator makes of its neighbours

A neighbour may be absent, it may be no number, its text may be no plain decimal, and a divisor may
be zero. The checks have one order, and the first that fails is what is reported. If none fails, the
two values are combined.
-/

/-- The value of a number whose text is a plain decimal. -/
def Token.value? (scale : Scale) : Token → Option Rat
  | number text => Numeral.read? scale text
  | _ => none

namespace Operator

/-- What is wrong with a token as an operand: that it is no number, or else that it cannot be
read. -/
def operandFault? (scale : Scale) (op : Operator) (token : Token) : Option ExpressionError :=
  match token with
  | .number text =>
    if token.value? scale = none then some (.unreadableOperand text) else none
  | _ => some (.missingOperand op)

/-- What is wrong with an operand behind the operator, if it can be read. -/
def divisorFault? (scale : Scale) (op : Operator) (right : Token) : Option ExpressionError :=
  if op = divide ∧ right.value? scale = some 0 then some .divisionByZero else none

/-- What is wrong with the neighbours of an operator: that one is absent, or else the fault of the
left one, or else the fault of the right one, or else that it is a divisor of value zero. -/
def fault? (scale : Scale) (op : Operator) : Option Token → Option Token → Option ExpressionError
  | some left, some right =>
    ((op.operandFault? scale left).or (op.operandFault? scale right)).or
      (op.divisorFault? scale right)
  | _, _ => some (.missingOperand op)

/-- The number that an operator makes of its neighbours, or the first fault that they have. -/
def attempt (scale : Scale) (decimals : Nat) (op : Operator) (left right : Option Token) :
    Except ExpressionError Token :=
  match op.fault? scale left right with
  | some e => .error e
  | none =>
    let value (token : Option Token) : Rat := (token.bind (Token.value? scale)).getD 0
    let result : Rat :=
      match op with
      | plus => value left + value right
      | minus => value left - value right
      | times => value left * value right
      | divide => value left / value right
    .ok (.number (Numeral.write scale decimals result))

end Operator

/-!
## The scans

The two passes of the evaluation go back to the start of the token sequence after every reduction.
The scans never do: each reads the sequence once from left to right. The first keeps
the tokens that it is done with, latest first, so that the left operand of a `*` or `/` is at hand;
the second keeps the sum so far.
-/

/-- Reads tokens from left to right and replaces each `*` and `/` with its neighbours by their
result. What is done is kept latest first. -/
def scanProductsFrom (scale : Scale) (decimals : Nat) :
    (done : List Token) → List Token → Except ExpressionError (List Token)
  | done, [] => .ok done.reverse
  | left :: done, .operator op :: right :: rest =>
    if op.isMultiplicative then do
      let result ← combine scale decimals op left right
      scanProductsFrom scale decimals (result :: done) rest
    else scanProductsFrom scale decimals (.operator op :: left :: done) (right :: rest)
  | done, .operator op :: rest =>
    if op.isMultiplicative then .error (.missingOperand op)
    else scanProductsFrom scale decimals (.operator op :: done) rest
  | done, token :: rest => scanProductsFrom scale decimals (token :: done) rest
  termination_by _ tokens => tokens.length

/-- Replaces each `*` and `/` with its neighbours by their result, in one scan. -/
def scanProducts (scale : Scale) (decimals : Nat) (tokens : List Token) :
    Except ExpressionError (List Token) :=
  scanProductsFrom scale decimals [] tokens

/-- Goes on from the sum so far, one operator and one operand at a time. -/
def scanSumsFrom (scale : Scale) (decimals : Nat) :
    (sum : Token) → List Token → Except ExpressionError String
  | .number text, [] => .ok text
  | other, [] => .error (.unexpectedToken other.text)
  | sum, .operator op :: right :: rest => do
    let result ← combine scale decimals op sum right
    scanSumsFrom scale decimals result rest
  | _, [.operator op] => .error (.missingOperand op)
  | _, other :: _ => .error (.unexpectedToken other.text)

/-- Combines the operands from left to right, in one scan. -/
def scanSums (scale : Scale) (decimals : Nat) : List Token → Except ExpressionError String
  | [] => .error (.unexpectedToken "")
  | first :: rest => scanSumsFrom scale decimals first rest

/-- The text of the value of a whole expression, in two scans. -/
def scan (scale : Scale) (decimals : Nat) (tokens : List Token) :
    Except ExpressionError String := do
  let sums ← scanProducts scale decimals tokens
  scanSums scale decimals sums

/-! ### What the scan for products does next -/

section

variable {scale : Scale} {decimals : Nat} {done tokens rest : List Token} {op : Operator}

/-- The scan passes by a token that is no `*` or `/`. -/
theorem scanProductsFrom_cons_of_not_isMultiplicative {token : Token}
    (h : token.isMultiplicative = false) (done rest : List Token) :
    scanProductsFrom scale decimals done (token :: rest) =
      scanProductsFrom scale decimals (token :: done) rest := by
  cases token with
  | number text => rw [scanProductsFrom] <;> simp
  | equals => rw [scanProductsFrom] <;> simp
  | operator op =>
    have hop : ¬op.isMultiplicative = true := Bool.eq_false_iff.mp h
    by_cases hboth : ∃ left before right after, done = left :: before ∧ rest = right :: after
    · obtain ⟨left, before, right, after, rfl, rfl⟩ := hboth
      rw [scanProductsFrom, if_neg hop]
    · rw [scanProductsFrom, if_neg hop]
      intro left before right after hdone hrest
      exact hboth ⟨left, before, right, after, hdone, hrest⟩

/-- A `*` or `/` at the very start or the very end of what is scanned lacks an operand. -/
theorem scanProductsFrom_of_absent (hop : op.isMultiplicative = true) (h : done = [] ∨ rest = []) :
    scanProductsFrom scale decimals done (.operator op :: rest) = .error (.missingOperand op) := by
  rw [scanProductsFrom, if_pos hop]
  rintro left before right after rfl rfl
  rcases h with hnil | hnil <;> cases hnil

/-- A `*` or `/` between two tokens is replaced with them by their result. -/
theorem scanProductsFrom_cons_cons (hop : op.isMultiplicative = true) (left right : Token)
    (done rest : List Token) :
    scanProductsFrom scale decimals (left :: done) (.operator op :: right :: rest) =
      (combine scale decimals op left right).bind fun result =>
        scanProductsFrom scale decimals (result :: done) rest := by
  rw [scanProductsFrom, if_pos hop]
  rfl

/-- Induction along the scan for products: over what it is done with and what it has yet to read. -/
@[elab_as_elim]
theorem scanProductsFrom_induction {motive : List Token → List Token → Prop}
    (finished : ∀ done, motive done [])
    (passed : ∀ done token rest, token.isMultiplicative = false → motive (token :: done) rest →
      motive done (token :: rest))
    (absent : ∀ done op rest, op.isMultiplicative = true → done = [] ∨ rest = [] →
      motive done (.operator op :: rest))
    (product : ∀ left done op right rest, op.isMultiplicative = true →
      (∀ result, motive (result :: done) rest) →
        motive (left :: done) (.operator op :: right :: rest))
    (done tokens : List Token) : motive done tokens := by
  match tokens with
  | [] => exact finished done
  | token :: rest =>
    cases htoken : token.isMultiplicative with
    | false =>
      apply passed done token rest htoken
      exact scanProductsFrom_induction finished passed absent product _ rest
    | true =>
      cases token with
      | number _ => cases htoken
      | equals => cases htoken
      | operator op =>
        match done, rest with
        | [], rest => exact absent [] op rest htoken (.inl rfl)
        | done, [] => exact absent done op [] htoken (.inr rfl)
        | left :: done, right :: rest =>
          apply product left done op right rest htoken
          intro result
          exact scanProductsFrom_induction finished passed absent product _ rest
  termination_by tokens.length

end

end KeypadCalculator
