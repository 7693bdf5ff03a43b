import KeypadCalculator.Expression.Guarded
import KeypadCalculator.Proofs.Expression.Scanning

/-!
# Evaluating never traps

The checks of a reduction come before its subtractions and slices, and what they let pass has a
neighbour on each side of the operator, so the slices are within the sequence. Divisors are either
literals, or units of a decimal, or checked before. And as each reduction takes two tokens away, a
loop is done after half as many reductions as there are tokens. So under guard, every computation
gives just what it gives without.

* `exists_append_of_reduceAt`: what a reduction changes.
* `Guarded.run_bind_eq_ok`: computations that do not trap, one after the other.
* `Guarded.read_eq_ok`, `Guarded.write_eq_ok`, `Guarded.run_apply`: no division by zero.
* `Guarded.run_reduceAt`: no difference below zero and no slice behind the end.
* `Guarded.run_reduceWhile`: a loop on tokens is done in time.
* `Guarded.reduce_never_traps`: all of this.
-/

namespace KeypadCalculator

variable {scale : Scale} {decimals : Nat}

/-- What a reduction changes: two numbers and the operator between them become one number, and all
in front of them and behind them is kept. -/
theorem exists_append_of_reduceAt {tokens out : List Token} {i : Nat}
    (h : reduceAt scale decimals tokens i = .ok out) :
    ∃ front a op b back text, front.length + 1 = i ∧
      tokens = front ++ .number a :: .operator op :: .number b :: back ∧
      out = front ++ .number text :: back := by
  obtain ⟨op, left, right, result, hi, hleft, hop, hright, hcombine, rfl⟩ := exists_of_reduceAt h
  obtain ⟨a, b, text, rfl, rfl, rfl, -⟩ := exists_of_combine hcombine
  obtain ⟨i, rfl⟩ := Nat.exists_eq_add_one.mpr hi
  rw [Nat.add_sub_cancel] at hleft ⊢
  obtain ⟨hleftLt, hleft⟩ := List.getElem?_eq_some_iff.mp hleft
  obtain ⟨hopLt, hop⟩ := List.getElem?_eq_some_iff.mp hop
  obtain ⟨hrightLt, hright⟩ := List.getElem?_eq_some_iff.mp hright
  refine ⟨tokens.take i, a, op, b, tokens.drop (i + 1 + 2), text, ?_, ?_, rfl⟩
  · rw [List.length_take, Nat.min_eq_left hleftLt.le]
  · calc tokens
      _ = tokens.take i ++ tokens.drop i := (List.take_append_drop i tokens).symm
      _ = _ := by
        rw [List.drop_eq_getElem_cons hleftLt, List.drop_eq_getElem_cons hopLt,
          List.drop_eq_getElem_cons hrightLt, hleft, hop, hright]

namespace Guarded

/-! ## Computations one after the other -/

section

variable {α β : Type}

/-- A computation that does not trap, followed by one that does not. -/
theorem run_bind_eq_ok {x : Evaluation α} {f : α → Evaluation β} {y : Except ExpressionError α}
    {g : α → Except ExpressionError β} (hx : x.run = .ok y)
    (hf : ∀ a, y = .ok a → (f a).run = .ok (g a)) : (x >>= f).run = .ok (y >>= g) := by
  rw [ExceptT.run_bind, hx]
  rcases y with e | a
  · rfl
  · exact hf a rfl

/-- An operation that does not trap, followed by a computation. -/
theorem run_liftM_bind_of_eq_ok {x : Except Trap α} {a : α} (f : α → Evaluation β)
    (hx : x = .ok a) : ((liftM x : Evaluation α) >>= f).run = (f a).run := by
  rw [hx]
  rfl

end

/-! ## Divisors -/

/-- A quotient does not trap if its divisor is not zero. -/
theorem quotient_eq_ok {α : Type} [OfNat α 0] [DecidableEq α] [Div α] {b : α} (a : α) (h : b ≠ 0) :
    quotient a b = .ok (a / b) :=
  if_neg h

/-- A remainder does not trap if its divisor is not zero. -/
theorem remainder_eq_ok {α : Type} [OfNat α 0] [DecidableEq α] [Mod α] {b : α} (a : α) (h : b ≠ 0) :
    remainder a b = .ok (a % b) :=
  if_neg h

/-- The value of a numeral is computed without a trap. -/
theorem value_eq_ok (n : Numeral) : value scale n = .ok (n.value scale) := by
  apply quotient_eq_ok
  exact_mod_cast (scale.units_pos n.fraction.length).ne'

/-- The denominator of a text is a power of ten. -/
theorem read_eq_ok (text : String) : read scale text = .ok (Numeral.read? scale text) := by
  unfold read Numeral.read?
  rcases Numeral.parse? text.toList with _ | n
  · rfl
  · dsimp only
    rw [value_eq_ok]
    rfl

/-- Rounding does not trap. -/
theorem roundHalfEven_eq_ok (x : Rat) :
    roundHalfEven x = .ok (KeypadCalculator.roundHalfEven x) := by
  have hhalf : quotient (1 : Rat) 2 = .ok (1 / 2) := quotient_eq_ok 1 (by decide +kernel)
  have hparity : remainder x.floor 2 = .ok (x.floor % 2) := remainder_eq_ok _ (by decide)
  unfold roundHalfEven KeypadCalculator.roundHalfEven
  rw [hhalf]
  dsimp only [bind, Except.bind]
  rw [hparity]
  by_cases habove : 1 / 2 < x - x.floor
  · rw [if_pos habove, if_pos habove]
    rfl
  rw [if_neg habove, if_neg habove]
  by_cases htie : x - x.floor = 1 / 2
  · rw [if_pos htie]
    simp only [htie, true_and]
    rfl
  · rw [if_neg htie, if_neg (fun h => htie h.1)]
    rfl

/-- Units are written as a numeral without a trap. -/
theorem ofUnits_eq_ok (units : Int) :
    ofUnits scale decimals units = .ok (Numeral.ofUnits scale decimals units) := by
  have hunits : scale.units decimals ≠ 0 := (scale.units_pos decimals).ne'
  unfold ofUnits
  rw [quotient_eq_ok _ hunits, remainder_eq_ok _ hunits]
  rfl

/-- A text is made with the units of its last decimal, which are not zero. -/
theorem write_eq_ok (r : Rat) : write scale decimals r = .ok (Numeral.write scale decimals r) := by
  unfold write
  rw [roundHalfEven_eq_ok]
  show (ofUnits scale decimals (Numeral.roundedUnits scale decimals r)).bind _ = _
  rw [ofUnits_eq_ok]
  rfl

/-- Only a quotient divides, and its divisor is checked before. -/
theorem run_apply (op : Operator) (left right : Rat) :
    (apply op left right).run = .ok (op.apply left right) := by
  cases op with
  | plus => rfl
  | minus => rfl
  | times => rfl
  | divide =>
    unfold apply Operator.apply
    dsimp only
    by_cases hzero : right = 0
    · rw [if_pos hzero, if_pos ⟨rfl, hzero⟩]
      rfl
    · rw [if_neg hzero, if_neg (fun h => hzero h.2), quotient_eq_ok left hzero]
      rfl

/-- An operand is read without a trap. -/
theorem run_operandValue (op : Operator) (token : Token) :
    (operandValue scale op token).run = .ok (KeypadCalculator.operandValue scale op token) := by
  cases token with
  | number text =>
    unfold operandValue
    rw [run_liftM_bind_of_eq_ok _ (read_eq_ok text)]
    unfold KeypadCalculator.operandValue
    dsimp only
    rcases Numeral.read? scale text with _ | r <;> rfl
  | operator _ => rfl
  | equals => rfl

/-- An operation on two tokens does not trap. -/
theorem run_combine (op : Operator) (left right : Token) :
    (combine scale decimals op left right).run =
      .ok (KeypadCalculator.combine scale decimals op left right) := by
  apply run_bind_eq_ok (run_operandValue op left)
  intro a _
  apply run_bind_eq_ok (run_operandValue op right)
  intro b _
  apply run_bind_eq_ok (run_apply op a b)
  intro result _
  exact run_liftM_bind_of_eq_ok _ (write_eq_ok result)

/-! ## Differences and slices -/

/-- A difference does not trap if what is subtracted is not larger. -/
theorem difference_eq_ok {a b : Nat} (h : b ≤ a) : difference a b = .ok (a - b) :=
  if_pos h

/-- A slice up to a position within the sequence does not trap. -/
theorem sliceTo_eq_ok {tokens : List Token} {stop : Nat} (h : stop ≤ tokens.length) :
    sliceTo tokens stop = .ok (tokens.take stop) :=
  if_pos h

/-- A slice from a position within the sequence on does not trap. -/
theorem sliceFrom_eq_ok {tokens : List Token} {start : Nat} (h : start ≤ tokens.length) :
    sliceFrom tokens start = .ok (tokens.drop start) :=
  if_pos h

/-- What the checks of a reduction let pass can be sliced. -/
theorem run_reduceAt (tokens : List Token) (i : Nat) :
    (reduceAt scale decimals tokens i).run =
      .ok (KeypadCalculator.reduceAt scale decimals tokens i) := by
  unfold reduceAt KeypadCalculator.reduceAt
  rcases hop : tokens[i]? with _ | (text | op | _)
  · rfl
  · rfl
  · rcases hleft : tokenBefore? tokens i with _ | left
    · rfl
    rcases hright : tokens[i + 1]? with _ | right
    · rfl
    -- there is a token on each side of the operator
    have hpos : 1 ≤ i := by
      rcases i with _ | i
      · cases hleft
      · exact Nat.le_add_left 1 i
    have hlt : i + 1 < tokens.length := (List.getElem?_eq_some_iff.mp hright).1
    apply run_bind_eq_ok (run_combine op left right)
    intro result _
    rw [run_liftM_bind_of_eq_ok _ (difference_eq_ok (by omega)),
      run_liftM_bind_of_eq_ok _ (difference_eq_ok hpos),
      run_liftM_bind_of_eq_ok _ (sliceTo_eq_ok (by omega)),
      run_liftM_bind_of_eq_ok _ (sliceFrom_eq_ok (by omega))]
    rfl
  · rfl

/-! ## Loops -/

/-- A loop with half as many reductions as tokens is done. It gives what every function gives that
goes on in the same way. -/
theorem run_reduceWhile {α : Type} {next : List Token → Option Nat}
    {finish loop : List Token → Except ExpressionError α}
    (hnone : ∀ tokens, next tokens = none → loop tokens = finish tokens)
    (hsome : ∀ tokens i, next tokens = some i →
      loop tokens = (KeypadCalculator.reduceAt scale decimals tokens i).bind loop)
    {bound : Nat} {tokens : List Token} (hbound : tokens.length / 2 ≤ bound) :
    (reduceWhile scale decimals next finish bound tokens).run = .ok (loop tokens) := by
  unfold reduceWhile
  rcases hnext : next tokens with _ | i
  · rw [hnone tokens hnext]
    rfl
  rw [hsome tokens i hnext]
  apply run_bind_eq_ok (run_reduceAt tokens i)
  intro rest hrest
  have hlength := length_of_reduceAt hrest
  match bound, hbound with
  | 0, _ =>
    -- there are too few tokens for one more reduction
    omega
  | bound + 1, hbound => exact run_reduceWhile hnone hsome (by omega)

/-- With enough reductions the first pass does not trap. -/
theorem run_reduceProducts {bound : Nat} {tokens : List Token}
    (hbound : tokens.length / 2 ≤ bound) :
    (reduceProducts scale decimals bound tokens).run =
      .ok (KeypadCalculator.reduceProducts scale decimals tokens) :=
  run_reduceWhile (fun _ => reduceProducts_of_findIdx?_eq_none)
    (fun _ _ => reduceProducts_of_findIdx?_eq_some) hbound

/-- One reduction less, and the loop would not be done. -/
example : (reduceProducts .wrapped 2 0 [.number "2", .operator .times, .number "3"]).run =
    .error .unfinished := by
  decide +kernel

/-- With enough reductions the second pass does not trap. -/
theorem run_reduceSums {bound : Nat} {tokens : List Token} (hbound : tokens.length / 2 ≤ bound) :
    (reduceSums scale decimals bound tokens).run =
      .ok (KeypadCalculator.reduceSums scale decimals tokens) := by
  apply run_reduceWhile _ _ hbound
  · intro tokens hnext
    match tokens with
    | [] => rw [KeypadCalculator.reduceSums]; rfl
    | [.number _] => rw [KeypadCalculator.reduceSums]; rfl
    | [.operator _] => rw [KeypadCalculator.reduceSums] <;> simp [lastText]
    | [.equals] => rw [KeypadCalculator.reduceSums] <;> simp [lastText]
    | _ :: _ :: _ => simp at hnext
  · intro tokens i hnext
    obtain ⟨htwo, hi⟩ := Option.ite_none_right_eq_some.mp hnext
    obtain rfl := Option.some.inj hi
    exact reduceSums_of_two_le_length htwo

/-- Nothing that an evaluation does under guard is a trap, whatever the tokens and the position. A
reduction with all its differences and slices gives what it gives without guard; if that is no
error, it puts one number in the place of two and the operator between them, and leaves all else as
it is. Both loops are done after no more reductions than half as many as there are tokens. And
whatever is read, combined or written, no divisor is zero. -/
theorem reduce_never_traps (scale : Scale) (decimals : Nat) (tokens : List Token) (i : Nat) :
    (reduceAt scale decimals tokens i).run =
        .ok (KeypadCalculator.reduceAt scale decimals tokens i) ∧
      (∀ out, KeypadCalculator.reduceAt scale decimals tokens i = .ok out →
        out.length + 2 = tokens.length ∧
          ∃ front a op b back text, front.length + 1 = i ∧
            tokens = front ++ Token.number a :: Token.operator op :: Token.number b :: back ∧
            out = front ++ Token.number text :: back) ∧
      (reduceProducts scale decimals (tokens.length / 2) tokens).run =
        .ok (KeypadCalculator.reduceProducts scale decimals tokens) ∧
      (reduceSums scale decimals (tokens.length / 2) tokens).run =
        .ok (KeypadCalculator.reduceSums scale decimals tokens) ∧
      (∀ op left right, (apply op left right).run = .ok (op.apply left right)) ∧
      (∀ text, read scale text = .ok (Numeral.read? scale text)) ∧
      ∀ r, write scale decimals r = .ok (Numeral.write scale decimals r) := by
  refine ⟨run_reduceAt tokens i, ?_, run_reduceProducts le_rfl, run_reduceSums le_rfl, run_apply,
    read_eq_ok, write_eq_ok⟩
  intro out hout
  exact ⟨length_of_reduceAt hout, exists_append_of_reduceAt hout⟩

/-- `+1*2/`, with an operator at either end: the reduction at the `*` goes through. -/
theorem reduce_never_traps_of_operator_at_end :
    let tokens : List Token :=
      [.operator .plus, .number "1", .operator .times, .number "2", .operator .divide]
    let out : List Token := [.operator .plus, .number "2", .operator .divide]
    KeypadCalculator.reduceAt .wrapped 2 tokens 2 = .ok out ∧
      (reduceAt .wrapped 2 tokens 2).run = .ok (.ok out) ∧ out.length + 2 = tokens.length ∧
      (reduceProducts .wrapped 2 (tokens.length / 2) tokens).run =
        .ok (.error (.missingOperand .divide)) := by
  intro tokens out
  have hout : KeypadCalculator.reduceAt .wrapped 2 tokens 2 = .ok out := by decide +kernel
  have hproducts : KeypadCalculator.reduceProducts .wrapped 2 tokens =
      .error (.missingOperand .divide) := by decide +kernel
  obtain ⟨hrun, hchanged, hloop, -⟩ := reduce_never_traps .wrapped 2 tokens 2
  rw [hout] at hrun
  rw [hproducts] at hloop
  exact ⟨hout, hrun, (hchanged out hout).1, hloop⟩

end Guarded

end KeypadCalculator
