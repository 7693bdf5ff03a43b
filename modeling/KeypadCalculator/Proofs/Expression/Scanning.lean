import KeypadCalculator.Expression.Scan
import KeypadCalculator.Proofs.Numeral.RoundTrip

/-!
# Reducing is scanning

An operation needs no more of its operands than their texts, and the passes need no more of a token
sequence than one scan of it. With the operation said as a row of checks, the scans say which error
comes first.

* `combineTexts`: the operation on texts, without the tokens around them.
* `combine_number`, `exists_of_combine`: between numbers, a token sequence is combined as the texts
  are, and between other tokens it is not combined at all.
* `exists_of_combineTexts_eq_ok`: what a success says about the two texts.
* `reduceAt_append`: one reduction, with what stands around it.
* `reduceProducts_reverse_append`: the invariant of the first pass. What the scan is done with has
  no `*` or `/`.
* `reduceProducts_eq_scanProducts`, `reduceSums_eq_scanSums`, `evaluate_eq_scan`: the passes and
  their composition.
* `combine_eq_attempt`: the order of the checks between two tokens.
* `scanProductsFrom_cons_operator`, `scanSumsFrom_cons_operator`: what a scan does at an operator.
* `passes_eq_scans`: the two passes, with the checks that decide on the error.
-/

namespace KeypadCalculator

/-!
## One operation on texts

An operator that stands between two numbers reads both, computes, and writes the result. Whether
that succeeds, and the error if it does not, depends on the two texts alone; only the text of the
result depends on the number of decimals. What comes out can always be read again.
-/

section

/-! ### Computations that may fail -/

section

variable {α β ε : Type} {x : Except ε α} {b : β}

/-- One computation after another succeeds only if both do. -/
theorem exists_of_bind_eq_ok {f : α → Except ε β} (h : x.bind f = .ok b) :
    ∃ a, x = .ok a ∧ f a = .ok b := by
  cases x with
  | error e => cases h
  | ok a => exact ⟨a, rfl, h⟩

/-- An image that was computed is the image of what was computed. -/
theorem exists_of_map_eq_ok {f : α → β} (h : x.map f = .ok b) : ∃ a, x = .ok a ∧ f a = b := by
  cases x with
  | error e => cases h
  | ok a => exact ⟨a, rfl, Except.ok.inj h⟩

end

/-- Whether a text is a plain decimal. -/
def IsReadable (scale : Scale) (text : String) : Prop :=
  (Numeral.read? scale text).isSome = true

/-- The text that an operator makes of two others. -/
def combineTexts (scale : Scale) (decimals : Nat) (op : Operator) (left right : String) :
    Except ExpressionError String :=
  match Numeral.read? scale left, Numeral.read? scale right with
  | none, _ => .error (.unreadableOperand left)
  | some _, none => .error (.unreadableOperand right)
  | some a, some b =>
    if op = .divide ∧ b = 0 then .error .divisionByZero
    else .ok (Numeral.write scale decimals (op.compute a b))

variable {scale : Scale} {decimals : Nat} {op : Operator} {left right : String}

/-! ### Readable texts -/

/-- What was written can be read. -/
theorem isReadable_write (scale : Scale) (decimals : Nat) (r : Rat) :
    IsReadable scale (Numeral.write scale decimals r) :=
  Numeral.isSome_read?_write scale decimals r

/-- A text that denotes a value can be read. -/
theorem isReadable_of_read? {text : String} {r : Rat} (h : Numeral.read? scale text = some r) :
    IsReadable scale text := by
  rw [IsReadable, h]
  rfl

/-- A text that can be read denotes a value. -/
theorem IsReadable.exists_read? {text : String} (h : IsReadable scale text) :
    ∃ r, Numeral.read? scale text = some r :=
  Option.isSome_iff_exists.mp h

/-- A text that cannot be read denotes nothing. -/
theorem not_isReadable_iff {text : String} :
    ¬IsReadable scale text ↔ Numeral.read? scale text = none := by
  simp [IsReadable]

/-! ### Success and failure -/

/-- An operation on texts with values writes the value of the operation. -/
theorem combineTexts_of_read? {a b : Rat} (hleft : Numeral.read? scale left = some a)
    (hright : Numeral.read? scale right = some b) (hzero : op = .divide → b ≠ 0) :
    combineTexts scale decimals op left right =
      .ok (Numeral.write scale decimals (op.compute a b)) := by
  have hnot : ¬(op = .divide ∧ b = 0) := fun h => hzero h.1 h.2
  simp only [combineTexts, hleft, hright, if_neg hnot]

/-- A left operand that cannot be read is reported. -/
theorem combineTexts_of_not_isReadable_left (h : ¬IsReadable scale left) :
    combineTexts scale decimals op left right = .error (.unreadableOperand left) := by
  simp only [combineTexts, not_isReadable_iff.mp h]

/-- A right operand that cannot be read is reported if the left one can be. -/
theorem combineTexts_of_not_isReadable_right (hleft : IsReadable scale left)
    (h : ¬IsReadable scale right) :
    combineTexts scale decimals op left right = .error (.unreadableOperand right) := by
  obtain ⟨a, ha⟩ := hleft.exists_read?
  simp only [combineTexts, ha, not_isReadable_iff.mp h]

/-- A divisor of value zero is reported if the left operand can be read. -/
theorem combineTexts_of_divisor_eq_zero (hleft : IsReadable scale left)
    (h : Numeral.read? scale right = some 0) :
    combineTexts scale decimals .divide left right = .error .divisionByZero := by
  obtain ⟨a, ha⟩ := hleft.exists_read?
  simp only [combineTexts, ha, h, and_self, if_true]

/-- Two texts are combined only if both can be read and the second is not a divisor of value
zero. -/
theorem exists_of_combineTexts_eq_ok {text : String}
    (h : combineTexts scale decimals op left right = .ok text) :
    ∃ a b, Numeral.read? scale left = some a ∧ Numeral.read? scale right = some b ∧
      (op = .divide → b ≠ 0) ∧ text = Numeral.write scale decimals (op.compute a b) := by
  unfold combineTexts at h
  split at h
  · cases h
  · cases h
  · rename_i a b hleft hright
    split at h
    · cases h
    · rename_i hzero
      cases h
      exact ⟨a, b, hleft, hright, fun hop hb => hzero ⟨hop, hb⟩, rfl⟩

/-- The result of an operation can be read. -/
theorem isReadable_of_combineTexts_eq_ok {text : String}
    (h : combineTexts scale decimals op left right = .ok text) : IsReadable scale text := by
  obtain ⟨a, b, -, -, -, rfl⟩ := exists_of_combineTexts_eq_ok h
  exact isReadable_write scale decimals _

/-! ### Texts as tokens -/

/-- Two number tokens are combined as their texts are. -/
theorem combine_number (scale : Scale) (decimals : Nat) (op : Operator) (left right : String) :
    combine scale decimals op (.number left) (.number right) =
      (combineTexts scale decimals op left right).map .number := by
  simp only [combine, combineTexts, operandValue]
  cases Numeral.read? scale left with
  | none => rfl
  | some a =>
    cases Numeral.read? scale right with
    | none => rfl
    | some b =>
      show ((op.apply a b).bind fun r => .ok (Token.number (Numeral.write scale decimals r))) = _
      by_cases hzero : op = .divide ∧ b = 0
      · simp only [Operator.apply, if_pos hzero]
        rfl
      · simp only [Operator.apply, if_neg hzero]
        rfl

/-- Only numbers are combined, and what comes out is a number. -/
theorem exists_of_combine {left right result : Token}
    (h : combine scale decimals op left right = .ok result) :
    ∃ a b text, left = .number a ∧ right = .number b ∧ result = .number text ∧
      combineTexts scale decimals op a b = .ok text := by
  cases left with
  | operator _ => cases h
  | equals => cases h
  | number a =>
    cases right with
    | number b =>
      rw [combine_number] at h
      obtain ⟨text, htext, rfl⟩ := exists_of_map_eq_ok h
      exact ⟨a, b, text, rfl, rfl, rfl, htext⟩
    | operator _ =>
      simp only [combine, operandValue] at h
      cases hread : Numeral.read? scale a <;> rw [hread] at h <;> cases h
    | equals =>
      simp only [combine, operandValue] at h
      cases hread : Numeral.read? scale a <;> rw [hread] at h <;> cases h

end

/-!
## Reducing is scanning

The two passes of the evaluation start over after every reduction. They find nothing new when they
do: what stands in front of the operator that was reduced holds no `*` or `/`, so the next one lies
behind it, and it sees the result as its left neighbour. Both passes therefore do what a single scan
from left to right does, on every token sequence and with the same error where they fail.
-/

section

variable {scale : Scale} {decimals : Nat}

/-! ### One reduction in its place -/

/-- A reduction leaves alone what stands in front of the left neighbour and behind the right one. -/
theorem reduceAt_append (before after : List Token) (op : Operator) (left right : Token) :
    reduceAt scale decimals (before ++ left :: .operator op :: right :: after) (before.length + 1) =
      (combine scale decimals op left right).map fun result => before ++ result :: after := by
  have hop : (before ++ left :: .operator op :: right :: after)[before.length + 1]? =
      some (.operator op) := by simp
  have hleft : tokenBefore? (before ++ left :: .operator op :: right :: after)
      (before.length + 1) = some left := by simp [tokenBefore?]
  have hright : (before ++ left :: .operator op :: right :: after)[before.length + 1 + 1]? =
      some right := by simp [Nat.add_assoc]
  have htake : (before ++ left :: .operator op :: right :: after).take (before.length + 1 - 1) =
      before := by simp
  have hdrop : (before ++ left :: .operator op :: right :: after).drop (before.length + 1 + 2) =
      after := by simp [Nat.add_assoc]
  simp only [reduceAt, hop, hleft, hright, htake, hdrop]
  cases combine scale decimals op left right <;> rfl

/-- An operator at the very start or the very end lacks a neighbour. -/
theorem reduceAt_length_of_absent {before after : List Token} (op : Operator)
    (h : before = [] ∨ after = []) :
    reduceAt scale decimals (before ++ .operator op :: after) before.length =
      .error (.missingOperand op) := by
  have hop : (before ++ .operator op :: after)[before.length]? = some (.operator op) := by simp
  simp only [reduceAt, hop]
  rcases h with rfl | rfl
  · rfl
  · have hright : (before ++ [.operator op])[before.length + 1]? = none := by simp
    rw [hright]
    cases tokenBefore? (before ++ [.operator op]) before.length <;> rfl

/-! ### The first pass -/

/-- The first pass leaves tokens without `*` and `/` alone. -/
theorem reduceProducts_of_not_isMultiplicative {tokens : List Token}
    (h : ∀ token ∈ tokens, token.isMultiplicative = false) :
    reduceProducts scale decimals tokens = .ok tokens :=
  reduceProducts_of_findIdx?_eq_none (List.findIdx?_eq_none_iff.mpr h)

/-- The leftmost `*` or `/` is the one behind tokens that are neither. -/
theorem findIdx?_append_operator {before : List Token} {op : Operator} (after : List Token)
    (h : ∀ token ∈ before, token.isMultiplicative = false) (hop : op.isMultiplicative = true) :
    (before ++ .operator op :: after).findIdx? Token.isMultiplicative = some before.length := by
  rw [List.findIdx?_append, List.findIdx?_eq_none_iff.mpr h, List.findIdx?_cons]
  simp [Token.isMultiplicative, hop]

/-- The leftmost `*` or `/` with both neighbours is replaced by the result, and the pass goes on. -/
theorem reduceProducts_append {before after : List Token} {op : Operator} {left right : Token}
    (h : ∀ token ∈ before ++ [left], token.isMultiplicative = false)
    (hop : op.isMultiplicative = true) :
    reduceProducts scale decimals (before ++ left :: .operator op :: right :: after) =
      (combine scale decimals op left right).bind fun result =>
        reduceProducts scale decimals (before ++ result :: after) := by
  have hidx := findIdx?_append_operator (right :: after) h hop
  rw [List.append_assoc, List.singleton_append, List.length_append, List.length_singleton] at hidx
  rw [reduceProducts_of_findIdx?_eq_some hidx, reduceAt_append]
  cases combine scale decimals op left right <;> rfl

/-- The leftmost `*` or `/` without a neighbour on one side is an error. -/
theorem reduceProducts_append_of_absent {before after : List Token} {op : Operator}
    (h : ∀ token ∈ before, token.isMultiplicative = false) (hop : op.isMultiplicative = true)
    (habsent : before = [] ∨ after = []) :
    reduceProducts scale decimals (before ++ .operator op :: after) =
      .error (.missingOperand op) := by
  rw [reduceProducts_of_findIdx?_eq_some (findIdx?_append_operator after h hop),
    reduceAt_length_of_absent op habsent]
  rfl

/-- Reading on moves a token from what is left to what is done. -/
theorem reverse_append_cons (done : List Token) (token : Token) (tokens : List Token) :
    done.reverse ++ token :: tokens = (token :: done).reverse ++ tokens := by
  rw [List.reverse_cons, List.append_assoc, List.singleton_append]

/-- The first pass, started on what a scan is done with and what it has yet to read, ends as the
scan does. What the scan is done with has no `*` or `/`. -/
theorem reduceProducts_reverse_append {done tokens : List Token}
    (h : ∀ token ∈ done, token.isMultiplicative = false) :
    reduceProducts scale decimals (done.reverse ++ tokens) =
      scanProductsFrom scale decimals done tokens := by
  have hrev : ∀ {done : List Token}, (∀ token ∈ done, token.isMultiplicative = false) →
      ∀ token ∈ done.reverse, token.isMultiplicative = false :=
    fun h token htoken => h token (List.mem_reverse.mp htoken)
  induction done, tokens using scanProductsFrom_induction with
  | finished done =>
    rw [List.append_nil, reduceProducts_of_not_isMultiplicative (hrev h), scanProductsFrom]
  | passed done token rest htoken ih =>
    rw [reverse_append_cons, scanProductsFrom_cons_of_not_isMultiplicative htoken]
    exact ih (List.forall_mem_cons.mpr ⟨htoken, h⟩)
  | absent done op rest hop habsent =>
    rw [reduceProducts_append_of_absent (hrev h) hop (habsent.imp_left (congrArg List.reverse)),
      scanProductsFrom_of_absent hop habsent]
  | product left done op right rest hop ih =>
    have hbefore : ∀ token ∈ done.reverse ++ [left], token.isMultiplicative = false := by
      rw [← List.reverse_cons]
      exact hrev h
    rw [← reverse_append_cons, reduceProducts_append hbefore hop, scanProductsFrom_cons_cons hop]
    cases hresult : combine scale decimals op left right with
    | error e => rfl
    | ok result =>
      obtain ⟨-, -, text, -, -, rfl, -⟩ := exists_of_combine hresult
      have := ih (.number text) (List.forall_mem_cons.mpr ⟨rfl, (List.forall_mem_cons.mp h).2⟩)
      rw [← reverse_append_cons] at this
      exact this

/-- The first pass is a scan. -/
theorem reduceProducts_eq_scanProducts (tokens : List Token) :
    reduceProducts scale decimals tokens = scanProducts scale decimals tokens := by
  have h : ∀ token ∈ ([] : List Token), token.isMultiplicative = false := by simp
  exact reduceProducts_reverse_append h

/-! ### The second pass -/

/-- The first operator with both neighbours is replaced by the result, and the pass goes on. -/
theorem reduceSums_cons_cons_cons (op : Operator) (left right : Token) (after : List Token) :
    reduceSums scale decimals (left :: .operator op :: right :: after) =
      (combine scale decimals op left right).bind fun result =>
        reduceSums scale decimals (result :: after) := by
  rw [reduceSums_of_two_le_length (by simp)]
  have hstep : reduceAt scale decimals (left :: .operator op :: right :: after) 1 =
      (combine scale decimals op left right).map fun result => result :: after :=
    reduceAt_append [] after op left right
  rw [hstep]
  cases combine scale decimals op left right <;> rfl

/-- The second pass is a scan. -/
theorem reduceSums_eq_scanSums (tokens : List Token) :
    reduceSums scale decimals tokens = scanSums scale decimals tokens := by
  cases tokens with
  | nil => rw [reduceSums, scanSums]
  | cons first rest =>
    rw [scanSums]
    fun_induction scanSumsFrom scale decimals first rest with
    | case1 text => rw [reduceSums]
    | case2 other hno =>
      cases other with
      | number text => exact (hno text rfl).elim
      | operator op => rw [reduceSums]; simp
      | equals => rw [reduceSums]; simp
    | case3 sum op right rest ih =>
      rw [reduceSums_cons_cons_cons]
      cases hresult : combine scale decimals op sum right with
      | error e => rfl
      | ok result => exact ih result
    | case4 sum op =>
      rw [reduceSums_of_two_le_length (by simp)]
      rfl
    | case5 sum other rest hno hno' =>
      rw [reduceSums_of_two_le_length (by simp)]
      cases other with
      | number text => rfl
      | operator op =>
        cases rest with
        | nil => exact (hno' op rfl rfl).elim
        | cons right rest => exact (hno op right rest rfl rfl).elim
      | equals => rfl

/-- Evaluating is scanning twice. -/
theorem evaluate_eq_scan (tokens : List Token) :
    evaluate scale decimals tokens = scan scale decimals tokens := by
  rw [evaluate, scan, reduceProducts_eq_scanProducts]
  simp only [reduceSums_eq_scanSums]

end

/-!
## Which error comes first

The two passes of the evaluation start over after every reduction, and a scan does not. They agree
on every token sequence, well formed or not, down to the error. What a scan reports is the first
check that fails at the first operator where one fails, so the same is true of the passes.
-/

section

variable {scale : Scale} {decimals : Nat} {op : Operator}

/-! ### One operator -/

/-- A token that is at fault as an operand has no value. -/
theorem operandValue_of_fault {token : Token} {e : ExpressionError}
    (h : op.operandFault? scale token = some e) : operandValue scale op token = .error e := by
  cases token with
  | number text =>
    unfold Operator.operandFault? at h
    split_ifs at h with hnone
    obtain rfl := Option.some.inj h
    have hread : Numeral.read? scale text = none := hnone
    simp only [operandValue, hread]
  | operator _ =>
    obtain rfl := Option.some.inj h
    rfl
  | equals =>
    obtain rfl := Option.some.inj h
    rfl

/-- A token that is not at fault has a value. -/
theorem exists_operandValue_of_no_fault {token : Token}
    (h : op.operandFault? scale token = none) :
    ∃ value, token.value? scale = some value ∧ operandValue scale op token = .ok value := by
  cases token with
  | number text =>
    unfold Operator.operandFault? at h
    split_ifs at h with hsome
    obtain ⟨value, hvalue⟩ := Option.ne_none_iff_exists'.mp hsome
    have hread : Numeral.read? scale text = some value := hvalue
    refine ⟨value, hvalue, ?_⟩
    simp only [operandValue, hread]
  | operator _ => cases h
  | equals => cases h

/-- Between two tokens the operands are checked from left to right, and then the divisor. -/
theorem combine_eq_attempt (op : Operator) (left right : Token) :
    combine scale decimals op left right = op.attempt scale decimals (some left) (some right) := by
  have hcombine : combine scale decimals op left right =
      (operandValue scale op left).bind fun a => (operandValue scale op right).bind fun b =>
        (op.apply a b).bind fun r => .ok (.number (Numeral.write scale decimals r)) := rfl
  rw [hcombine, Operator.attempt, Operator.fault?]
  cases hleft : op.operandFault? scale left with
  | some e =>
    rw [operandValue_of_fault hleft]
    rfl
  | none =>
    obtain ⟨a, ha, hleft⟩ := exists_operandValue_of_no_fault hleft
    cases hright : op.operandFault? scale right with
    | some e =>
      rw [hleft, operandValue_of_fault hright]
      rfl
    | none =>
      obtain ⟨b, hb, hright⟩ := exists_operandValue_of_no_fault hright
      rw [hleft, hright]
      show (op.apply a b).bind _ = _
      by_cases hzero : op = .divide ∧ b = 0
      · have hfault : op.divisorFault? scale right = some .divisionByZero := by
          rw [Operator.divisorFault?, hb, if_pos ⟨hzero.1, congrArg some hzero.2⟩]
        rw [hfault, Operator.apply, if_pos hzero]
        rfl
      · have hfault : op.divisorFault? scale right = none := by
          rw [Operator.divisorFault?, hb, if_neg fun h => hzero ⟨h.1, Option.some.inj h.2⟩]
        rw [hfault, Operator.apply, if_neg hzero]
        simp only [Option.or_none, Option.bind_some, ha, hb, Option.getD_some]
        cases op <;> rfl

/-- Of two faults the left one is reported, though a token that is no number may stand on the
right. -/
example : combine .wrapped 2 .divide (.number "x") .equals = .error (.unreadableOperand "x") := by
  rfl

/-- An operator without a neighbour on one side lacks an operand. -/
theorem Operator.attempt_of_absent (op : Operator) {left right : Option Token}
    (h : left = none ∨ right = none) :
    op.attempt scale decimals left right = .error (.missingOperand op) := by
  have hfault : op.fault? scale left right = some (.missingOperand op) := by
    rcases h with rfl | rfl
    · rfl
    · cases left <;> rfl
  rw [attempt, hfault]

/-! ### The scans -/

/-- At a `*` or `/` the scan for products takes what it is done with last and what it reads next. -/
theorem scanProductsFrom_cons_operator (done : List Token) (op : Operator) (rest : List Token) :
    scanProductsFrom scale decimals done (.operator op :: rest) =
      if op.isMultiplicative then
        (op.attempt scale decimals done.head? rest.head?).bind fun result =>
          scanProductsFrom scale decimals (result :: done.tail) rest.tail
      else scanProductsFrom scale decimals (.operator op :: done) rest := by
  split_ifs with hop
  · rcases done with _ | ⟨left, done⟩
    · rw [List.head?_nil, op.attempt_of_absent (.inl rfl),
        scanProductsFrom_of_absent hop (.inl rfl)]
      rfl
    · rcases rest with _ | ⟨right, rest⟩
      · rw [List.head?_nil, op.attempt_of_absent (.inr rfl),
          scanProductsFrom_of_absent hop (.inr rfl)]
        rfl
      · rw [scanProductsFrom_cons_cons hop, combine_eq_attempt]
        rfl
  · have htoken : (Token.operator op).isMultiplicative = false := Bool.eq_false_iff.mpr hop
    exact scanProductsFrom_cons_of_not_isMultiplicative htoken done rest

/-- At an operator the scan for sums takes the sum so far and what it reads next. -/
theorem scanSumsFrom_cons_operator (sum : Token) (op : Operator) (rest : List Token) :
    scanSumsFrom scale decimals sum (.operator op :: rest) =
      (op.attempt scale decimals (some sum) rest.head?).bind fun result =>
        scanSumsFrom scale decimals result rest.tail := by
  cases rest with
  | nil =>
    rw [List.head?_nil, op.attempt_of_absent (.inr rfl), scanSumsFrom]
    rfl
  | cons right rest =>
    rw [scanSumsFrom, combine_eq_attempt]
    rfl

/-- The two passes are scans, on every token sequence and down to the error. The scan for products
replaces its last token at a `*` or `/` and skips the next one; the scan for sums goes on from the
first token, one operator and one operand at a time. Both make the checks of `Operator.attempt`. -/
theorem passes_eq_scans (scale : Scale) (decimals : Nat) :
    (∀ tokens, reduceProducts scale decimals tokens = scanProducts scale decimals tokens) ∧
    (∀ tokens, reduceSums scale decimals tokens = scanSums scale decimals tokens) ∧
    (∀ (done : List Token) (op : Operator) (rest : List Token),
      scanProductsFrom scale decimals done (.operator op :: rest) =
        if op.isMultiplicative then
          (op.attempt scale decimals done.head? rest.head?).bind fun result =>
            scanProductsFrom scale decimals (result :: done.tail) rest.tail
        else scanProductsFrom scale decimals (.operator op :: done) rest) ∧
    ∀ (sum : Token) (op : Operator) (rest : List Token),
      scanSumsFrom scale decimals sum (.operator op :: rest) =
        (op.attempt scale decimals (some sum) rest.head?).bind fun result =>
          scanSumsFrom scale decimals result rest.tail :=
  ⟨reduceProducts_eq_scanProducts, reduceSums_eq_scanSums, scanProductsFrom_cons_operator,
    scanSumsFrom_cons_operator⟩

end

end KeypadCalculator
