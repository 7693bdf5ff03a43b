import KeypadCalculator.Proofs.Engine.Equals
import KeypadCalculator.Proofs.Numeral.Reading

/-!
# Zeros in front of an operand

An operand may be typed with zeros in front of it or without. The evaluation takes both alike, and
so does the equals key, although it looks at the tokens before it evaluates them.

* `ReadAlike`: texts that no operation tells apart.
* `evaluate_tokens_eq_of_readAlike`: two chains of such texts have one value, or fail alike.
* `SameUpToZeros`: texts of digits with more or fewer zeros in front.
* `Engine.answer_tokens_eq`: the answer to a chain, without the first question.
* `IsAlternation`, `Token.Alike`: what the two engines hold.
* `Engine.answer_eq_of_alike`: the answers are the same.
* `Session.Answers`, `Session.step_equals_of_zeros_in_front`: the same with observers attached.
-/

namespace KeypadCalculator

/-!
## How an operand is spelled

One value can be typed in many ways, since zeros may stand in front of it. An operation reads its
two operands and writes a result, so nothing of their spelling is left in it: two expressions whose
operands have the same values come to the same text, unless there is no operator and the text is an
operand itself. They also fail alike, since a text that cannot be read has only itself to stand for
it.
-/

section

variable {scale : Scale} {text other : String}

/-! ### Texts that read alike -/

/-- Two texts that no operation tells apart: they are one text, or both can be read and denote one
value. -/
def ReadAlike (scale : Scale) (text other : String) : Prop :=
  text = other ∨ ∃ value, Numeral.read? scale text = some value ∧
    Numeral.read? scale other = some value

/-- Texts that read alike denote one value, or none of them does. -/
theorem ReadAlike.read?_eq (h : ReadAlike scale text other) :
    Numeral.read? scale text = Numeral.read? scale other := by
  rcases h with rfl | ⟨value, htext, hother⟩
  · rfl
  · rw [htext, hother]

/-- Of two texts that read alike, both can be read or none. -/
theorem ReadAlike.isReadable_iff (h : ReadAlike scale text other) :
    IsReadable scale text ↔ IsReadable scale other := by
  rw [IsReadable, IsReadable, h.read?_eq]

/-- An operation on texts that read alike has one outcome. -/
theorem ReadAlike.combineTexts_eq {decimals : Nat} {op : Operator}
    {left left' right right' : String}
    (hleft : ReadAlike scale left left') (hright : ReadAlike scale right right') :
    combineTexts scale decimals op left right = combineTexts scale decimals op left' right' := by
  rcases hleft with rfl | ⟨a, ha, ha'⟩
  · rcases hright with rfl | ⟨b, hb, hb'⟩
    · rfl
    · cases hl : Numeral.read? scale left <;> simp only [combineTexts, hl, hb, hb']
  · rcases hright with rfl | ⟨b, hb, hb'⟩
    · cases hr : Numeral.read? scale right <;> simp only [combineTexts, ha, ha', hr]
    · simp only [combineTexts, ha, ha', hb, hb']

/-- Two chains with an operator whose operands read alike have one value, or fail alike. -/
theorem evaluate_tokens_eq_of_readAlike {c d : Chain String}
    (h : Chain.Related (ReadAlike scale) (fun _ => ReadAlike scale) c d) (hrest : c.rest ≠ [])
    (decimals : Nat) : evaluate scale decimals c.tokens = evaluate scale decimals d.tokens := by
  have hstep : ∀ (op : Operator) (a b x y : String), ReadAlike scale a b → ReadAlike scale x y →
      SameOutcome (fun _ => True) Eq (combineTexts scale decimals op a x)
        (combineTexts scale decimals op b y) := by
    intro op a b x y hab hxy
    rw [hab.combineTexts_eq hxy]
    exact (SameOutcome.refl _).imp fun _ _ hsame => hsame.1
  rw [evaluate_tokens, evaluate_tokens]
  have houtcome := Chain.byPrecedenceM_sharpens (R := ReadAlike scale) (fun _ _ hsame => .inl hsame)
    (fun _ _ _ hlink => hlink) (fun op a b x y hab hxy _ => hstep op a b x y hab hxy) h (.inr hrest)
  exact houtcome.eq

/-! ### Zeros in front -/

/-- Two texts that are equal, or that are digits which differ by zeros in front of them. -/
def SameUpToZeros (text other : String) : Prop :=
  text = other ∨ IsDigits text ∧ IsDigits other ∧
    Numeral.trimLeadingZeros text.toList = Numeral.trimLeadingZeros other.toList

/-- Whether texts differ by zeros in front can be decided. -/
instance (text other : String) : Decidable (SameUpToZeros text other) :=
  inferInstanceAs (Decidable (_ ∨ _))

/-- Zeros in front of digits do not change what they denote. -/
theorem SameUpToZeros.readAlike (h : SameUpToZeros text other) (scale : Scale) :
    ReadAlike scale text other := by
  rcases h with rfl | ⟨htext, hother, htrim⟩
  · exact .inl rfl
  · refine .inr ⟨_, htext.read?_eq scale, ?_⟩
    rw [hother.read?_eq, ← Numeral.ofDigitChars_trimLeadingZeros other.toList, ← htrim,
      Numeral.ofDigitChars_trimLeadingZeros]

/-- Zeros in front do not count, also if there is nothing else; zeros behind another digit do. -/
example : SameUpToZeros "007" "7" ∧ SameUpToZeros "0" "000" ∧ ¬SameUpToZeros "70" "7" := by
  decide

end

/-!
## Zeros in front of an operand and the equals key

Whether a divisor is zero is asked twice: the engine looks for the text `0` behind a `/` before it
evaluates anything, and the evaluation asks for the value when it comes to the divisor. The first
question decides nothing, because the evaluation would refuse what it refuses. So the equals key
answers by values alone, and an operand may be typed with zeros in front of it or without.

This needs operands that can be read. One that cannot be makes the engine give up without a word,
but not before it has looked for the text `0`.
-/

section

variable {scale : Scale} {settings : Settings} {R : String → String → Prop}
  {tokens others : List Token}

/-! ### The answer to a chain -/

/-- The evaluation of a chain with a divisor of value zero fails, however the zero is spelled. -/
theorem Chain.exists_evaluate_eq_error_of_divisor {chain : Chain String} {text : String}
    (hdivisor : (.divide, text) ∈ chain.rest) (hzero : Numeral.read? scale text = some 0)
    (decimals : Nat) : ∃ cause, evaluate scale decimals chain.tokens = .error cause := by
  cases hvalue : evaluate scale decimals chain.tokens with
  | error cause => exact ⟨cause, rfl⟩
  | ok result =>
    have hsound := isSound_of_evaluate_eq_ok hvalue (List.ne_nil_of_mem hdivisor)
    exact absurd hzero (hsound.divisor_ne_zero text (mem_divisors_iff.mpr hdivisor))

namespace Engine

/-- A chain is answered by its evaluation, if it has an operator. That no divisor is the text `0`
need not be asked. -/
theorem answer_tokens_eq (scale : Scale) (settings : Settings) (chain : Chain String) :
    answer scale settings chain.tokens =
      if chain.rest = [] then .refusal settings.refusal
      else match evaluate scale settings.decimals chain.tokens with
        | .ok text => .result text
        | .error _ => .refusal settings.refusal := by
  by_cases hcomplete : isComplete chain.tokens = true
  · rw [if_neg (isComplete_tokens_iff.mp hcomplete).1]
    exact if_pos hcomplete
  · rw [answer_of_not_isComplete (Bool.eq_false_iff.mpr hcomplete)]
    split_ifs with hrest
    · rfl
    · have hdivisor : (.divide, "0") ∈ chain.rest := by
        by_contra hnone
        exact hcomplete (isComplete_tokens_iff.mpr ⟨hrest, hnone⟩)
      have hzero : Numeral.read? scale "0" = some 0 :=
        ((by decide : IsDigits "0").read?_eq_zero_iff scale).mpr (by simp)
      obtain ⟨cause, hcause⟩ :=
        Chain.exists_evaluate_eq_error_of_divisor hdivisor hzero settings.decimals
      rw [hcause]

/-- Two chains whose operands read alike get the same answer. -/
theorem answer_tokens_eq_of_readAlike {c d : Chain String}
    (h : Chain.Related (ReadAlike scale) (fun _ => ReadAlike scale) c d) :
    answer scale settings c.tokens = answer scale settings d.tokens := by
  rw [answer_tokens_eq, answer_tokens_eq]
  by_cases hrest : c.rest = []
  · have hrest' : d.rest = [] := List.forall₂_nil_left_iff.mp (hrest ▸ h.rest)
    rw [if_pos hrest, if_pos hrest']
  · have hrest' : d.rest ≠ [] := by
      intro hnil
      exact hrest (List.forall₂_nil_right_iff.mp (hnil ▸ h.rest))
    rw [if_neg hrest, if_neg hrest', evaluate_tokens_eq_of_readAlike h hrest]

end Engine

/-! ### Alternations of numbers and operators -/

/-- Numbers and operators in turn, from a number on. -/
inductive IsAlternation : List Token → Prop where
  /-- Nothing. -/
  | blank : IsAlternation []
  /-- A chain, which ends on a number. -/
  | operand (chain : Chain String) : IsAlternation chain.tokens
  /-- A chain with one more operator. -/
  | operator (chain : Chain String) (op : Operator) :
      IsAlternation (chain.tokens ++ [.operator op])

/-- Two tokens that differ in the text of a number at most, and then the two texts are related. -/
inductive Token.Alike (R : String → String → Prop) : Token → Token → Prop where
  /-- Two numbers. -/
  | number {text other : String} (h : R text other) : Alike R (.number text) (.number other)
  /-- The same operator. -/
  | operator (op : Operator) : Alike R (.operator op) (.operator op)

/-- Tokens stay alike under a wider relation between texts. -/
theorem Token.Alike.imp {S : String → String → Prop}
    (hRS : ∀ text other, R text other → S text other)
    {token other : Token} (h : token.Alike R other) : token.Alike S other := by
  cases h with
  | number h => exact .number (hRS _ _ h)
  | operator op => exact .operator op

/-- Every number is alike to a number of the other tokens. -/
theorem Token.exists_of_mem_of_alike (h : List.Forall₂ (Token.Alike R) tokens others)
    {other : String} (hmem : .number other ∈ others) :
    ∃ text, .number text ∈ tokens ∧ R text other := by
  induction h with
  | nil => cases hmem
  | cons htoken _ ih =>
    rcases List.mem_cons.mp hmem with rfl | hmem
    · cases htoken with
      | number hR => exact ⟨_, List.mem_cons_self, hR⟩
    · obtain ⟨text, htext, hR⟩ := ih hmem
      exact ⟨text, List.mem_cons_of_mem _ htext, hR⟩

namespace Chain

/-- Tokens like those of links are the tokens of related links. -/
theorem exists_linkTokens_of_alike {rest : List (Operator × String)}
    (h : List.Forall₂ (Token.Alike R) (linkTokens rest) others) :
    ∃ rest', others = linkTokens rest' ∧
      List.Forall₂ (fun l m => l.1 = m.1 ∧ R l.2 m.2) rest rest' := by
  induction rest generalizing others with
  | nil =>
    cases h
    exact ⟨[], rfl, .nil⟩
  | cons link rest ih =>
    obtain ⟨op, text⟩ := link
    rw [linkTokens_cons] at h
    obtain ⟨token, tail, hop, htail, rfl⟩ := List.forall₂_cons_left_iff.mp h
    obtain ⟨token', others, hnumber, hothers, rfl⟩ := List.forall₂_cons_left_iff.mp htail
    cases hop
    cases hnumber with
    | @number _ other hR =>
      obtain ⟨rest', rfl, hrest⟩ := ih hothers
      exact ⟨(op, other) :: rest', rfl, .cons ⟨rfl, hR⟩ hrest⟩

/-- Tokens that are alike to those of a chain are those of a chain. -/
theorem exists_tokens_of_alike {chain : Chain String}
    (h : List.Forall₂ (Token.Alike R) chain.tokens others) :
    ∃ other : Chain String, others = other.tokens ∧ Related R (fun _ => R) chain other := by
  rw [tokens_eq_cons] at h
  obtain ⟨token, others, hnumber, hothers, rfl⟩ := List.forall₂_cons_left_iff.mp h
  cases hnumber with
  | @number _ first hR =>
    obtain ⟨rest, rfl, hrest⟩ := exists_linkTokens_of_alike hothers
    exact ⟨{ first, rest }, rfl, hR, hrest⟩

end Chain

namespace IsAlternation

/-- Tokens that are alike to an alternation end as it does. -/
theorem cases_of_alike (h : IsAlternation tokens)
    (halike : List.Forall₂ (Token.Alike R) tokens others) :
    (tokens = [] ∧ others = []) ∨
      (∃ c d : Chain String, tokens = c.tokens ∧ others = d.tokens ∧
        Chain.Related R (fun _ => R) c d) ∨
      ∃ (c d : Chain String) (op : Operator), tokens = c.tokens ++ [.operator op] ∧
        others = d.tokens ++ [.operator op] := by
  cases h with
  | blank => exact .inl ⟨rfl, List.forall₂_nil_left_iff.mp halike⟩
  | operand c =>
    obtain ⟨d, hd, hrelated⟩ := Chain.exists_tokens_of_alike halike
    exact .inr (.inl ⟨c, d, rfl, hd, hrelated⟩)
  | operator c op =>
    have htake := (List.forall₂_take_append _ _ _ halike.flip).flip
    have hdrop := (List.forall₂_drop_append _ _ _ halike.flip).flip
    obtain ⟨d, hd, -⟩ := Chain.exists_tokens_of_alike htake
    obtain ⟨_, _, hop, hnil, hlast⟩ := List.forall₂_cons_left_iff.mp hdrop
    obtain rfl := List.forall₂_nil_left_iff.mp hnil
    cases hop
    refine .inr (.inr ⟨c, d, op, rfl, ?_⟩)
    rw [← hd, ← hlast, List.take_append_drop]

/-- Tokens like an alternation are one. -/
theorem of_alike (h : IsAlternation tokens)
    (halike : List.Forall₂ (Token.Alike R) tokens others) : IsAlternation others := by
  rcases h.cases_of_alike halike with ⟨-, rfl⟩ | ⟨-, d, -, rfl, -⟩ | ⟨-, d, op, -, rfl⟩
  · exact .blank
  · exact .operand d
  · exact .operator d op

end IsAlternation

/-! ### The answer to an alternation -/

namespace Engine

variable {engine : Engine}

/-- An operator at the end wants a number behind it. -/
theorem isComplete_append_operator (tokens : List Token) (op : Operator) :
    isComplete (tokens ++ [.operator op]) = false := by
  simp [isComplete, Token.isNumber]

/-- An alternation that may be evaluated is a chain. -/
theorem exists_of_isAlternation (h : IsAlternation tokens) (hcomplete : isComplete tokens = true) :
    ∃ chain : Chain String, tokens = chain.tokens := by
  cases h with
  | blank => cases hcomplete
  | operand chain => exact ⟨chain, rfl⟩
  | operator chain op =>
    rw [isComplete_append_operator] at hcomplete
    cases hcomplete

/-- If the numbers of an alternation can be read, the equals key gives an answer. -/
theorem answers_of_isAlternation (h : IsAlternation engine.tokens)
    (hreadable : ∀ text, .number text ∈ engine.tokens → IsReadable scale text) :
    engine.Answers scale (answer scale engine.settings engine.tokens) := by
  by_cases hcomplete : isComplete engine.tokens = true
  · obtain ⟨chain, htokens⟩ := exists_of_isAlternation h hcomplete
    rw [htokens] at hreadable ⊢
    exact answers_of_isReadable htokens fun text htext =>
      hreadable text (Chain.number_mem_tokens_iff.mpr htext)
  · have hincomplete := Bool.eq_false_iff.mpr hcomplete
    rw [answer_of_not_isComplete hincomplete]
    exact answers_of_not_isComplete hincomplete

/-- Two alternations whose numbers read alike get the same answer. -/
theorem answer_eq_of_alike (h : IsAlternation tokens)
    (halike : List.Forall₂ (Token.Alike (ReadAlike scale)) tokens others) :
    answer scale settings tokens = answer scale settings others := by
  rcases h.cases_of_alike halike with ⟨rfl, rfl⟩ | ⟨c, d, rfl, rfl, hrelated⟩ |
    ⟨c, d, op, rfl, rfl⟩
  · rfl
  · exact answer_tokens_eq_of_readAlike hrelated
  · rw [answer_of_not_isComplete (isComplete_append_operator _ op),
      answer_of_not_isComplete (isComplete_append_operator _ op)]

/-- An alternation with a divisor of value zero is refused, however the zero is spelled. -/
theorem answer_of_divisor (h : IsAlternation tokens) {text : String}
    (hdivisor : [.operator .divide, .number text] <:+: tokens)
    (hzero : Numeral.read? scale text = some 0) :
    answer scale settings tokens = .refusal settings.refusal := by
  unfold answer
  split_ifs with hcomplete
  · obtain ⟨chain, rfl⟩ := exists_of_isAlternation h hcomplete
    obtain ⟨cause, hcause⟩ := Chain.exists_evaluate_eq_error_of_divisor
      (Chain.infix_tokens_iff.mp hdivisor) hzero settings.decimals
    rw [hcause]
  · rfl

end Engine

/-! ### With observers attached -/

namespace Session

variable {session : Session} {observer : Nat}

/-- The equals key gives an answer and an observer hears it: the result is put behind the tokens and
the observer is told the new display, or nothing changes and the observer is told a message. Nobody
is told anything else. -/
def Answers (scale : Scale) (session : Session) (observer : Nat) (answer : Answer) : Prop :=
  let outcome := session.step scale (.command .equals)
  match answer with
  | .result text =>
    let tokens := session.engine.tokens ++ [.equals, .number text]
    outcome.session = { session with engine := { session.engine with tokens } } ∧
      outcome.deliveries = [{ observer, notice := .display (Token.display tokens) }]
  | .refusal message =>
    outcome.session = session ∧ outcome.deliveries = [{ observer, notice := .error message }]

/-- The attached observer hears the answer of the engine. -/
theorem answers_of_engine_answers {answer : Answer} (h : session.engine.Answers scale answer)
    (hlistener : session.listener = some observer) : session.Answers scale observer answer := by
  have hsession : (session.step scale (.command .equals)).session =
      { session with engine := (session.engine.insertEquals scale).engine } := rfl
  have hdeliveries : (session.step scale (.command .equals)).deliveries =
      deliver (some observer) (session.engine.insertEquals scale).notices := by
    rw [← hlistener]
    rfl
  cases answer
  all_goals
    obtain ⟨hengine, hnotice⟩ := h
    rw [hengine] at hsession
    rw [hnotice] at hdeliveries
    exact ⟨hsession, hdeliveries⟩

/-- Two engines with the same settings hold numbers and operators in turn, and the one has zeros in
front of some numbers where the other has fewer or none. If all the numbers can be read, the equals
key gives both the same answer. With a divisor of value zero this is the refusal, whether the engine
finds the text `0` or the evaluation finds the value. -/
theorem step_equals_of_zeros_in_front {session other : Session} {observer observer' : Nat}
    (hlistener : session.listener = some observer) (hlistener' : other.listener = some observer')
    (hsettings : other.engine.settings = session.engine.settings)
    (halternation : IsAlternation session.engine.tokens)
    (hreadable : ∀ text, .number text ∈ session.engine.tokens → IsReadable scale text)
    (halike : List.Forall₂ (Token.Alike SameUpToZeros) session.engine.tokens
      other.engine.tokens) :
    ∃ answer, session.Answers scale observer answer ∧ other.Answers scale observer' answer ∧
      ∀ text, [.operator .divide, .number text] <:+: session.engine.tokens →
        Numeral.read? scale text = some 0 → answer = .refusal session.engine.settings.refusal := by
  have hreadAlike : List.Forall₂ (Token.Alike (ReadAlike scale)) session.engine.tokens
      other.engine.tokens :=
    halike.imp fun _ _ htoken => htoken.imp fun _ _ hsame => hsame.readAlike scale
  have hreadable' : ∀ text, .number text ∈ other.engine.tokens → IsReadable scale text := by
    intro text htext
    obtain ⟨_, hmem, hread⟩ := Token.exists_of_mem_of_alike hreadAlike htext
    exact hread.isReadable_iff.mp (hreadable _ hmem)
  have hanswers := Engine.answers_of_isAlternation halternation hreadable
  have hanswers' := Engine.answers_of_isAlternation (halternation.of_alike halike) hreadable'
  rw [hsettings, ← Engine.answer_eq_of_alike halternation hreadAlike] at hanswers'
  refine ⟨_, answers_of_engine_answers hanswers hlistener,
    answers_of_engine_answers hanswers' hlistener', ?_⟩
  intro text hdivisor hzero
  exact Engine.answer_of_divisor halternation hdivisor hzero

/-- `9-1/8/0` is refused before anything is evaluated, and `9-01/8/00` when the evaluation has made
`0.12` of `01/8`. -/
theorem step_equals_of_zeros_in_front_of_zero_divisor :
    let typed (keys : String) (observer : Nat) : Session :=
      { engine := ({} : Engine).run .wrapped (keys.toList.map Command.ofChar)
        listener := some observer }
    let short := typed "9-1/8/0" 3
    let long := typed "9-01/8/00" 5
    Engine.isComplete short.engine.tokens = false ∧ Engine.isComplete long.engine.tokens = true ∧
      short.Answers .wrapped 3 (.refusal "Expression incorrecte") ∧
      long.Answers .wrapped 5 (.refusal "Expression incorrecte") := by
  intro typed short long
  let chain : Chain String :=
    { first := "9", rest := [(.minus, "1"), (.divide, "8"), (.divide, "0")] }
  have hshort : short.engine.tokens = chain.tokens := by decide +kernel
  have hlong : long.engine.tokens = [.number "9", .operator .minus, .number "01",
      .operator .divide, .number "8", .operator .divide, .number "00"] := by decide +kernel
  have hdigits : ∀ text ∈ chain.operands, IsDigits text := by decide
  have hreadable : ∀ text, .number text ∈ short.engine.tokens → IsReadable .wrapped text := by
    intro text htext
    rw [hshort, Chain.number_mem_tokens_iff] at htext
    exact (hdigits text htext).isReadable .wrapped
  have halike : List.Forall₂ (Token.Alike SameUpToZeros) short.engine.tokens
      long.engine.tokens := by
    rw [hshort, hlong]
    exact .cons (.number (.inl rfl)) (.cons (.operator .minus) (.cons (.number (by decide))
      (.cons (.operator .divide) (.cons (.number (.inl rfl)) (.cons (.operator .divide)
        (.cons (.number (by decide)) .nil))))))
  have halternation : IsAlternation short.engine.tokens := hshort ▸ .operand chain
  obtain ⟨answer, hanswer, hanswer', hzero⟩ :=
    step_equals_of_zeros_in_front (show short.listener = some 3 from rfl)
      (show long.listener = some 5 from rfl) rfl halternation hreadable halike
  have hdivisor : [.operator .divide, .number "0"] <:+: short.engine.tokens := by
    rw [hshort, Chain.infix_tokens_iff]
    decide
  have hread : Numeral.read? .wrapped "0" = some 0 := by decide +kernel
  rw [hzero "0" hdivisor hread] at hanswer hanswer'
  exact ⟨by decide +kernel, by decide +kernel, hanswer, hanswer'⟩

end Session

end

end KeypadCalculator
