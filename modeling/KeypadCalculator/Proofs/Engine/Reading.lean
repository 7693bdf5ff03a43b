import KeypadCalculator.Proofs.Engine.Equals
import KeypadCalculator.Proofs.Token.Lexing

/-!
# Reading the display

The display puts the texts of the tokens next to each other, and a minus sign on it may be an
operator or the sign of a result: `2-5=-3`, and then `-3-5`. On arbitrary tokens that is ambiguous.
On what digit keys can bring about it is not, because a sign stands only where a number must come,
in front of everything or behind the equals sign. The tokens can therefore be read off the display:
the longest numeral in front is the first operand, what follows up to an equals sign is split into
digits and operators, and what is behind the equals sign is the result.

* `IsResultText`: what results look like, and `Chain.HasResult.isResultText`: all of them do.
* `splitNumeral_append`: the numeral in front of a text.
* `Token.readDisplay`, `Engine.Shape.readDisplay_display`: reading undoes displaying.
* `Engine.tokens_eq_of_display_eq`: two engines that show the same hold the same.
-/

namespace KeypadCalculator

/-! ## Texts of results -/

/-- A text of a result: a canonical numeral that has no more decimals than an engine can be set
to. -/
def IsResultText (text : String) : Prop :=
  ∃ n : Numeral, n.IsCanonical ∧ n.fraction.length ≤ maxDecimals ∧ text.toList = n.text

/-- Every result is written as a canonical numeral. -/
theorem Chain.HasResult.isResultText {scale : Scale} {chain : Chain String} {text : String}
    (h : chain.HasResult scale text) : IsResultText text := by
  obtain ⟨decimals, hdecimals, r, rfl⟩ := h.exists_write
  let units := Numeral.roundedUnits scale decimals r
  refine ⟨Numeral.ofUnits scale decimals units, Numeral.isCanonical_ofUnits _ _ _, ?_,
    Numeral.toList_write scale decimals r⟩
  exact (Numeral.length_fraction_ofUnits_le scale decimals units).trans hdecimals

/-! ## The numeral in front of a text -/

/-- A character of a numeral behind its sign. -/
def isNumeralChar (c : Char) : Bool :=
  c.isDigit || c == '.'

/-- Characters that may be those of a numeral: digits and points, with one sign in front of them at
most. -/
inductive IsSigned : List Char → Prop where
  /-- There is no sign. -/
  | unsigned {body : List Char} (hnil : body ≠ []) (h : ∀ c ∈ body, isNumeralChar c = true) :
      IsSigned body
  /-- There is a sign. -/
  | minus {body : List Char} (h : ∀ c ∈ body, isNumeralChar c = true) : IsSigned ('-' :: body)

/-- Splits the longest numeral off a text, with the sign that stands in front of it. -/
def splitNumeral : List Char → List Char × List Char
  | '-' :: rest => ('-' :: rest.takeWhile isNumeralChar, rest.dropWhile isNumeralChar)
  | text => (text.takeWhile isNumeralChar, text.dropWhile isNumeralChar)

/-- A digit is a character of a numeral. -/
theorem isNumeralChar_of_isDigit {c : Char} (h : c.isDigit = true) : isNumeralChar c = true := by
  rw [isNumeralChar, h, Bool.true_or]

/-- The sign is not one of the characters behind it. -/
theorem ne_minus_of_isNumeralChar {c : Char} (h : isNumeralChar c = true) : c ≠ '-' := by
  rintro rfl
  exact absurd h (by decide)

/-- No operator is a character of a numeral behind its sign. -/
@[simp] theorem Operator.isNumeralChar_symbol (op : Operator) :
    isNumeralChar op.symbol = false := by
  cases op <;> decide

/-- Digits are the characters of a numeral without a sign. -/
theorem IsDigits.isSigned {text : String} (h : IsDigits text) : IsSigned text.toList :=
  .unsigned h.toList_ne_nil fun c hc => isNumeralChar_of_isDigit (h.isDigit c hc)

/-- A text of a result has the characters of a numeral. -/
theorem IsResultText.isSigned {text : String} (h : IsResultText text) : IsSigned text.toList := by
  obtain ⟨n, hcanonical, -, htext⟩ := h
  have hbody : ∀ c ∈ n.whole ++ Numeral.fractionText n.fraction, isNumeralChar c = true := by
    have hwhole : ∀ c ∈ n.whole, isNumeralChar c = true := fun c hc =>
      isNumeralChar_of_isDigit (hcanonical.isDigit c (List.mem_append_left _ hc))
    have hfraction : ∀ c ∈ n.fraction, isNumeralChar c = true := fun c hc =>
      isNumeralChar_of_isDigit (hcanonical.isDigit c (List.mem_append_right _ hc))
    refine List.forall_mem_append.mpr ⟨hwhole, ?_⟩
    unfold Numeral.fractionText
    split
    · exact List.forall_mem_nil _
    · exact List.forall_mem_cons.mpr ⟨rfl, hfraction⟩
  have hne : n.whole ++ Numeral.fractionText n.fraction ≠ [] :=
    List.append_ne_nil_of_left_ne_nil hcanonical.whole_ne_nil _
  rw [htext, Numeral.text_eq_signText_append]
  cases n.negative with
  | true => exact .minus hbody
  | false => exact .unsigned hne hbody

/-- A list is split behind its longest beginning with a property. -/
theorem takeWhile_dropWhile_append {p : Char → Bool} {first : List Char}
    (hfirst : ∀ c ∈ first, p c = true) (more : List Char) (hmore : ∀ d ∈ more.head?, p d = false) :
    (first ++ more).takeWhile p = first ∧ (first ++ more).dropWhile p = more := by
  rw [List.takeWhile_append_of_pos hfirst, List.dropWhile_append_of_pos hfirst]
  cases more with
  | nil => exact ⟨List.append_nil _, rfl⟩
  | cons d more =>
    have hd : ¬p d = true := Bool.eq_false_iff.mp (hmore d rfl)
    rw [List.takeWhile_cons_of_neg hd, List.dropWhile_cons_of_neg hd]
    exact ⟨List.append_nil _, rfl⟩

/-- The numeral in front of a text is what is split off it. -/
theorem splitNumeral_append {first more : List Char} (hfirst : IsSigned first)
    (hmore : ∀ d ∈ more.head?, isNumeralChar d = false) :
    splitNumeral (first ++ more) = (first, more) := by
  cases hfirst with
  | minus hbody =>
    obtain ⟨htake, hdrop⟩ := takeWhile_dropWhile_append hbody more hmore
    rw [List.cons_append, splitNumeral, htake, hdrop]
  | unsigned hnil hbody =>
    obtain ⟨htake, hdrop⟩ := takeWhile_dropWhile_append hbody more hmore
    obtain ⟨c, body, rfl⟩ := List.exists_cons_of_ne_nil hnil
    have hc : c ≠ '-' := ne_minus_of_isNumeralChar (hbody c List.mem_cons_self)
    rw [splitNumeral, htake, hdrop]
    intro rest hrest
    exact hc (List.cons.inj hrest).1

/-! ## Reading -/

/-- The tokens of what stands behind the first operand: digits and operators, and a result if there
is an equals sign. -/
def Token.readBehind (text : List Char) : List Token :=
  lex (text.takeWhile (· ≠ '=')) ++
    match text.dropWhile (· ≠ '=') with
    | [] => []
    | _ :: result => [.equals, .number (String.ofList result)]

/-- The tokens of a display. -/
def Token.readDisplay (text : List Char) : List Token :=
  match splitNumeral text with
  | ([], _) => []
  | (first, rest) => .number (String.ofList first) :: readBehind rest

/-- A numeral in front is read as a number, and the rest by itself. -/
theorem Token.readDisplay_append {first : String} {more : List Char}
    (hfirst : IsSigned first.toList) (hmore : ∀ d ∈ more.head?, isNumeralChar d = false) :
    readDisplay (first.toList ++ more) = .number first :: readBehind more := by
  have hne : first.toList ≠ [] := by
    intro hnil
    rw [hnil] at hfirst
    cases hfirst with
    | unsigned hnil _ => exact hnil rfl
  unfold readDisplay
  rw [splitNumeral_append hfirst hmore]
  split
  · rename_i heq
    exact absurd (congrArg Prod.fst heq) hne
  · rename_i heq
    obtain ⟨rfl, rfl⟩ := Prod.mk.inj heq
    rw [String.ofList_toList]

/-- Digits and operators are split into their tokens, and what is behind an equals sign is taken as
it is. -/
theorem Token.readBehind_of_isExpressionKey {keys : List Char}
    (h : ∀ c ∈ keys, IsExpressionKey c) :
    readBehind keys = lex keys ∧
      ∀ result : String,
        readBehind (keys ++ '=' :: result.toList) = lex keys ++ [.equals, .number result] := by
  have hkeys : ∀ c ∈ keys, decide (c ≠ '=') = true := by
    intro c hc
    rw [decide_eq_true_eq]
    rintro rfl
    exact absurd (h '=' hc) (by decide)
  refine ⟨?_, fun result => ?_⟩
  · obtain ⟨htake, hdrop⟩ := takeWhile_dropWhile_append hkeys [] (by simp)
    rw [List.append_nil] at htake hdrop
    rw [readBehind, htake, hdrop]
    exact List.append_nil _
  · obtain ⟨htake, hdrop⟩ := takeWhile_dropWhile_append hkeys ('=' :: result.toList) (by simp)
    rw [readBehind, htake, hdrop]
    simp only [String.ofList_toList]

/-! ## Reading what is displayed -/

section display

variable {scale : Scale} {chain : Chain String}

/-- The display of a chain with an ending has three parts. -/
theorem Chain.toList_display_append (chain : Chain String) (ending : List Token) :
    (Token.display (chain.tokens ++ ending)).toList =
      chain.first.toList ++
        ((Token.display (linkTokens chain.rest)).toList ++ (Token.display ending).toList) := by
  rw [Token.display_append, String.toList_append, chain.toList_display_tokens, List.append_assoc]

/-- Behind the first operand comes an operator, or what is behind the chain. -/
theorem Chain.isNumeralChar_of_mem_head? (rest : List (Operator × String)) {ending : List Char}
    (h : ∀ d ∈ ending.head?, isNumeralChar d = false) :
    ∀ d ∈ ((Token.display (linkTokens rest)).toList ++ ending).head?, isNumeralChar d = false := by
  rcases rest with _ | ⟨⟨op, text⟩, rest⟩
  · exact h
  · intro d hd
    rw [toList_display_linkTokens_cons, List.cons_append, List.head?_cons,
      Option.mem_some_iff] at hd
    rw [← hd, op.isNumeralChar_symbol]

/-- The first operand is the only one with a sign. -/
theorem Chain.IsEntered.isSigned_first (h : chain.IsEntered scale IsDigits) :
    IsSigned chain.first.toList :=
  h.forall_operands (fun _ hdigits => hdigits.isSigned)
    (fun _ _ hresult => hresult.isResultText.isSigned) _ List.mem_cons_self

/-- Reading the display of a chain, and of what stands behind it. -/
theorem Chain.IsEntered.readDisplay_display_append (h : chain.IsEntered scale IsDigits)
    (ending : List Token)
    (hending : ∀ d ∈ (Token.display ending).toList.head?, isNumeralChar d = false) :
    Token.readDisplay (Token.display (chain.tokens ++ ending)).toList =
      .number chain.first ::
        Token.readBehind
          ((Token.display (linkTokens chain.rest)).toList ++ (Token.display ending).toList) := by
  rw [chain.toList_display_append]
  exact Token.readDisplay_append h.isSigned_first (isNumeralChar_of_mem_head? chain.rest hending)

/-- Reading the display of what the engine holds gives the tokens back. -/
theorem Engine.Shape.readDisplay_display {tokens : List Token}
    (h : Shape scale IsDigits tokens) :
    Token.readDisplay (Token.display tokens).toList = tokens := by
  cases h with
  | blank => rfl
  | @operand chain entered single =>
    have hkeys := Chain.isExpressionKey_of_mem_display_linkTokens entered.rest
    have hread := entered.readDisplay_display_append [] (by simp)
    rw [List.append_nil, Token.display_nil, String.toList_empty, List.append_nil] at hread
    rw [hread, (Token.readBehind_of_isExpressionKey hkeys).1,
      Chain.lex_display_linkTokens entered.rest]
    rfl
  | @operator chain entered op =>
    have hending : (Token.display [.operator op]).toList = [op.symbol] := by
      cases op <;> rfl
    have hkeys : ∀ c ∈ (Token.display (Chain.linkTokens chain.rest)).toList ++ [op.symbol],
        IsExpressionKey c :=
      List.forall_mem_append.mpr ⟨Chain.isExpressionKey_of_mem_display_linkTokens entered.rest,
        List.forall_mem_singleton.mpr (.inr ⟨op, rfl⟩)⟩
    rw [entered.readDisplay_display_append [.operator op] (by simp [hending]), hending,
      (Token.readBehind_of_isExpressionKey hkeys).1, lex_concat_symbol,
      Chain.lex_display_linkTokens entered.rest]
    rfl
  | @result chain text entered hasResult =>
    have hkeys := Chain.isExpressionKey_of_mem_display_linkTokens entered.rest
    have hending : (Token.display [.equals, .number text]).toList = '=' :: text.toList := by
      show (String.join ["=", text]).toList = _
      rw [String.join_cons, String.join_cons, String.join_nil, String.append_empty,
        String.toList_append]
      rfl
    rw [entered.readDisplay_display_append [.equals, .number text]
        (by rw [hending]; simp [isNumeralChar]), hending,
      (Token.readBehind_of_isExpressionKey hkeys).2, Chain.lex_display_linkTokens entered.rest]
    rfl

end display

namespace Engine

/-- The display determines the expression. If single digits are typed for numbers, then two engines
that show the same hold the same tokens, whatever was done to get there. -/
theorem tokens_eq_of_display_eq (scale : Scale) (refusal refusal' : String)
    (values values' : List Nat) {commands commands' : List Command}
    (hdigits : ∀ text, .digits text ∈ commands → ∃ c : Char, c.isDigit = true ∧ text = c.toString)
    (hdigits' : ∀ text, .digits text ∈ commands' →
      ∃ c : Char, c.isDigit = true ∧ text = c.toString) :
    let settings : Settings := values.foldl Settings.setDecimals { refusal }
    let settings' : Settings := values'.foldl Settings.setDecimals { refusal := refusal' }
    let engine : Engine := ({ settings } : Engine).run scale commands
    let engine' : Engine := ({ settings := settings' } : Engine).run scale commands'
    engine.display = engine'.display → engine.tokens = engine'.tokens := by
  intro settings settings' engine engine' hdisplay
  have h : engine.WellFormed scale IsDigits := wellFormed_of_digit_keys refusal values hdigits
  have h' : engine'.WellFormed scale IsDigits := wellFormed_of_digit_keys refusal' values' hdigits'
  calc engine.tokens
      = Token.readDisplay engine.display.toList := h.shape.readDisplay_display.symm
    _ = Token.readDisplay engine'.display.toList := by rw [hdisplay]
    _ = engine'.tokens := h'.shape.readDisplay_display

/-- `1/2-4=-5` and `+9/2-8==-*5` both show `-3.5-5`: the result `-3.5` and a subtraction. -/
theorem tokens_eq_of_display_eq_of_negative_result :
    let commands := "1/2-4=-5".toList.map Command.ofChar
    let commands' := "+9/2-8==-*5".toList.map Command.ofChar
    let engine : Engine := ({} : Engine).run .wrapped commands
    let engine' : Engine := ({} : Engine).run .wrapped commands'
    commands ≠ commands' ∧ engine.display = "-3.5-5" ∧ engine'.display = "-3.5-5" ∧
      engine.tokens = engine'.tokens := by
  intro commands commands' engine engine'
  have hdigits : ∀ keys : List Char, ∀ text, .digits text ∈ keys.map Command.ofChar →
      ∃ c : Char, c.isDigit = true ∧ text = c.toString :=
    fun _ _ => Command.exists_digit_of_mem_map_ofChar
  have hengine : engine.display = "-3.5-5" := by decide +kernel
  have hengine' : engine'.display = "-3.5-5" := by decide +kernel
  refine ⟨by decide +kernel, hengine, hengine', ?_⟩
  exact tokens_eq_of_display_eq .wrapped "Expression incorrecte" "Expression incorrecte" [] []
    (hdigits _) (hdigits _) (hengine.trans hengine'.symm)

end Engine

end KeypadCalculator
