import KeypadCalculator.Expression.Chain
import KeypadCalculator.Proofs.Numeral.Canonical
import Mathlib.Data.List.DropRight
import Mathlib.Data.List.Pairwise
import Mathlib.Data.List.SplitBy

/-!
# Texts of keys and their tokens

A text of digits and operators is split into its longest runs. The longest runs of digits, with
every operator on its own, are the tokens that the text spells; the longest runs of operators, each
reduced to its first one, are what is left of a text if no operator may follow another. Both are the
same split, for two properties of characters.

* `runs`: the split, and `exists_runs_concat`: what one more element at the end does to it.
* `squeeze`, `keptKeys`: texts in which no operator follows another.
* `lex`: the tokens of a text.
* `lex_append`, `lex_concat_symbol`, `lex_concat_digit_of_symbol`, `exists_lex_concat_digit`: the
  tokens of a longer text.
* `display_lex`: the tokens of a text display it again.
* `Chain.lex_display_tokens`, `Chain.squeeze_display_tokens`: the display of a chain of digits
  spells the chain, and nothing of it is squeezed.
-/

namespace KeypadCalculator

/-! ## Runs -/

section runs

variable {α : Type} (p : α → Bool)

/-- Splits a list into its longest runs of elements with a property. Every other element is a list
of its own. -/
def runs (l : List α) : List (List α) :=
  l.splitBy fun a b => p a && p b

variable {p} {l m run : List α} {a : α}

/-- Two lists are split apart unless a run goes on from the one into the other. -/
theorem runs_append (h : ∀ a ∈ l.getLast?, ∀ b ∈ m.head?, (p a && p b) = false) :
    runs p (l ++ m) = runs p l ++ runs p m :=
  List.splitBy_append h

/-- A list of elements with the property is one run. -/
theorem runs_of_forall (hnil : run ≠ []) (h : ∀ a ∈ run, p a = true) : runs p run = [run] := by
  apply List.splitBy_of_isChain hnil
  apply List.Pairwise.isChain
  apply List.pairwise_of_forall_mem_list
  intro a ha b hb
  rw [h a ha, h b hb]
  rfl

/-- What is left without the run at the end is split apart from any run. -/
theorem runs_rdropWhile_append (l : List α) (hnil : run ≠ []) (h : ∀ a ∈ run, p a = true) :
    runs p (l.rdropWhile p ++ run) = runs p (l.rdropWhile p) ++ [run] := by
  rw [← runs_of_forall hnil h]
  apply runs_append
  intro c hc d _
  have hne : l.rdropWhile p ≠ [] := by
    intro hdrop
    rw [hdrop] at hc
    cases hc
  rw [List.getLast?_eq_some_getLast hne, Option.mem_some_iff] at hc
  have hnot := List.rdropWhile_last_not p l hne
  rw [hc] at hnot
  rw [Bool.eq_false_iff.mpr hnot]
  rfl

/-- One more element with the property makes the run at the end longer. -/
theorem exists_runs_concat (hb : p b = true) (ha : p a = true) :
    ∃ before run, run ≠ [] ∧ (∀ c ∈ run, p c = true) ∧ runs p (l ++ [b]) = before ++ [run] ∧
      runs p (l ++ [b] ++ [a]) = before ++ [run ++ [a]] := by
  have hsplit : (l ++ [b]).rdropWhile p ++ (l ++ [b]).rtakeWhile p = l ++ [b] :=
    List.rdropWhile_append_rtakeWhile
  have hnil : (l ++ [b]).rtakeWhile p ≠ [] := by
    rw [List.rtakeWhile_concat_pos _ _ _ hb]
    exact List.concat_ne_nil _ _
  have hall : ∀ c ∈ (l ++ [b]).rtakeWhile p, p c = true := fun c hc => List.mem_rtakeWhile_imp hc
  have hall' : ∀ c ∈ (l ++ [b]).rtakeWhile p ++ [a], p c = true :=
    List.forall_mem_append.mpr ⟨hall, List.forall_mem_singleton.mpr ha⟩
  refine ⟨runs p ((l ++ [b]).rdropWhile p), (l ++ [b]).rtakeWhile p, hnil, hall, ?_, ?_⟩
  · rw [← runs_rdropWhile_append (l ++ [b]) hnil hall, hsplit]
  · rw [← runs_rdropWhile_append (l ++ [b]) (List.concat_ne_nil _ _) hall', ← List.append_assoc,
      hsplit]

end runs

/-! ## Keys -/

/-- Whether a character is the symbol of an operator. -/
def Operator.isSymbol (c : Char) : Bool :=
  (Operator.ofText? c.toString).isSome

/-- A key that an expression is typed with: a digit or the symbol of an operator. -/
def IsExpressionKey (c : Char) : Prop :=
  c.isDigit = true ∨ ∃ op : Operator, c = op.symbol

/-- Reduces every longest run of operators to the first of them. -/
def squeeze (keys : List Char) : List Char :=
  (runs Operator.isSymbol keys).filterMap List.head?

/-- What is left of keys if no operator may stand in front or follow another. -/
def keptKeys (keys : List Char) : List Char :=
  squeeze (keys.dropWhile Operator.isSymbol)

/-- The token that a run of digits or a single operator spells. -/
def Token.ofRun (run : List Char) : Token :=
  match Operator.ofText? (String.ofList run) with
  | some op => .operator op
  | none => .number (String.ofList run)

/-- The tokens that keys spell: the longest runs of digits, and the operators between them. -/
def lex (keys : List Char) : List Token :=
  (runs Char.isDigit keys).map Token.ofRun

variable {keys : List Char} {c d : Char}

/-- The text of a character is the list of that character alone. -/
theorem toString_eq_ofList (c : Char) : c.toString = String.ofList [c] := by
  rw [← String.toList_inj]
  simp

/-- The text of its symbol is recognised as the operator. -/
theorem Operator.ofText?_ofList_symbol (op : Operator) :
    Operator.ofText? (String.ofList [op.symbol]) = some op := by
  rw [← toString_eq_ofList]
  exact Operator.ofText?_text op

/-- The symbol of an operator is one. -/
@[simp] theorem Operator.isSymbol_symbol (op : Operator) : Operator.isSymbol op.symbol = true := by
  unfold Operator.isSymbol
  rw [toString_eq_ofList, Operator.ofText?_ofList_symbol]
  rfl

/-- The symbol of an operator is no digit. -/
@[simp] theorem Operator.isDigit_symbol (op : Operator) : op.symbol.isDigit = false := by
  cases op <;> decide

/-- The characters that count as operators are the symbols of the four operators. -/
theorem Operator.isSymbol_iff : Operator.isSymbol c = true ↔ ∃ op : Operator, c = op.symbol := by
  constructor
  · intro h
    obtain ⟨op, hop⟩ := Option.isSome_iff_exists.mp h
    rw [Operator.ofText?_eq_some_iff, toString_eq_ofList, Operator.text, toString_eq_ofList,
      String.ofList_inj] at hop
    exact ⟨op, List.singleton_inj.mp hop⟩
  · rintro ⟨op, rfl⟩
    exact op.isSymbol_symbol

/-- Whether a character is a key of an expression can be decided. -/
instance (c : Char) : Decidable (IsExpressionKey c) :=
  decidable_of_iff (c.isDigit = true ∨ Operator.isSymbol c = true)
    (or_congr_right Operator.isSymbol_iff)

/-- A digit is no operator. -/
theorem isSymbol_of_isDigit (h : c.isDigit = true) : Operator.isSymbol c = false := by
  rw [Bool.eq_false_iff]
  intro hsymbol
  obtain ⟨op, rfl⟩ := Operator.isSymbol_iff.mp hsymbol
  rw [op.isDigit_symbol] at h
  cases h

/-! ## Squeezing -/

/-- Without keys nothing is left. -/
@[simp] theorem squeeze_nil : squeeze [] = [] := rfl

/-- A single key is kept. -/
@[simp] theorem squeeze_singleton (c : Char) : squeeze [c] = [c] := rfl

/-- Texts are squeezed apart unless an operator at the end of one meets an operator of the other. -/
theorem squeeze_append {more : List Char}
    (h : ∀ c ∈ keys.getLast?, ∀ d ∈ more.head?,
      (Operator.isSymbol c && Operator.isSymbol d) = false) :
    squeeze (keys ++ more) = squeeze keys ++ squeeze more := by
  rw [squeeze, runs_append h, List.filterMap_append]
  rfl

/-- A digit parts what is behind it from what is in front. -/
theorem squeeze_concat_digit_append (keys : List Char) (h : c.isDigit = true) (more : List Char) :
    squeeze (keys ++ [c] ++ more) = squeeze (keys ++ [c]) ++ squeeze more := by
  apply squeeze_append
  intro last hlast d _
  rw [List.getLast?_concat, Option.mem_some_iff] at hlast
  rw [← hlast, isSymbol_of_isDigit h, Bool.false_and]

/-- A digit parts what is in front of it from what it starts. -/
theorem squeeze_append_cons_digit (keys : List Char) (h : c.isDigit = true) (more : List Char) :
    squeeze (keys ++ c :: more) = squeeze keys ++ squeeze (c :: more) := by
  apply squeeze_append
  intro last _ d hd
  rw [List.head?_cons, Option.mem_some_iff] at hd
  rw [← hd, isSymbol_of_isDigit h, Bool.and_false]

/-- A digit is kept. -/
theorem squeeze_concat_digit (keys : List Char) (h : c.isDigit = true) :
    squeeze (keys ++ [c]) = squeeze keys ++ [c] :=
  squeeze_append_cons_digit keys h []

/-- An operator behind a digit is kept. -/
theorem squeeze_concat_symbol_of_digit (h : d.isDigit = true) (op : Operator) :
    squeeze (keys ++ [d] ++ [op.symbol]) = squeeze (keys ++ [d]) ++ [op.symbol] :=
  squeeze_concat_digit_append keys h [op.symbol]

/-- Digits are kept. -/
theorem squeeze_digits_append {digits : List Char} (h : ∀ c ∈ digits, c.isDigit = true)
    (more : List Char) : squeeze (digits ++ more) = digits ++ squeeze more := by
  induction digits with
  | nil => rfl
  | cons c digits ih =>
    have hfirst := squeeze_concat_digit_append [] (h c List.mem_cons_self) (digits ++ more)
    rw [List.cons_append, List.cons_append, ← ih fun d hd => h d (List.mem_cons_of_mem _ hd)]
    exact hfirst

/-- An operator behind an operator is not kept, and what is kept before it ends on an operator. -/
theorem exists_squeeze_concat_symbol_of_symbol (keys : List Char) (before op : Operator) :
    ∃ (kept : List Char) (last : Operator),
      squeeze (keys ++ [before.symbol]) = kept ++ [last.symbol] ∧
        squeeze (keys ++ [before.symbol] ++ [op.symbol]) = kept ++ [last.symbol] := by
  obtain ⟨init, run, hnil, hall, hbefore, hafter⟩ :=
    exists_runs_concat (l := keys) before.isSymbol_symbol op.isSymbol_symbol
  obtain ⟨c, run, rfl⟩ := List.exists_cons_of_ne_nil hnil
  obtain ⟨last, rfl⟩ := Operator.isSymbol_iff.mp (hall c List.mem_cons_self)
  refine ⟨init.filterMap List.head?, last, ?_, ?_⟩
  · rw [squeeze, hbefore, List.filterMap_append]
    rfl
  · rw [squeeze, hafter, List.filterMap_append]
    rfl

/-! ## Lexing -/

/-- Without keys there are no tokens. -/
@[simp] theorem lex_nil : lex [] = [] := rfl

/-- Texts are lexed apart unless a digit at the end of one meets a digit of the other. -/
theorem lex_append {more : List Char}
    (h : ∀ c ∈ keys.getLast?, ∀ d ∈ more.head?, (c.isDigit && d.isDigit) = false) :
    lex (keys ++ more) = lex keys ++ lex more := by
  rw [lex, runs_append h, List.map_append]
  rfl

/-- The symbol of an operator spells the operator. -/
theorem Token.ofRun_symbol (op : Operator) : Token.ofRun [op.symbol] = .operator op := by
  unfold Token.ofRun
  rw [op.ofText?_ofList_symbol]

/-- A run that starts with a digit is a number. -/
theorem Token.ofRun_cons_digit (h : c.isDigit = true) (run : List Char) :
    Token.ofRun (c :: run) = .number (String.ofList (c :: run)) := by
  have hnone : Operator.ofText? (String.ofList (c :: run)) = none := by
    rw [Option.eq_none_iff_forall_ne_some]
    intro op hop
    rw [Operator.ofText?_eq_some_iff, Operator.text, toString_eq_ofList, String.ofList_inj] at hop
    obtain ⟨rfl, -⟩ := List.cons.inj hop
    rw [op.isDigit_symbol] at h
    cases h
  unfold Token.ofRun
  rw [hnone]

/-- Digits alone are a number. -/
theorem lex_of_isDigit (hnil : keys ≠ []) (h : ∀ c ∈ keys, c.isDigit = true) :
    lex keys = [.number (String.ofList keys)] := by
  obtain ⟨c, rest, rfl⟩ := List.exists_cons_of_ne_nil hnil
  rw [lex, runs_of_forall hnil h, List.map_singleton,
    Token.ofRun_cons_digit (h c List.mem_cons_self)]

/-- Digits are a number if no digit is behind them. -/
theorem IsDigits.lex_append {text : String} (h : IsDigits text) {more : List Char}
    (hmore : ∀ d ∈ more.head?, d.isDigit = false) :
    lex (text.toList ++ more) = .number text :: lex more := by
  rw [KeypadCalculator.lex_append, lex_of_isDigit h.toList_ne_nil h.isDigit, String.ofList_toList]
  · rfl
  · intro c _ d hd
    rw [hmore d hd, Bool.and_false]

/-- An operator is a token of its own. -/
theorem lex_cons_symbol (op : Operator) (keys : List Char) :
    lex (op.symbol :: keys) = .operator op :: lex keys := by
  rw [← Token.ofRun_symbol, ← List.singleton_append, KeypadCalculator.lex_append]
  · rfl
  · intro c hc d _
    rw [List.getLast?_singleton, Option.mem_some_iff] at hc
    rw [← hc, op.isDigit_symbol, Bool.false_and]

/-- An operator at the end adds its token to those in front of it. -/
theorem lex_concat_symbol (keys : List Char) (op : Operator) :
    lex (keys ++ [op.symbol]) = lex keys ++ [.operator op] := by
  rw [← Token.ofRun_symbol]
  apply lex_append
  intro c _ d hd
  rw [List.head?_cons, Option.mem_some_iff] at hd
  rw [← hd, op.isDigit_symbol, Bool.and_false]

/-- The symbol of an operator alone has the operator as its only token. -/
theorem lex_symbol (op : Operator) : lex [op.symbol] = [.operator op] :=
  lex_concat_symbol [] op

/-- A digit alone has itself as its only token. -/
theorem lex_digit (h : c.isDigit = true) : lex [c] = [.number c.toString] := by
  rw [lex_of_isDigit (List.cons_ne_nil _ _) (List.forall_mem_singleton.mpr h), toString_eq_ofList]

/-- A digit behind an operator starts a number. -/
theorem lex_concat_digit_of_symbol (keys : List Char) (op : Operator) (hc : c.isDigit = true) :
    lex (keys ++ [op.symbol] ++ [c]) = lex keys ++ [.operator op, .number c.toString] := by
  rw [lex_append, lex_concat_symbol, lex_digit hc, List.append_assoc]
  · rfl
  · intro last hlast d _
    rw [List.getLast?_concat, Option.mem_some_iff] at hlast
    rw [← hlast, op.isDigit_symbol, Bool.false_and]

/-- A digit behind a digit makes the number at the end longer. -/
theorem exists_lex_concat_digit (keys : List Char) (hd : d.isDigit = true)
    (hc : c.isDigit = true) :
    ∃ before text, lex (keys ++ [d]) = before ++ [.number text] ∧
      lex (keys ++ [d] ++ [c]) = before ++ [.number (text ++ c.toString)] := by
  obtain ⟨before, run, hnil, hall, hbefore, hafter⟩ := exists_runs_concat (l := keys) hd hc
  obtain ⟨first, run, rfl⟩ := List.exists_cons_of_ne_nil hnil
  have hfirst := hall first List.mem_cons_self
  refine ⟨before.map Token.ofRun, String.ofList (first :: run), ?_, ?_⟩
  · rw [lex, hbefore, List.map_append, List.map_singleton, Token.ofRun_cons_digit hfirst]
  · rw [lex, hafter, List.map_append, List.map_singleton, List.cons_append,
      Token.ofRun_cons_digit hfirst, ← List.cons_append, String.ofList_append, toString_eq_ofList]

/-- The token of a run displays the run. -/
theorem Token.text_ofRun (run : List Char) : (Token.ofRun run).text = String.ofList run := by
  unfold Token.ofRun
  split
  · rename_i op hop
    exact (Operator.ofText?_eq_some_iff.mp hop).symm
  · rfl

/-- The tokens of a text display it again. -/
theorem display_lex (keys : List Char) : Token.display (lex keys) = String.ofList keys := by
  rw [← String.toList_inj, Token.display, String.toList_join, lex, List.map_map, List.flatMap_map,
    String.toList_ofList]
  calc (runs Char.isDigit keys).flatMap (fun run => (Token.ofRun run).text.toList)
      = (runs Char.isDigit keys).flatMap id := by
        simp only [Token.text_ofRun, String.toList_ofList]
        rfl
    _ = (runs Char.isDigit keys).flatten := List.flatMap_id
    _ = keys := List.flatten_splitBy _ _

/-- No text spells an equals sign. -/
theorem equals_not_mem_lex (keys : List Char) : Token.equals ∉ lex keys := by
  intro h
  obtain ⟨run, -, hrun⟩ := List.mem_map.mp h
  unfold Token.ofRun at hrun
  split at hrun
  · cases hrun
  · cases hrun

/-! ## Chains of digits -/

namespace Chain

variable {rest : List (Operator × String)}

/-- The first link is displayed as its symbol and its text, in front of the others. -/
theorem toList_display_linkTokens_cons (op : Operator) (text : String)
    (rest : List (Operator × String)) :
    (Token.display (linkTokens ((op, text) :: rest))).toList =
      op.symbol :: (text.toList ++ (Token.display (linkTokens rest)).toList) := by
  have hop : op.text.toList = [op.symbol] := by
    rw [Operator.text, toString_eq_ofList, String.toList_ofList]
  show (String.join (op.text :: text :: (linkTokens rest).map Token.text)).toList = _
  rw [String.join_cons, String.join_cons, String.toList_append, String.toList_append, hop]
  rfl

/-- The display of links does not start with a digit. -/
theorem head?_display_linkTokens (rest : List (Operator × String)) :
    ∀ d ∈ (Token.display (linkTokens rest)).toList.head?, d.isDigit = false := by
  rcases rest with _ | ⟨⟨op, text⟩, rest⟩
  · intro d hd
    cases hd
  · intro d hd
    rw [toList_display_linkTokens_cons, List.head?_cons, Option.mem_some_iff] at hd
    rw [← hd, op.isDigit_symbol]

/-- The display of links over digits spells their tokens. -/
theorem lex_display_linkTokens (h : ∀ link ∈ rest, IsDigits link.2) :
    lex (Token.display (linkTokens rest)).toList = linkTokens rest := by
  induction rest with
  | nil => rfl
  | cons link rest ih =>
    obtain ⟨op, text⟩ := link
    have htext : IsDigits text := h (op, text) List.mem_cons_self
    rw [toList_display_linkTokens_cons, lex_cons_symbol,
      htext.lex_append (head?_display_linkTokens rest),
      ih fun link hlink => h link (List.mem_cons_of_mem _ hlink)]
    rfl

/-- No operator follows another on the display of links over digits. -/
theorem squeeze_display_linkTokens (h : ∀ link ∈ rest, IsDigits link.2) :
    squeeze (Token.display (linkTokens rest)).toList =
      (Token.display (linkTokens rest)).toList := by
  induction rest with
  | nil => rfl
  | cons link rest ih =>
    obtain ⟨op, text⟩ := link
    have htext : IsDigits text := h (op, text) List.mem_cons_self
    have hrest := ih fun link hlink => h link (List.mem_cons_of_mem _ hlink)
    have hdigits := squeeze_digits_append htext.isDigit (Token.display (linkTokens rest)).toList
    rw [hrest] at hdigits
    obtain ⟨c, digits, hc⟩ := List.exists_cons_of_ne_nil htext.toList_ne_nil
    have hcdigit : c.isDigit = true := htext.isDigit c (by simp [hc])
    rw [hc, List.cons_append] at hdigits
    have hsymbol := squeeze_append_cons_digit [op.symbol] hcdigit
      (digits ++ (Token.display (linkTokens rest)).toList)
    rw [hdigits, squeeze_singleton] at hsymbol
    rw [toList_display_linkTokens_cons, hc]
    exact hsymbol

/-- The display of links over digits has keys of an expression alone. -/
theorem isExpressionKey_of_mem_display_linkTokens (h : ∀ link ∈ rest, IsDigits link.2) :
    ∀ c ∈ (Token.display (linkTokens rest)).toList, IsExpressionKey c := by
  induction rest with
  | nil =>
    intro c hc
    cases hc
  | cons link rest ih =>
    obtain ⟨op, text⟩ := link
    have htext : IsDigits text := h (op, text) List.mem_cons_self
    rw [toList_display_linkTokens_cons, List.forall_mem_cons, List.forall_mem_append]
    refine ⟨.inr ⟨op, rfl⟩, fun c hc => .inl (htext.isDigit c hc), ?_⟩
    exact ih fun link hlink => h link (List.mem_cons_of_mem _ hlink)

variable {chain : Chain String}

/-- A property of all operands is one of the first operand and of every link. -/
theorem forall_operands_iff {P : String → Prop} :
    (∀ text ∈ chain.operands, P text) ↔ P chain.first ∧ ∀ link ∈ chain.rest, P link.2 := by
  rw [operands, List.forall_mem_cons, List.forall_mem_map]

/-- The display of a chain is the first operand in front of the display of its links. -/
theorem toList_display_tokens (chain : Chain String) :
    (Token.display chain.tokens).toList =
      chain.first.toList ++ (Token.display (linkTokens chain.rest)).toList := by
  show (String.join (chain.first :: (linkTokens chain.rest).map Token.text)).toList = _
  rw [String.join_cons, String.toList_append]
  rfl

/-- The display of a chain of digits spells the chain. -/
theorem lex_display_tokens (h : ∀ text ∈ chain.operands, IsDigits text) :
    lex (Token.display chain.tokens).toList = chain.tokens := by
  obtain ⟨hfirst, hrest⟩ := forall_operands_iff.mp h
  rw [toList_display_tokens, hfirst.lex_append (head?_display_linkTokens _),
    lex_display_linkTokens hrest]
  rfl

/-- No operator follows another on the display of a chain of digits. -/
theorem squeeze_display_tokens (h : ∀ text ∈ chain.operands, IsDigits text) :
    squeeze (Token.display chain.tokens).toList = (Token.display chain.tokens).toList := by
  obtain ⟨hfirst, hrest⟩ := forall_operands_iff.mp h
  rw [toList_display_tokens, squeeze_digits_append hfirst.isDigit, squeeze_display_linkTokens hrest]

end Chain

end KeypadCalculator
