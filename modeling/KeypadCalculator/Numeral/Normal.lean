import KeypadCalculator.Numeral.Value

/-!
# Normal form and canonical numerals

Many numerals denote one value: `007`, `7.` and `7.00` are all seven. The normal form drops the
zeros that carry nothing, and a canonical numeral is one that has none of them to drop. Results
are always written canonically; typed numbers need not be.

* `Numeral.normal`: the normal form, as an operation on digits.
* `Numeral.IsCanonical`: the property, said without the operation.
* `Numeral.isCanonical_normal`, `Numeral.normal_of_isCanonical`: the operation yields the property,
  and leaves alone what has it.
-/

namespace KeypadCalculator

namespace Numeral

/-- The digits of a whole part without leading zeros, but at least one digit. -/
def trimLeadingZeros (digits : List Char) : List Char :=
  match digits.dropWhile (· = '0') with
  | [] => ['0']
  | kept => kept

/-- The normal form: no leading zeros, no trailing zeros after the point, and a sign only if some
digit is not zero. -/
def normal (n : Numeral) : Numeral where
  negative := n.negative && n.digits.any (· ≠ '0')
  whole := trimLeadingZeros n.whole
  fraction := trimZeros n.fraction

/-- A numeral without superfluous zeros or sign. -/
structure IsCanonical (n : Numeral) : Prop where
  /-- Every digit is an ASCII digit. -/
  isDigit : ∀ c ∈ n.digits, c.isDigit = true
  /-- There is a digit before the point. -/
  whole_ne_nil : n.whole ≠ []
  /-- Only the whole part zero starts with a zero. -/
  head?_whole : n.whole = ['0'] ∨ n.whole.head? ≠ some '0'
  /-- The fraction does not end in a zero. -/
  getLast?_fraction : n.fraction.getLast? ≠ some '0'
  /-- Zero has no sign. -/
  exists_ne_zero : n.negative = true → ∃ c ∈ n.digits, c ≠ '0'

/-- A text that spells a canonical numeral. -/
def IsCanonicalText (text : String) : Prop :=
  ∃ n : Numeral, n.IsCanonical ∧ text.toList = n.text

/-! ## Trimming -/

/-- Trimming zeros at the end adds no character. -/
theorem mem_of_mem_trimZeros {c : Char} {digits : List Char} (h : c ∈ trimZeros digits) :
    c ∈ digits := by
  have h' := (List.dropWhile_sublist (fun c => decide (c = '0'))).mem (List.mem_reverse.mp h)
  exact List.mem_reverse.mp h'

/-- What is left after trimming does not end in a zero. -/
theorem getLast?_trimZeros (digits : List Char) : (trimZeros digits).getLast? ≠ some '0' := by
  intro h
  rw [trimZeros, List.getLast?_reverse] at h
  have hne := List.head?_dropWhile_not (fun c => decide (c = '0')) digits.reverse
  rw [h] at hne
  simp at hne

/-- A sequence that does not end in a zero is left alone. -/
theorem trimZeros_of_getLast?_ne {digits : List Char} (h : digits.getLast? ≠ some '0') :
    trimZeros digits = digits := by
  rw [← List.head?_reverse] at h
  unfold trimZeros
  cases hr : digits.reverse with
  | nil => simpa using hr
  | cons c cs =>
    have hc : ¬c = '0' := by
      rintro rfl
      exact h (by rw [hr]; rfl)
    rw [List.dropWhile_cons_of_neg (by simpa using hc), ← hr, List.reverse_reverse]

/-- Trimming zeros in front leaves at least one digit. -/
theorem trimLeadingZeros_ne_nil (digits : List Char) : trimLeadingZeros digits ≠ [] := by
  unfold trimLeadingZeros
  split
  · simp
  · assumption

/-- Trimming zeros in front adds no character but the zero of an empty whole part. -/
theorem mem_of_mem_trimLeadingZeros {c : Char} {digits : List Char}
    (h : c ∈ trimLeadingZeros digits) : c = '0' ∨ c ∈ digits := by
  unfold trimLeadingZeros at h
  split at h
  · exact .inl (List.mem_singleton.mp h)
  · exact .inr ((List.dropWhile_sublist _).mem h)

/-- What is left after trimming is a single zero or does not start with one. -/
theorem head?_trimLeadingZeros (digits : List Char) :
    trimLeadingZeros digits = ['0'] ∨ (trimLeadingZeros digits).head? ≠ some '0' := by
  unfold trimLeadingZeros
  split
  · exact .inl rfl
  · right
    intro h
    have hne := List.head?_dropWhile_not (fun c => decide (c = '0')) digits
    rw [h] at hne
    simp at hne

/-- Digits that do not start with a superfluous zero are left as they are. -/
theorem trimLeadingZeros_of_head?_ne {digits : List Char} (hnil : digits ≠ [])
    (h : digits = ['0'] ∨ digits.head? ≠ some '0') : trimLeadingZeros digits = digits := by
  rcases h with rfl | h
  · rfl
  · cases digits with
    | nil => exact absurd rfl hnil
    | cons c cs =>
      have hc : ¬c = '0' := by
        rintro rfl
        exact h rfl
      rw [trimLeadingZeros, List.dropWhile_cons_of_neg (by simpa using hc)]

/-- The digits that carry something survive. -/
theorem exists_ne_zero_normal {n : Numeral} (h : ∃ c ∈ n.digits, c ≠ '0') :
    ∃ c ∈ n.normal.digits, c ≠ '0' := by
  obtain ⟨c, hc, hne⟩ := h
  have keep : ∀ digits : List Char, c ∈ digits → c ∈ digits.dropWhile (· = '0') := by
    intro digits hmem
    rw [← List.takeWhile_append_dropWhile (p := fun c => decide (c = '0')) (l := digits)] at hmem
    rcases List.mem_append.mp hmem with hz | hkept
    · exact absurd (of_decide_eq_true (List.all_eq_true.mp List.all_takeWhile c hz)) hne
    · exact hkept
  refine ⟨c, ?_, hne⟩
  rcases List.mem_append.mp hc with hw | hf
  · refine List.mem_append_left _ ?_
    have := keep n.whole hw
    show c ∈ trimLeadingZeros n.whole
    unfold trimLeadingZeros
    split
    · simp_all
    · assumption
  · refine List.mem_append_right _ ?_
    exact List.mem_reverse.mpr (keep _ (List.mem_reverse.mpr hf))

/-! ## The normal form is canonical -/

/-- The normal form of a numeral made of ASCII digits is canonical. -/
theorem isCanonical_normal {n : Numeral} (h : ∀ c ∈ n.digits, c.isDigit = true) :
    n.normal.IsCanonical where
  isDigit c hc := by
    rcases List.mem_append.mp hc with hw | hf
    · rcases mem_of_mem_trimLeadingZeros hw with rfl | hw
      · rfl
      · exact h c (List.mem_append_left _ hw)
    · exact h c (List.mem_append_right _ (mem_of_mem_trimZeros hf))
  whole_ne_nil := trimLeadingZeros_ne_nil _
  head?_whole := head?_trimLeadingZeros _
  getLast?_fraction := getLast?_trimZeros _
  exists_ne_zero hn := by
    apply exists_ne_zero_normal
    simp only [normal, Bool.and_eq_true, List.any_eq_true, decide_eq_true_eq] at hn
    exact hn.2

/-- A canonical numeral is its own normal form. -/
theorem normal_of_isCanonical {n : Numeral} (h : n.IsCanonical) : n.normal = n := by
  have hsign : (n.negative && n.digits.any (· ≠ '0')) = n.negative := by
    cases hn : n.negative with
    | false => rfl
    | true =>
      obtain ⟨c, hc, hne⟩ := h.exists_ne_zero hn
      rw [Bool.true_and, List.any_eq_true]
      exact ⟨c, hc, by simpa using hne⟩
  simp only [normal, hsign, trimLeadingZeros_of_head?_ne h.whole_ne_nil h.head?_whole,
    trimZeros_of_getLast?_ne h.getLast?_fraction]

/-- The normal form of a normal form is itself. -/
theorem normal_normal {n : Numeral} (h : ∀ c ∈ n.digits, c.isDigit = true) :
    n.normal.normal = n.normal :=
  normal_of_isCanonical (isCanonical_normal h)

end Numeral

end KeypadCalculator
