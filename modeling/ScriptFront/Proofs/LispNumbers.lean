import ScriptFront.Number.Layout
import ScriptFront.Proofs.ShortestDecimals
import ScriptFront.Proofs.WellFormedTrees

set_option autoImplicit false

/-! Numbers in Lisp text. The text of a decimal names its value, so that two finite numbers of a source are
written alike only if they are equal. -/

namespace ScriptFront

namespace Decimal

-- The value of digits with a point, or with none: every digit behind the point makes it ten times smaller.
def valueOfText (text : List Char) : ℚ :=
  let whole := text.takeWhile Char.isDigit
  let fraction := text.drop (whole.length + 1)
  Nat.ofDigitChars 10 (whole ++ fraction) 0 * 10 ^ (-(fraction.length : ℤ))

theorem digit_text_digits (d : Decimal) : ∀ c ∈ d.digitText, c.isDigit = true := fun _ member =>
  Nat.isDigit_of_mem_toDigits (by decide) (by decide) member

theorem zeros_digits (n : Nat) : ∀ c ∈ List.replicate n '0', c.isDigit = true := by
  intro c member
  rw [List.eq_of_mem_replicate member]
  rfl

theorem whole_text_digits (d : Decimal) : ∀ c ∈ d.wholeText, c.isDigit = true := by
  unfold wholeText
  split
  · intro c member
    rcases List.mem_append.mp (List.mem_of_mem_take member) with digit | zero
    · exact digit_text_digits d c digit
    · exact zeros_digits _ c zero
  · simp

theorem fraction_text_digits (d : Decimal) : ∀ c ∈ d.fractionText, c.isDigit = true := by
  unfold fractionText
  split
  · exact fun c member => digit_text_digits d c (List.mem_of_mem_drop member)
  · intro c member
    rcases List.mem_append.mp member with zero | digit
    · exact zeros_digits _ c zero
    · exact digit_text_digits d c digit

theorem whole_text_some (d : Decimal) : d.wholeText ≠ [] := by
  have some : 0 < d.digitText.length := Nat.length_toDigits_pos
  unfold wholeText
  split
  · intro none
    have length := congrArg List.length none
    rw [List.length_take, List.length_append, List.length_nil] at length
    omega
  · simp

-- The digits without the point, and how many stand behind it.
theorem digits_of_parts (d : Decimal) :
    Nat.ofDigitChars 10 (d.wholeText ++ d.fractionText) 0 = d.digits * 10 ^ d.exponent.toNat ∧
      d.fractionText.length = (-d.exponent).toNat := by
  have some : 0 < d.digitText.length := Nat.length_toDigits_pos
  have number : Nat.ofDigitChars 10 d.digitText 0 = d.digits := Nat.ofDigitChars_ten_toDigits
  have leading : d.leading = d.exponent + d.digitText.length - 1 := rfl
  unfold wholeText fractionText
  rw [leading]
  generalize d.digitText = digits at some number
  dsimp only
  split
  · by_cases point : d.exponent < 0
    · have none : d.exponent.toNat = 0 := by omega
      rw [none, List.replicate_zero, List.append_nil, List.take_append_drop, List.length_drop]
      exact ⟨by rw [number, Nat.pow_zero, Nat.mul_one], by omega⟩
    · rw [List.take_of_length_le, List.drop_eq_nil_of_le]
      · rw [List.append_nil, Nat.ofDigitChars_append, Nat.ofDigitChars_replicate_zero, number, Nat.mul_comm]
        exact ⟨rfl, by rw [List.length_nil]; omega⟩
      · omega
      · rw [List.length_append, List.length_replicate]
        omega
  · have none : d.exponent.toNat = 0 := by omega
    rw [List.length_append, List.length_replicate, none, ← List.append_assoc, Nat.ofDigitChars_append,
      Nat.ofDigitChars_append, Nat.ofDigitChars_replicate_zero]
    exact ⟨by simpa [Nat.ofDigitChars] using number, by omega⟩

-- A point stands only in front of digits.
theorem plain_text_eq (d : Decimal) :
    d.plainText = d.wholeText ++ (if d.fractionText = [] then [] else '.' :: d.fractionText) := by
  unfold plainText
  split
  · rename_i none
    rw [if_pos none, List.append_nil]
  · rename_i some
    rw [if_neg some]

theorem value_of_plain_text (d : Decimal) : valueOfText d.plainText = d.value := by
  obtain ⟨number, length⟩ := digits_of_parts d
  have whole : d.plainText.takeWhile Char.isDigit = d.wholeText := by
    rw [plain_text_eq, List.takeWhile_append_of_pos (whole_text_digits d)]
    split <;> simp
  have fraction : d.plainText.drop (d.wholeText.length + 1) = d.fractionText := by
    rw [plain_text_eq, List.drop_append]
    split
    · simp [*]
    · simp
  unfold valueOfText value
  rw [whole]
  dsimp only
  rw [fraction, number, length]
  push_cast
  rw [mul_assoc, ← zpow_natCast, ← zpow_add₀ (by norm_num)]
  congr 2
  omega

theorem plain_text_first (d : Decimal) : ∃ c more, d.plainText = c :: more ∧ c.isDigit = true := by
  obtain ⟨c, more, written⟩ := List.exists_cons_of_ne_nil (whole_text_some d)
  have digit := whole_text_digits d c (by rw [written]; exact List.mem_cons_self)
  exact ⟨c, _, by rw [plain_text_eq, written, List.cons_append], digit⟩

theorem plain_text_chars (d : Decimal) : ∀ c ∈ d.plainText, c.isDigit = true ∨ c = '.' := by
  intro c member
  rw [plain_text_eq, List.mem_append] at member
  rcases member with whole | behind
  · exact .inl (whole_text_digits d c whole)
  · split at behind
    · contradiction
    · rcases List.mem_cons.mp behind with point | fraction
      · exact .inr point
      · exact .inl (fraction_text_digits d c fraction)

end Decimal

-- Two finite numbers without a sign that are written alike are equal.
theorem finite_eq_of_text (x y : Finite64) (plain : x.negative = false) (plain' : y.negative = false)
    (same : Binary64.lispText (.finite x) = Binary64.lispText (.finite y)) : x = y := by
  simp only [Binary64.lispText, plain, plain', signText, Bool.false_eq_true, if_false, List.nil_append] at same
  have value : (x.shortest .upward).value = (y.shortest .upward).value := by
    rw [← Decimal.value_of_plain_text, same, Decimal.value_of_plain_text]
  obtain ⟨mantissa, exponent⟩ := Finite64.eq_of_shortest x y .upward value
  cases x
  cases y
  simp_all

end ScriptFront
