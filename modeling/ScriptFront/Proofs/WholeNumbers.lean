import Mathlib.Data.Nat.Log
import Mathlib.Tactic.Ring
import ScriptFront.Json.Scalar

set_option autoImplicit false

/-! Natural numbers as floating-point numbers: those of 64 bits are finite, and those of at most 53 bits
are exact. -/

namespace ScriptFront

theorem log2_moved_up (n shift : Nat) (positive : 0 < n) : (n * 2 ^ shift).log2 = n.log2 + shift := by
  obtain ⟨low, high⟩ := (Nat.log2_eq_iff positive.ne').mp rfl
  refine (Nat.log2_eq_iff (Nat.mul_pos positive (Nat.two_pow_pos shift)).ne').mpr ⟨?_, ?_⟩
  · rw [Nat.pow_add]
    exact Nat.mul_le_mul_right _ low
  · rw [Nat.add_right_comm, Nat.pow_add]
    exact Nat.mul_lt_mul_of_pos_right high (Nat.two_pow_pos shift)

theorem canonical_iff {mantissa : Nat} {exponent : Int} :
    Canonical mantissa exponent ↔ mantissa < 2 ^ 53 ∧ leastExponent ≤ exponent ∧ exponent ≤ greatestExponent ∧
      (2 ^ 52 ≤ mantissa ∨ exponent = leastExponent) :=
  Iff.rfl

-- The unit of a natural number is the one in which it has 53 bits.
theorem unit_exponent_natural (n : Nat) (positive : 0 < n) : unitExponent n 1 = (n.log2 : Int) - 52 := by
  obtain ⟨low, high⟩ := (Nat.log2_eq_iff positive.ne').mp rfl
  have one : (1 : Nat).log2 = 0 := by decide
  have many : ¬ (n <<< (-((n.log2 : Int) - 53)).toNat) / (1 <<< ((n.log2 : Int) - 53).toNat) < 2 ^ 53 := by
    rw [Nat.shiftLeft_eq, Nat.shiftLeft_eq, Nat.one_mul, Nat.not_lt]
    by_cases small : n.log2 ≤ 53
    · have up : (-((n.log2 : Int) - 53)).toNat = 53 - n.log2 := by omega
      have down : ((n.log2 : Int) - 53).toNat = 0 := by omega
      rw [up, down, Nat.pow_zero, Nat.div_one]
      calc 2 ^ 53 = 2 ^ n.log2 * 2 ^ (53 - n.log2) := by rw [← Nat.pow_add]; congr 1; omega
        _ ≤ n * 2 ^ (53 - n.log2) := Nat.mul_le_mul_right _ low
    · have up : (-((n.log2 : Int) - 53)).toNat = 0 := by omega
      have down : ((n.log2 : Int) - 53).toNat = n.log2 - 53 := by omega
      rw [up, down, Nat.pow_zero, Nat.mul_one, Nat.le_div_iff_mul_le (Nat.two_pow_pos _), ← Nat.pow_add]
      have sum : 53 + (n.log2 - 53) = n.log2 := by omega
      rwa [sum]
  unfold unitExponent
  simp only [one, Int.natCast_zero, Int.sub_zero, Nat.pow_eq]
  rw [if_neg many]
  unfold leastExponent
  omega

namespace Binary64

theorem nearest_quotient_one (n : Nat) : nearestQuotient n 1 = n := by
  simp [nearestQuotient, Nat.mod_one]

theorem nearest_quotient_bounds (n d : Nat) :
    n / d ≤ nearestQuotient n d ∧ nearestQuotient n d ≤ n / d + 1 := by
  unfold nearestQuotient
  dsimp only
  split <;> omega

theorem finite_of_parts (negative : Bool) (mantissa : Nat) (exponent : Int)
    (fits : Canonical mantissa exponent) :
    ofParts negative mantissa exponent = .finite ⟨negative, mantissa, exponent, fits⟩ := by
  unfold ofParts
  rw [dif_pos fits]

-- A natural number of at most 53 bits, moved up to 53 bits.
theorem moved_up_bounds (n : Nat) (positive : 0 < n) (small : n < 2 ^ 53) :
    2 ^ 52 ≤ n * 2 ^ (52 - n.log2) ∧ n * 2 ^ (52 - n.log2) < 2 ^ 53 := by
  have bits : n.log2 < 53 := (Nat.log2_lt positive.ne').mpr small
  have moved : (n * 2 ^ (52 - n.log2)).log2 = 52 := by
    rw [log2_moved_up n _ positive]
    omega
  exact (Nat.log2_eq_iff (Nat.mul_pos positive (Nat.two_pow_pos _)).ne').mp moved

-- A natural number of 53 bits is written in its unit without rounding.
theorem nearest_exact (negative : Bool) (n : Nat) (positive : 0 < n) (small : n < 2 ^ 53) :
    nearest negative n 1 = ofParts negative (n * 2 ^ (52 - n.log2)) ((n.log2 : Int) - 52) := by
  have bound := (moved_up_bounds n positive small).2
  have bits : n.log2 < 53 := (Nat.log2_lt positive.ne').mpr small
  have up : (-((n.log2 : Int) - 52)).toNat = 52 - n.log2 := by omega
  have down : ((n.log2 : Int) - 52).toNat = 0 := by omega
  unfold nearest
  rw [if_neg (by omega), unit_exponent_natural n positive]
  dsimp only [Nat.pow_eq]
  rw [up, down, Nat.shiftLeft_eq, Nat.shiftLeft_zero, nearest_quotient_one, if_neg (by omega)]

theorem canonical_exact (n : Nat) (positive : 0 < n) (small : n < 2 ^ 53) :
    Canonical (n * 2 ^ (52 - n.log2)) ((n.log2 : Int) - 52) := by
  obtain ⟨least, bound⟩ := moved_up_bounds n positive small
  have bits : n.log2 < 53 := (Nat.log2_lt positive.ne').mpr small
  exact canonical_iff.mpr ⟨bound, by unfold leastExponent; omega, by unfold greatestExponent; omega, .inl least⟩

-- A natural number of at most 1023 bits does not round to an infinity.
theorem nearest_finite (negative : Bool) (n : Nat) (small : n.log2 ≤ 1022) :
    (nearest negative n 1).isFinite = true := by
  by_cases none : n = 0
  · unfold nearest
    rw [if_pos none]
    rfl
  · have positive : 0 < n := by omega
    obtain ⟨low, high⟩ := (Nat.log2_eq_iff positive.ne').mp rfl
    by_cases exact_ : n < 2 ^ 53
    · rw [nearest_exact negative n positive exact_, finite_of_parts _ _ _ (canonical_exact n positive exact_)]
      rfl
    · have bits : 53 ≤ n.log2 := (Nat.le_log2 none).mpr (by omega)
      have up : (-((n.log2 : Int) - 52)).toNat = 0 := by omega
      have down : ((n.log2 : Int) - 52).toNat = n.log2 - 52 := by omega
      have least : 2 ^ 52 ≤ n / 2 ^ (n.log2 - 52) := by
        rw [Nat.le_div_iff_mul_le (Nat.two_pow_pos _), ← Nat.pow_add]
        have sum : 52 + (n.log2 - 52) = n.log2 := by omega
        rwa [sum]
      have bound : n / 2 ^ (n.log2 - 52) < 2 ^ 53 := by
        rw [Nat.div_lt_iff_lt_mul (Nat.two_pow_pos _), ← Nat.pow_add]
        have sum : 53 + (n.log2 - 52) = n.log2 + 1 := by omega
        rwa [sum]
      have near := nearest_quotient_bounds n (2 ^ (n.log2 - 52))
      unfold nearest
      rw [if_neg none, unit_exponent_natural n positive]
      dsimp only [Nat.pow_eq]
      rw [up, down, Nat.shiftLeft_zero, Nat.shiftLeft_eq, Nat.one_mul]
      split
      · rename_i round
        rw [finite_of_parts]
        · rfl
        · exact canonical_iff.mpr ⟨by decide, by unfold leastExponent; omega, by unfold greatestExponent; omega,
            .inl (Nat.le_refl _)⟩
      · rename_i round
        rw [finite_of_parts]
        · rfl
        · exact canonical_iff.mpr ⟨by omega, by unfold leastExponent; omega, by unfold greatestExponent; omega,
            .inl (by omega)⟩

-- Integers of 64 bits are finite.
theorem of_integer_finite (whole : Integer64) : (ofInt whole.value).isFinite = true := by
  apply nearest_finite
  have small : whole.value.natAbs < 2 ^ 65 := by
    have fits := whole.fits
    omega
  by_cases none : whole.value.natAbs = 0
  · rw [none]
    decide
  · have bits := (Nat.log2_lt none).mpr small
    omega

end Binary64

namespace Finite64

theorem same_refl (x : Finite64) : x.same x = true := by
  simp [same]

-- One of the two powers is 1.
theorem product_of_magnitude (x : Finite64) (value : Nat) (whole : x.magnitude? = some value) :
    x.mantissa * 2 ^ x.exponent.toNat = value * 2 ^ (-x.exponent).toNat := by
  unfold magnitude? at whole
  dsimp only [Nat.pow_eq] at whole
  split at whole
  · rename_i divides
    injection whole with same
    rw [← same, Nat.mul_right_comm, Nat.div_mul_cancel (Nat.dvd_of_mod_eq_zero divides)]
  · contradiction

-- The unit of a natural number of at most 53 bits is 1 or a fraction of it.
theorem exponent_of_magnitude (x : Finite64) (value : Nat) (whole : x.magnitude? = some value)
    (small : value < 2 ^ 53) : x.exponent ≤ 0 := by
  by_contra great
  obtain ⟨_, _, _, normal⟩ := canonical_iff.mp x.canonical
  have least : 2 ^ 52 ≤ x.mantissa := by
    unfold leastExponent at normal
    omega
  have two : 2 ^ 1 ≤ 2 ^ x.exponent.toNat := Nat.pow_le_pow_right (by decide) (by omega)
  have large := Nat.mul_le_mul least two
  have unit : (-x.exponent).toNat = 0 := by omega
  rw [product_of_magnitude x value whole, unit] at large
  omega

-- The parts of a number that is a positive natural number of 53 bits.
theorem parts_of_magnitude (x : Finite64) (value : Nat) (whole : x.magnitude? = some value)
    (positive : 0 < value) (small : value < 2 ^ 53) :
    x.mantissa = value * 2 ^ (52 - value.log2) ∧ x.exponent = (value.log2 : Int) - 52 := by
  obtain ⟨below, _, _, normal⟩ := canonical_iff.mp x.canonical
  have low := exponent_of_magnitude x value whole small
  have product := product_of_magnitude x value whole
  have unit : x.exponent.toNat = 0 := by omega
  rw [unit, Nat.pow_zero, Nat.mul_one] at product
  have least : 2 ^ 52 ≤ x.mantissa := by
    rcases normal with normal | subnormal
    · exact normal
    · have many : 53 ≤ (-x.exponent).toNat := by
        unfold leastExponent at subnormal
        omega
      have large : 2 ^ 53 ≤ 2 ^ (-x.exponent).toNat := Nat.pow_le_pow_right (by decide) many
      have multiple := Nat.le_mul_of_pos_left (2 ^ (-x.exponent).toNat) positive
      omega
  -- The number has 53 bits, and so many more than the value as it is moved up.
  have bits : x.mantissa.log2 = 52 := (Nat.log2_eq_iff (by omega)).mpr ⟨least, below⟩
  have bits' := log2_moved_up value (-x.exponent).toNat positive
  rw [← product] at bits'
  have shift : (-x.exponent).toNat = 52 - value.log2 := by omega
  rw [shift] at product
  exact ⟨product, by omega⟩

theorem zero_of_magnitude (x : Finite64) (whole : x.magnitude? = some 0) : x.isZero = true := by
  have product := product_of_magnitude x 0 whole
  rw [Nat.zero_mul] at product
  rcases Nat.mul_eq_zero.mp product with none | none
  · rw [isZero, none, beq_self_eq_true]
  · exact absurd none (Nat.two_pow_pos _).ne'

-- An integer of at most 53 bits stands for its number, up to the sign of zero.
theorem of_safe_integer (x : Finite64) (i : Int) (safe : x.safeInteger? = some i) :
    ∃ y, Binary64.ofInt i = .finite y ∧ y.same x = true := by
  obtain ⟨value, whole, rest⟩ := Option.bind_eq_some_iff.mp safe
  split at rest
  · rename_i bound
    injection rest with signed
    by_cases none : value = 0
    · subst none
      have zero : i = 0 := by rw [← signed]; simp
      have empty := zero_of_magnitude x whole
      refine ⟨.zero false, by rw [zero]; rfl, ?_⟩
      simp only [same, empty, Bool.and_true, Bool.or_eq_true]
      exact .inr rfl
    · have positive : 0 < value := by omega
      have small : value < 2 ^ 53 := by simp only [greatestSafe, Nat.pow_eq] at bound; omega
      obtain ⟨mantissa, exponent⟩ := parts_of_magnitude x value whole positive small
      have size : i.natAbs = value := by rw [← signed]; split <;> omega
      have sign : decide (i < 0) = x.negative := by
        rw [← signed]
        cases x.negative with
        | false => simp
        | true => simpa using positive
      refine ⟨x, ?_, same_refl x⟩
      unfold Binary64.ofInt
      rw [size, sign, Binary64.nearest_exact _ value positive small, ← mantissa, ← exponent,
        Binary64.finite_of_parts _ _ _ x.canonical]
  · contradiction

end Finite64

-- A finite number that is written as a JSON value is read back.
theorem Json.as_number_of_number (x : Binary64) (finite : x.isFinite = true) :
    ∃ y, (Json.ofNumber x).asNumber = .ok y ∧ (y == x) = true := by
  cases x with
  | nan => contradiction
  | infinite negative => contradiction
  | finite x =>
      unfold Json.ofNumber
      dsimp only
      cases found : x.safeInteger?.bind Integer64.ofInt? with
      | none => exact ⟨.finite x, rfl, Finite64.same_refl x⟩
      | some whole =>
          obtain ⟨i, safe, fits⟩ := Option.bind_eq_some_iff.mp found
          have value : whole.value = i := by
            unfold Integer64.ofInt? at fits
            split at fits
            · injection fits with same
              rw [← same]
            · contradiction
          obtain ⟨y, exact_, same⟩ := Finite64.of_safe_integer x i safe
          refine ⟨.finite y, ?_, same⟩
          change Except.ok (Binary64.ofInt whole.value) = _
          rw [value, exact_]

-- What is read as a number is finite.
theorem Json.as_number_finite (v : Json) (x : Binary64) (read : v.asNumber = .ok x) :
    x.isFinite = true := by
  cases v with
  | integer whole =>
      injection read with same
      rw [← same]
      exact Binary64.of_integer_finite whole
  | float y =>
      injection read with same
      rw [← same]
      rfl
  | _ => contradiction

end ScriptFront
