import Mathlib.Algebra.Order.Field.Power
import Mathlib.Algebra.Order.Field.Rat
import Mathlib.Tactic.Linarith
import Mathlib.Tactic.Positivity
import Mathlib.Tactic.Ring
import ScriptFront.Proofs.WholeNumbers
import ScriptFront.Number.Shortest

set_option autoImplicit false

/-! The shortest decimal of a number is read back as that number: the finest grid of the search has a point
that is, and of two numbers no decimal is read as both. -/

namespace ScriptFront

def Decimal.value (d : Decimal) : ℚ :=
  d.digits * 10 ^ d.exponent

namespace Finite64

-- A value is read as a magnitude if it is between the bounds, and at a bound only if the mantissa is even.
structure Reads (x : Finite64) (value : ℚ) : Prop where
  lower : x.lowerQuarters * 2 ^ x.exponent ≤ 4 * value
  upper : 4 * value ≤ x.upperQuarters * 2 ^ x.exponent
  odd : x.mantissa % 2 = 1 →
    x.lowerQuarters * 2 ^ x.exponent < 4 * value ∧ 4 * value < x.upperQuarters * 2 ^ x.exponent

-- The unit of a number in steps of a grid.
theorem unit_on_eq (x : Finite64) (step : Int) :
    ((x.unitOn step).1 : ℚ) * 10 ^ step = 2 ^ x.exponent * (x.unitOn step).2 := by
  have split (base : ℚ) (some : base ≠ 0) (e : Int) : base ^ e * base ^ (-e).toNat = base ^ e.toNat := by
    rw [← zpow_natCast, ← zpow_natCast, ← zpow_add₀ some]
    congr 1
    omega
  have two := split 2 (by norm_num) x.exponent
  have ten := split 10 (by norm_num) step
  unfold unitOn
  simp only [Nat.pow_eq]
  push_cast
  rw [← two, ← ten]
  ring

theorem unit_on_pos (x : Finite64) (step : Int) : 0 < (x.unitOn step).1 ∧ 0 < (x.unitOn step).2 :=
  ⟨Nat.mul_pos (Nat.pow_pos (by decide)) (Nat.pow_pos (by decide)),
    Nat.mul_pos (Nat.pow_pos (by decide)) (Nat.pow_pos (by decide))⟩

-- A bound in steps of a grid, and in units.
theorem bound_on (x : Finite64) (step : Int) (bound digits : Nat) :
    (bound * (x.unitOn step).1 ≤ 4 * digits * (x.unitOn step).2 ↔
        (bound : ℚ) * 2 ^ x.exponent ≤ 4 * Decimal.value ⟨digits, step⟩) ∧
      (4 * digits * (x.unitOn step).2 ≤ bound * (x.unitOn step).1 ↔
        4 * Decimal.value ⟨digits, step⟩ ≤ (bound : ℚ) * 2 ^ x.exponent) := by
  have whole := unit_on_eq x step
  obtain ⟨_, some⟩ := unit_on_pos x step
  generalize (x.unitOn step).1 = p at whole
  generalize (x.unitOn step).2 = q at whole some
  have some' : (0 : ℚ) < q := by exact_mod_cast some
  have grid : (0 : ℚ) < 10 ^ step := by positivity
  have left : ((bound * p : Nat) : ℚ) * 10 ^ step = bound * 2 ^ x.exponent * q := by
    push_cast
    rw [mul_assoc, whole]
    ring
  have right : ((4 * digits * q : Nat) : ℚ) * 10 ^ step = 4 * Decimal.value ⟨digits, step⟩ * q := by
    unfold Decimal.value
    push_cast
    ring
  constructor
  · rw [← Nat.cast_le (α := ℚ), ← mul_le_mul_iff_of_pos_right grid, left, right, mul_le_mul_iff_of_pos_right some']
  · rw [← Nat.cast_le (α := ℚ), ← mul_le_mul_iff_of_pos_right grid, left, right, mul_le_mul_iff_of_pos_right some']

theorem reads_of_reads_back (x : Finite64) (step : Int) (digits : Nat) (back : x.readsBack step digits = true) :
    x.Reads (Decimal.value ⟨digits, step⟩) := by
  have below := bound_on x step x.lowerQuarters digits
  have above := bound_on x step x.upperQuarters digits
  unfold readsBack at back
  dsimp only at back
  split at back
  · rename_i even
    simp only [Bool.and_eq_true, decide_eq_true_eq] at back
    exact ⟨below.1.mp back.1, above.2.mp back.2, fun odd => by omega⟩
  · simp only [Bool.and_eq_true, decide_eq_true_eq] at back
    refine ⟨below.1.mp back.1.le, above.2.mp back.2.le, fun _ => ⟨?_, ?_⟩⟩
    · exact lt_of_not_ge fun ge => Nat.not_le.mpr back.1 (below.2.mpr ge)
    · exact lt_of_not_ge fun ge => Nat.not_le.mpr back.2 (above.1.mpr ge)

-- The bounds of a number and of a greater one meet at most where one of them has an odd mantissa.
theorem bounds_apart (x y : Finite64)
    (less : x.exponent < y.exponent ∨ x.exponent = y.exponent ∧ x.mantissa < y.mantissa) (shift : Nat)
    (same : y.exponent = x.exponent + shift) :
    x.upperQuarters < y.lowerQuarters * 2 ^ shift ∨
      x.upperQuarters = y.lowerQuarters * 2 ^ shift ∧ (x.mantissa % 2 = 1 ∨ y.mantissa % 2 = 1) := by
  obtain ⟨small, low, _, _⟩ := canonical_iff.mp x.canonical
  obtain ⟨_, _, _, normal⟩ := canonical_iff.mp y.canonical
  have least : 4 * y.mantissa - 2 ≤ y.lowerQuarters := by
    unfold lowerQuarters
    split <;> omega
  unfold upperQuarters
  rcases less with finer | ⟨equal, less⟩
  · have great : 2 ^ 52 ≤ y.mantissa := by omega
    have bound : 2 ^ 54 - 1 ≤ y.lowerQuarters := by
      unfold lowerQuarters
      simp only [Nat.pow_eq, Bool.and_eq_true, decide_eq_true_eq, bne_iff_ne]
      split
      · omega
      · rename_i other
        have greater : y.mantissa ≠ 2 ^ 52 := fun same' => other ⟨same', by omega⟩
        omega
    obtain ⟨more, rfl⟩ := Nat.exists_eq_add_of_le' (show 1 ≤ shift by omega)
    have two : 2 ≤ 2 ^ (more + 1) := by
      have one : 1 ≤ 2 ^ more := Nat.one_le_two_pow
      rw [Nat.pow_succ]
      omega
    have scaled := Nat.mul_le_mul bound two
    omega
  · have none : shift = 0 := by omega
    rw [none, Nat.pow_zero, Nat.mul_one]
    omega

theorem not_reads_both (x y : Finite64) (value : ℚ)
    (less : x.exponent < y.exponent ∨ x.exponent = y.exponent ∧ x.mantissa < y.mantissa) (first : x.Reads value)
    (second : y.Reads value) : False := by
  obtain ⟨shift, same⟩ := Int.le.dest (show x.exponent ≤ y.exponent by omega)
  have unit : (0 : ℚ) < 2 ^ x.exponent := by positivity
  have scaled : (2 : ℚ) ^ y.exponent = 2 ^ shift * 2 ^ x.exponent := by
    rw [← same, zpow_add₀ (by norm_num), zpow_natCast, mul_comm]
  have lower := second.lower
  have odd := second.odd
  rw [scaled, ← mul_assoc] at lower odd
  rcases bounds_apart x y less shift same.symm with apart | ⟨meet, parity⟩
  · have apart' : (x.upperQuarters : ℚ) < y.lowerQuarters * 2 ^ shift := by exact_mod_cast apart
    have far := mul_lt_mul_of_pos_right apart' unit
    linarith [first.upper]
  · have meet' : (x.upperQuarters : ℚ) = y.lowerQuarters * 2 ^ shift := by exact_mod_cast meet
    have upper := first.upper
    rw [meet'] at upper
    rcases parity with oddX | oddY
    · have strict := (first.odd oddX).2
      rw [meet'] at strict
      linarith
    · linarith [(odd oddY).1]

theorem eq_of_reads (x y : Finite64) (value : ℚ) (first : x.Reads value) (second : y.Reads value) :
    x.mantissa = y.mantissa ∧ x.exponent = y.exponent := by
  by_contra differ
  rcases Int.lt_trichotomy x.exponent y.exponent with less | same | greater
  · exact not_reads_both x y value (.inl less) first second
  · rcases Nat.lt_trichotomy x.mantissa y.mantissa with less | same' | greater
    · exact not_reads_both x y value (.inr ⟨same, less⟩) first second
    · exact differ ⟨same', same⟩
    · exact not_reads_both y x value (.inr ⟨same.symm, greater⟩) second first
  · exact not_reads_both y x value (.inl greater) second first

-- The search.

theorem reads_back_of_point (x : Finite64) (tie : Tie) (step : Int) (digits : Nat)
    (found : x.gridPoint? tie step = some digits) : x.readsBack step digits = true := by
  unfold gridPoint? at found
  dsimp only at found
  split at found
  · contradiction
  · rename_i below _
    exact Option.some.inj found ▸ below
  · rename_i _ above
    exact Option.some.inj found ▸ above
  · rename_i below above
    split at found
    · exact Option.some.inj found ▸ below
    · exact Option.some.inj found ▸ above
    · exact Option.some.inj found ▸ above
    · split at found
      · exact Option.some.inj found ▸ below
      · exact Option.some.inj found ▸ above

-- On a grid with steps of at most half a unit a point is found.
theorem reads_back_near (x : Finite64) (step : Int) (fine : 2 * (x.unitOn step).2 ≤ (x.unitOn step).1) :
    x.readsBack step (x.mantissa * (x.unitOn step).1 / (x.unitOn step).2) = true ∨
      x.readsBack step (x.mantissa * (x.unitOn step).1 / (x.unitOn step).2 + 1) = true := by
  have parity : x.lowerQuarters ≤ 4 * x.mantissa ∧ (x.mantissa % 2 = 1 → x.lowerQuarters < 4 * x.mantissa) := by
    unfold lowerQuarters
    split <;> omega
  obtain ⟨somePart, someStep⟩ := unit_on_pos x step
  unfold readsBack upperQuarters
  dsimp only
  generalize (x.unitOn step).1 = p at fine somePart
  generalize (x.unitOn step).2 = q at fine someStep
  have parts := Nat.div_add_mod (x.mantissa * p) q
  have small := Nat.mod_lt (x.mantissa * p) someStep
  have lower := Nat.mul_le_mul_right p parity.1
  have strictly (odd : x.mantissa % 2 = 1) := Nat.mul_lt_mul_of_pos_right (parity.2 odd) somePart
  rw [Nat.mul_comm q] at parts
  simp only [Nat.mul_assoc 4, Nat.add_mul, Nat.one_mul]
  rw [Nat.mul_assoc 4] at lower strictly
  generalize x.mantissa * p / q * q = below at parts
  generalize x.mantissa * p % q = rest at parts small
  generalize x.mantissa * p = magnitude at parts lower strictly
  generalize x.lowerQuarters * p = bound at lower strictly
  by_cases onGrid : rest = 0
  · left
    split
    · simp only [Bool.and_eq_true, decide_eq_true_eq]
      omega
    · have strict := strictly (by omega)
      simp only [Bool.and_eq_true, decide_eq_true_eq]
      omega
  · right
    split
    · simp only [Bool.and_eq_true, decide_eq_true_eq]
      omega
    · have strict := strictly (by omega)
      simp only [Bool.and_eq_true, decide_eq_true_eq]
      omega

theorem point_on_fine_grid (x : Finite64) (tie : Tie) (step : Int)
    (fine : 2 * (x.unitOn step).2 ≤ (x.unitOn step).1) : (x.gridPoint? tie step).isSome = true := by
  have near := reads_back_near x step fine
  unfold gridPoint?
  dsimp only
  split
  · rename_i below above
    simp [below, above] at near
  · rfl
  · rfl
  · split <;> rfl

-- The finest grid of the search is fine enough, for every exponent there is.
theorem finest_grid_fine (x : Finite64) : 2 * (x.unitOn x.finestStep).2 ≤ (x.unitOn x.finestStep).1 := by
  obtain ⟨_, low, high, _⟩ := canonical_iff.mp x.canonical
  have all : ∀ k : Nat, k < 2046 →
      2 * (2 ^ (-((k : Int) - 1074)).toNat * 10 ^ (((k : Int) - 1074 - 1) * 30103 / 100000 - 1).toNat) ≤
        2 ^ ((k : Int) - 1074).toNat * 10 ^ (-(((k : Int) - 1074 - 1) * 30103 / 100000 - 1)).toNat := by
    decide +kernel
  have atExponent := all (x.exponent + 1074).toNat (by unfold leastExponent greatestExponent at *; omega)
  have same : (((x.exponent + 1074).toNat : Nat) : Int) - 1074 = x.exponent := by
    unfold leastExponent at low
    omega
  rw [same] at atExponent
  exact atExponent

theorem search_reads_back (x : Finite64) (tie : Tie) (grids : Nat) (step : Int)
    (found : (x.gridPoint? tie (step - grids)).isSome = true) :
    x.Reads (x.searchGrids tie grids step).value := by
  induction grids generalizing step with
  | zero =>
      obtain ⟨digits, point⟩ := Option.isSome_iff_exists.mp found
      rw [show step - ((0 : Nat) : Int) = step by omega] at point
      rw [searchGrids, point, Option.getD_some]
      exact reads_of_reads_back x step digits (reads_back_of_point x tie step digits point)
  | succ grids ih =>
      rw [searchGrids]
      split
      · rename_i digits point
        exact reads_of_reads_back x step digits (reads_back_of_point x tie step digits point)
      · apply ih
        rwa [show step - 1 - (grids : Int) = step - ((grids + 1 : Nat) : Int) by omega]

theorem shortest_reads (x : Finite64) (tie : Tie) : x.Reads (x.shortest tie).value := by
  unfold shortest
  split
  · rename_i zero
    have none : x.mantissa = 0 := by simpa [isZero] using zero
    have lower : x.lowerQuarters = 0 := by
      unfold lowerQuarters
      rw [none]
      rfl
    refine ⟨?_, ?_, fun odd => by omega⟩
    · simp [lower, Decimal.value]
    · simp only [Decimal.value, Nat.cast_zero, zero_mul, mul_zero]
      positivity
  · apply search_reads_back
    have ordered : x.finestStep ≤ x.coarsestStep := by
      unfold finestStep coarsestStep
      omega
    rw [show x.coarsestStep - ((x.coarsestStep - x.finestStep).toNat : Int) = x.finestStep by omega]
    exact point_on_fine_grid x tie _ (finest_grid_fine x)

-- The shortest decimal determines the magnitude.
theorem eq_of_shortest (x y : Finite64) (tie : Tie) (same : (x.shortest tie).value = (y.shortest tie).value) :
    x.mantissa = y.mantissa ∧ x.exponent = y.exponent :=
  eq_of_reads x y _ (shortest_reads x tie) (same ▸ shortest_reads y tie)

end Finite64

end ScriptFront
