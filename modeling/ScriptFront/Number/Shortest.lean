import ScriptFront.Number.Binary64

set_option autoImplicit false

/-! The shortest decimal of a number: on the coarsest decimal grid that has a point which rounds to
the number, the nearest such point. -/

namespace ScriptFront

-- The value `digits * 10 ^ exponent`.
structure Decimal where
  digits : Nat
  exponent : Int
deriving DecidableEq

-- Which of two equally near decimals is taken.
inductive Tie where
  | toEven
  | upward
deriving DecidableEq

namespace Finite64

-- A number stands for the reals between these two bounds, in quarters of its unit.
def lowerQuarters (x : Finite64) : Nat :=
  if x.mantissa = Nat.pow 2 52 && x.exponent != leastExponent then 4 * x.mantissa - 1 else 4 * x.mantissa - 2

def upperQuarters (x : Finite64) : Nat :=
  4 * x.mantissa + 2

-- The unit `2 ^ exponent` in steps of the grid `10 ^ step`, as a quotient.
def unitOn (x : Finite64) (step : Int) : Nat × Nat :=
  (Nat.pow 2 x.exponent.toNat * Nat.pow 10 (-step).toNat, Nat.pow 2 (-x.exponent).toNat * Nat.pow 10 step.toNat)

-- Whether `digits * 10 ^ step` rounds to the magnitude. The bounds themselves do when the
-- mantissa is even.
def readsBack (x : Finite64) (step : Int) (digits : Nat) : Bool :=
  let unit := x.unitOn step
  let point := 4 * digits * unit.2
  let lower := x.lowerQuarters * unit.1
  let upper := x.upperQuarters * unit.1
  if x.mantissa % 2 = 0 then lower ≤ point && point ≤ upper else lower < point && point < upper

-- The point of the grid next to the magnitude that rounds to it.
def gridPoint? (x : Finite64) (tie : Tie) (step : Int) : Option Nat :=
  let unit := x.unitOn step
  let below := x.mantissa * unit.1 / unit.2
  let above := below + 1
  match x.readsBack step below, x.readsBack step above with
  | false, false => none
  | true, false => some below
  | false, true => some above
  | true, true =>
      match compare (2 * (x.mantissa * unit.1 % unit.2)) unit.2, tie with
      | .lt, _ => some below
      | .gt, _ => some above
      | .eq, .upward => some above
      | .eq, .toEven => some (if below % 2 = 0 then below else above)

-- A grid of which every positive point is above the magnitude.
def coarsestStep (x : Finite64) : Int :=
  ((x.mantissa.log2 : Int) + 1 + x.exponent) * 30103 / 100000 + 1

-- A grid with points at most half a unit apart, so that one of them reads back.
def finestStep (x : Finite64) : Int :=
  (x.exponent - 1) * 30103 / 100000 - 1

-- Goes to finer grids until one has a point that reads back.
def searchGrids (x : Finite64) (tie : Tie) : Nat → Int → Decimal
  | 0, step => ⟨(x.gridPoint? tie step).getD 0, step⟩
  | grids + 1, step =>
      match x.gridPoint? tie step with
      | some digits => ⟨digits, step⟩
      | none => searchGrids x tie grids (step - 1)

def shortest (x : Finite64) (tie : Tie) : Decimal :=
  if x.isZero then ⟨0, 0⟩
  else x.searchGrids tie (x.coarsestStep - x.finestStep).toNat x.coarsestStep

end Finite64

end ScriptFront
