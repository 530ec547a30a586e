set_option autoImplicit false

/-! Binary floating point of 64 bits. A finite number is `± mantissa * 2 ^ exponent` in the one
canonical form of its value; rounding takes a quotient of natural numbers to the nearest number and
a tie to the even mantissa. -/

namespace ScriptFront

def leastExponent : Int := -1074

def greatestExponent : Int := 971

-- The mantissa has 53 bits, or fewer at the least exponent.
def Canonical (mantissa : Nat) (exponent : Int) : Prop :=
  mantissa < Nat.pow 2 53 ∧ leastExponent ≤ exponent ∧ exponent ≤ greatestExponent ∧
    (Nat.pow 2 52 ≤ mantissa ∨ exponent = leastExponent)

instance (mantissa : Nat) (exponent : Int) : Decidable (Canonical mantissa exponent) :=
  inferInstanceAs (Decidable (_ ∧ _ ∧ _ ∧ (_ ∨ _)))

structure Finite64 where
  negative : Bool
  mantissa : Nat
  exponent : Int
  canonical : Canonical mantissa exponent
deriving DecidableEq

inductive Binary64 where
  | nan
  | infinite (negative : Bool)
  | finite (number : Finite64)
deriving DecidableEq

namespace Finite64

def zero (negative : Bool) : Finite64 :=
  ⟨negative, 0, leastExponent, by decide⟩

def isZero (x : Finite64) : Bool :=
  x.mantissa == 0

-- Equality of values: the two zeros are equal.
def same (x y : Finite64) : Bool :=
  x == y || (x.isZero && y.isZero)

instance : Inhabited Finite64 := ⟨zero false⟩

end Finite64

-- The quotient to the nearest natural number, a tie to the even one.
def nearestQuotient (numerator denominator : Nat) : Nat :=
  let quotient := numerator / denominator
  let twice := 2 * (numerator % denominator)
  if twice < denominator || (twice == denominator && quotient % 2 == 0) then quotient else quotient + 1

-- The exponent of the unit in which the quotient has 53 bits, or the least exponent.
def unitExponent (numerator denominator : Nat) : Int :=
  let estimate : Int := (numerator.log2 : Int) - denominator.log2 - 53
  let scaled := (numerator <<< (-estimate).toNat) / (denominator <<< estimate.toNat)
  max leastExponent (if scaled < Nat.pow 2 53 then estimate else estimate + 1)

namespace Binary64

def zero (negative : Bool) : Binary64 :=
  .finite (.zero negative)

-- A magnitude above the greatest finite one is infinite.
def ofParts (negative : Bool) (mantissa : Nat) (exponent : Int) : Binary64 :=
  if fits : Canonical mantissa exponent then .finite ⟨negative, mantissa, exponent, fits⟩
  else .infinite negative

-- The number nearest to `± numerator / denominator`.
def nearest (negative : Bool) (numerator denominator : Nat) : Binary64 :=
  if numerator = 0 then .zero negative
  else
    let exponent := unitExponent numerator denominator
    let mantissa :=
      nearestQuotient (numerator <<< (-exponent).toNat) (denominator <<< exponent.toNat)
    if mantissa = Nat.pow 2 53 then ofParts negative (Nat.pow 2 52) (exponent + 1)
    else ofParts negative mantissa exponent

def ofNat (value : Nat) : Binary64 :=
  nearest false value 1

def ofInt (value : Int) : Binary64 :=
  nearest (value < 0) value.natAbs 1

def isFinite : Binary64 → Bool
  | .finite _ => true
  | _ => false

-- Equality of values: the two zeros are equal, and no value equals one that is not a number.
def same : Binary64 → Binary64 → Bool
  | .finite x, .finite y => x.same y
  | .infinite x, .infinite y => x == y
  | _, _ => false

instance : BEq Binary64 := ⟨same⟩

end Binary64

namespace Finite64

def times (x y : Finite64) : Binary64 :=
  let exponent := x.exponent + y.exponent
  .nearest (x.negative != y.negative) ((x.mantissa * y.mantissa) <<< exponent.toNat)
    (1 <<< (-exponent).toNat)

-- The quotient by a number other than zero.
def dividedBy (x y : Finite64) : Binary64 :=
  let exponent := x.exponent - y.exponent
  .nearest (x.negative != y.negative) (x.mantissa <<< exponent.toNat)
    (y.mantissa <<< (-exponent).toNat)

-- The natural number that a magnitude is, if it is one.
def magnitude? (x : Finite64) : Option Nat :=
  let unit := Nat.pow 2 (-x.exponent).toNat
  if x.mantissa % unit = 0 then some (x.mantissa / unit * Nat.pow 2 x.exponent.toNat) else none

-- The greatest bound below which every integer is a number of its own.
def greatestSafe : Nat := Nat.pow 2 53 - 1

-- The integer that a number is, if it is one of at most 53 bits. Minus zero is the integer 0.
def safeInteger? (x : Finite64) : Option Int :=
  x.magnitude?.bind fun value =>
    if value ≤ greatestSafe then some (if x.negative then -(value : Int) else value) else none

end Finite64

end ScriptFront
