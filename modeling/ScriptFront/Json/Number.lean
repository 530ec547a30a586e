import ScriptFront.Json.Basic

set_option autoImplicit false

/-! The value of a number in JSON text. Digits are gathered into a significand of 64 bits and those
that do not fit are left out; a number with a point, an exponent or too many digits is the
significand scaled by a power of ten, where the power and the result are each rounded. -/

namespace ScriptFront

-- A number as it is written: its sign, the digits before and after the point, and the exponent.
structure NumberText where
  negative : Bool
  whole : List Char
  fraction : Option (List Char)
  exponent : Option Int

def digitValue (c : Char) : Nat :=
  c.toNat - '0'.toNat

-- Appends digits as long as the significand fits into 64 bits, and counts the others.
def gather : Nat → List Char → Nat × Nat
  | significand, [] => (significand, 0)
  | significand, digit :: digits =>
      if significand * 10 + digitValue digit < 0x10000000000000000 then
        gather (significand * 10 + digitValue digit) digits
      else (significand, digits.length + 1)

def Binary64.finite? : Binary64 → Option Finite64
  | .finite x => some x
  | _ => none

-- The greatest power of ten that scales in one step.
def greatestPower : Nat := 308

def powerOfTen (exponent : Nat) : Finite64 :=
  ((Binary64.ofNat (Nat.pow 10 exponent)).finite?).getD (.zero false)

-- The number times a power of ten, if that is finite. Each round takes off 308 powers, and three
-- of them leave nothing of a significand.
def scaleByTen : Nat → Finite64 → Int → Option Finite64
  | 0, x, _ => some x
  | rounds + 1, x, exponent =>
      if exponent.natAbs ≤ greatestPower then
        if 0 ≤ exponent then (x.times (powerOfTen exponent.natAbs)).finite?
        else (x.dividedBy (powerOfTen exponent.natAbs)).finite?
      else if x.isZero then some x
      else if 0 ≤ exponent then none
      else
        match (x.dividedBy (powerOfTen greatestPower)).finite? with
        | some smaller => scaleByTen rounds smaller (exponent + greatestPower)
        | none => none

namespace NumberText

-- Integers that fit into 64 bits are integers, except for minus zero.
def integer? (number : NumberText) : Option Integer64 :=
  match number.fraction, number.exponent, gather 0 number.whole with
  | none, none, (significand, 0) =>
      if number.negative then
        if significand = 0 then none else Integer64.ofInt? (-(significand : Int))
      else Integer64.ofInt? significand
  | _, _, _ => none

def float? (number : NumberText) : Option Finite64 :=
  let whole := gather 0 number.whole
  let digits := number.fraction.getD []
  let fraction := gather whole.1 digits
  let exponent : Int := (whole.2 : Int) - ((digits.length - fraction.2 : Nat) : Int)
  match (Binary64.ofNat fraction.1).finite? with
  | none => none
  | some significand =>
      (scaleByTen 4 significand (exponent + number.exponent.getD 0)).map fun x =>
        { x with negative := number.negative }

-- The value of the number, if it is in range.
def value? (number : NumberText) : Option Json :=
  match number.integer? with
  | some whole => some (.integer whole)
  | none => number.float?.map .float

end NumberText

end ScriptFront
