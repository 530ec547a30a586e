import ScriptFront.Number.Shortest

set_option autoImplicit false

/-! How numbers are written: their shortest decimal with a point and zeros around the digits, or
with an exponent. -/

namespace ScriptFront

namespace Decimal

def digitText (d : Decimal) : List Char :=
  Nat.toDigits 10 d.digits

-- The exponent of the first digit.
def leading (d : Decimal) : Int :=
  d.exponent + d.digitText.length - 1

-- The digits before the point.
def wholeText (d : Decimal) : List Char :=
  let digits := d.digitText
  if 0 ≤ d.leading then (digits ++ List.replicate d.exponent.toNat '0').take (d.leading + 1).toNat
  else ['0']

-- The digits after the point.
def fractionText (d : Decimal) : List Char :=
  let digits := d.digitText
  if 0 ≤ d.leading then digits.drop (d.leading + 1).toNat
  else List.replicate (-d.leading - 1).toNat '0' ++ digits

def plainText (d : Decimal) : List Char :=
  match d.fractionText with
  | [] => d.wholeText
  | fraction => d.wholeText ++ '.' :: fraction

-- At least one digit stands after the point.
def pointedText (d : Decimal) : List Char :=
  match d.fractionText with
  | [] => d.wholeText ++ ['.', '0']
  | fraction => d.wholeText ++ '.' :: fraction

-- One digit, the others after a point, and the exponent with its sign.
def scientificText (d : Decimal) : List Char :=
  let mantissa :=
    match d.digitText with
    | first :: second :: rest => first :: '.' :: second :: rest
    | digits => digits
  mantissa ++ 'e' :: (if 0 ≤ d.leading then '+' else '-') :: Nat.toDigits 10 d.leading.natAbs

end Decimal

def signText (negative : Bool) : List Char :=
  if negative then ['-'] else []

-- Exponents of the first digit that are written with a point in JSON.
def pointedFrom : Int := -5

def pointedTo : Int := 15

-- A number in JSON, in its shortest decimal, a tie to the even digit.
def Finite64.jsonText (x : Finite64) : List Char :=
  let decimal := x.shortest .toEven
  signText x.negative ++
    if pointedFrom ≤ decimal.leading && decimal.leading ≤ pointedTo then decimal.pointedText
    else decimal.scientificText

-- A number in Lisp text, in its shortest decimal, a tie upward, and never with an exponent.
def Binary64.lispText : Binary64 → List Char
  | .nan => ['N', 'a', 'N']
  | .infinite negative => signText negative ++ ['i', 'n', 'f']
  | .finite x => signText x.negative ++ (x.shortest .upward).plainText

end ScriptFront
