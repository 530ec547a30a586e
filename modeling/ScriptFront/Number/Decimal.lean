import ScriptFront.Number.Binary64

set_option autoImplicit false

/-! Reading decimal text: the nearest number, however many digits there are. -/

namespace ScriptFront

namespace Binary64

-- A decimal exponent beyond which any digits are infinite, or zero unless their count makes up
-- for it.
def farExponent : Int := 400

-- The number nearest to `± digits * 10 ^ exponent`.
def ofDecimal (negative : Bool) (digits : Nat) (exponent : Int) : Binary64 :=
  if digits = 0 then .zero negative
  else if farExponent < exponent then .infinite negative
  else if exponent + digits.log2 < -farExponent then .zero negative
  else nearest negative (digits * Nat.pow 10 exponent.toNat) (Nat.pow 10 (-exponent).toNat)

def digitsNumber (digits : List Char) : Nat :=
  digits.foldl (fun value digit => value * 10 + (digit.toNat - '0'.toNat)) 0

-- The sign in front of a text, and the text behind it.
def splitSign : List Char → Bool × List Char
  | '-' :: rest => (true, rest)
  | '+' :: rest => (false, rest)
  | text => (false, text)

-- The exponent behind a decimal; none is the exponent zero.
def exponentOf? : List Char → Option Int
  | [] => some 0
  | c :: rest =>
      let (negative, digits) := splitSign rest
      if (c = 'e' || c = 'E') && !digits.isEmpty && digits.all Char.isDigit then
        some (if negative then -(digitsNumber digits : Int) else digitsNumber digits)
      else none

-- An unsigned decimal: digits, with a point before, in or after them, and an exponent.
def ofUnsigned? (negative : Bool) (text : List Char) : Option Binary64 :=
  let whole := text.takeWhile Char.isDigit
  let behind := text.drop whole.length
  let fraction :=
    match behind with
    | '.' :: rest => rest.takeWhile Char.isDigit
    | _ => []
  let behind :=
    match behind with
    | '.' :: rest => rest.drop fraction.length
    | other => other
  if whole.isEmpty && fraction.isEmpty then none
  else
    (exponentOf? behind).map fun exponent =>
      ofDecimal negative (digitsNumber (whole ++ fraction)) (exponent - fraction.length)

-- The number that a text names: a decimal, an infinity, or no number at all.
def ofText? (text : String) : Option Binary64 :=
  let (negative, unsigned) := splitSign text.toList
  match String.ofList (unsigned.map Char.toLower) with
  | "inf" | "infinity" => some (.infinite negative)
  | "nan" => some .nan
  | _ => ofUnsigned? negative unsigned

end Binary64

end ScriptFront
