set_option autoImplicit false

/-! Sets of characters given as ranges of code points. -/

namespace ScriptFront

-- A set of code points, as the first and the last of each range.
abbrev Ranges := List (Nat × Nat)

-- Whether the code point of a character lies in one of the ranges.
def Ranges.has (ranges : Ranges) (c : Char) : Bool :=
  ranges.any fun range => range.1 ≤ c.toNat && c.toNat ≤ range.2

end ScriptFront
