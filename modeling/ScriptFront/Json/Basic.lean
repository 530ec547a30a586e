import ScriptFront.Number.Binary64

set_option autoImplicit false

/-! JSON values. Numbers are integers of 64 bits, signed or unsigned, or finite floating-point
numbers; objects keep their members in order, and a name that comes twice stands for its last value. -/

namespace ScriptFront

structure Integer64 where
  value : Int
  fits : -0x8000000000000000 ≤ value ∧ value < 0x10000000000000000
deriving DecidableEq

def Integer64.ofInt? (value : Int) : Option Integer64 :=
  if fits : -0x8000000000000000 ≤ value ∧ value < 0x10000000000000000 then some ⟨value, fits⟩ else none

inductive Json where
  | null
  | boolean (value : Bool)
  | integer (value : Integer64)
  | float (value : Finite64)
  | string (text : String)
  | array (items : List Json)
  | object (members : List (String × Json))

-- The value of the last member with a name.
def lastOf {α : Type} (name : String) : List (String × α) → Option α
  | [] => none
  | (key, value) :: rest =>
      match lastOf name rest with
      | some later => some later
      | none => if key = name then some value else none

namespace Json

def ofInt (value : Int) : Json :=
  match Integer64.ofInt? value with
  | some whole => .integer whole
  | none =>
      match Binary64.ofInt value with
      | .finite x => .float x
      | _ => .null

-- Integers of at most 53 bits are written as such; values that are not finite as `null`.
def ofNumber : Binary64 → Json
  | .finite x =>
      match x.safeInteger?.bind Integer64.ofInt? with
      | some whole => .integer whole
      | none => .float x
  | _ => .null

def member? (name : String) : Json → Option Json
  | .object members => lastOf name members
  | _ => none

def text? : Json → Option String
  | .string text => some text
  | _ => none

end Json

end ScriptFront
