import ScriptFront.Json.Fault
import ScriptFront.Spelled

set_option autoImplicit false

/-! Reading JSON values that have no parts: texts, truth values, numbers and the words of a finite
family. -/

namespace ScriptFront

namespace Json

def asText : Json → Except Fault String
  | .string text => .ok text
  | other => .error (.invalidType other.shape .string)

def asBoolean : Json → Except Fault Bool
  | .boolean value => .ok value
  | other => .error (.invalidType other.shape .boolean)

def asNumber : Json → Except Fault Binary64
  | .integer value => .ok (.ofInt value.value)
  | .float value => .ok (.finite value)
  | other => .error (.invalidType other.shape .number)

-- The member of an object with one name only.
def onlyMember? : List (String × Json) → Option (String × Json)
  | [] => none
  | (name, value) :: rest =>
      if rest.all (·.1 == name) then (lastOf name ((name, value) :: rest)).map (name, ·) else none

def named {α : Type} [Spelled α] (text : String) : Except Fault α :=
  match Spelled.ofSpelling? text with
  | some found => .ok found
  | none => .error (.unknownVariant text (Spelled.spellings α))

-- A word is given as a string, or as an object with that one name and the value `null`.
def asWord {α : Type} [Spelled α] : Json → Except Fault α
  | .string text => named text
  | .object members =>
      match onlyMember? members with
      | none => .error .notOneKey
      | some (name, value) => do
          let found ← named name
          match value with
          | .null => return found
          | other => throw (.invalidType other.shape .unit)
  | other => .error (.invalidType other.shape .variant)

end Json

end ScriptFront
