import ScriptFront.Json.Basic
import ScriptFront.Number.Layout
import ScriptFront.Text.Quoted

set_option autoImplicit false

/-! What is wrong with a JSON value that was to be read as something else, and how it is told. -/

namespace ScriptFront

-- A value as faults name it.
inductive Shape where
  | null
  | boolean (value : Bool)
  | integer (value : Int)
  | float (value : Finite64)
  | string (text : String)
  | sequence
  | map
deriving DecidableEq

def Json.shape : Json → Shape
  | .null => .null
  | .boolean value => .boolean value
  | .integer value => .integer value.value
  | .float value => .float value
  | .string text => .string text
  | .array _ => .sequence
  | .object _ => .map

inductive Expected where
  | string
  | boolean
  | number
  | sequence
  | variant
  | unit
  | record (name : String)
deriving DecidableEq

inductive Fault where
  | missingField (name : String)
  | duplicateField (name : String)
  | unknownVariant (found : String) (known : List String)
  | invalidType (found : Shape) (expected : Expected)
  | tooFewItems (count : Nat) (record : String) (fields : Nat)
  | tooManyItems (count : Nat)
  | notOneKey
  | computedName
  | notAssignable
deriving DecidableEq

-- What stops a scan in a text that may well be JSON.
inductive Obstacle where
  -- No value starts here that can stand in this place.
  | value
  -- An array goes on behind its last item.
  | items
  | numberRange
  -- Half of a surrogate pair where no pair starts, or before what is no second half.
  | loneSurrogate
  -- The first half of a surrogate pair, and no escape behind it.
  | openPair
deriving DecidableEq

-- Why the text of a JSON value cannot be read: it ends too early, it is not JSON, the scan stops,
-- or the value is not what it was to be read as.
inductive ReadFault where
  | truncated
  | malformed
  | blocked (obstacle : Obstacle)
  | data (fault : Fault)
deriving DecidableEq

def inTicks (text : String) : String :=
  "`" ++ text ++ "`"

namespace Shape

def message : Shape → String
  | .null => "null"
  | .boolean value => "boolean " ++ inTicks (if value then "true" else "false")
  | .integer value => "integer " ++ inTicks (toString value)
  | .float value => "floating point " ++ inTicks (String.ofList value.jsonText)
  | .string text => "string " ++ Text.quoted text
  | .sequence => "sequence"
  | .map => "map"

end Shape

namespace Expected

def message : Expected → String
  | .string => "a string"
  | .boolean => "a boolean"
  | .number => "f64"
  | .sequence => "a sequence"
  | .variant => "string or map"
  | .unit => "unit"
  | .record name => "struct " ++ name

end Expected

-- The names that were possible, in their order.
def choiceMessage : List String → String
  | [] => "there are no variants"
  | [only] => "expected " ++ inTicks only
  | [one, other] => "expected " ++ inTicks one ++ " or " ++ inTicks other
  | names => "expected one of " ++ ", ".intercalate (names.map inTicks)

namespace Fault

def message : Fault → String
  | .missingField name => "missing field " ++ inTicks name
  | .duplicateField name => "duplicate field " ++ inTicks name
  | .unknownVariant found known => "unknown variant " ++ inTicks found ++ ", " ++ choiceMessage known
  | .invalidType found expected =>
      "invalid type: " ++ found.message ++ ", expected " ++ expected.message
  | .tooFewItems count record fields =>
      "invalid length " ++ toString count ++ ", expected struct " ++ record ++ " with " ++
        toString fields ++ (if fields = 1 then " element" else " elements")
  | .tooManyItems count =>
      "invalid length " ++ toString count ++ ", expected fewer elements in array"
  | .notOneKey => "invalid value: map, expected map with a single key"
  | .computedName => "non-computed member property must be an Identifier"
  | .notAssignable => "assignment target must be an Identifier or MemberExpression"

end Fault

def Obstacle.message : Obstacle → String
  | .value => "expected value"
  | .items => "trailing characters"
  | .numberRange => "number out of range"
  | .loneSurrogate => "lone leading surrogate in hex escape"
  | .openPair => "unexpected end of hex escape"

-- A text that is not JSON has no message of its own.
def ReadFault.message? : ReadFault → Option String
  | .blocked obstacle => some obstacle.message
  | .data fault => some fault.message
  | .truncated | .malformed => none

end ScriptFront
