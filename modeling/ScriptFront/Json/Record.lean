import ScriptFront.Json.Reader

set_option autoImplicit false

/-! Reading records straight from JSON text, while it is scanned: a fault of an early part counts
before the text behind it is looked at. -/

namespace ScriptFront

namespace Reader

variable {α : Type}

def ofExcept (result : Except Fault α) : Reader α :=
  match result with
  | .ok value => return value
  | .error fault => throw (.data fault)

-- The next value, told as what it is; its parts are not looked at.
def shape : Reader Shape := do
  match ← peek with
  | none => throw .truncated
  | some '[' => return .sequence
  | some '{' => return .map
  | some c => return (← atom true c).shape

def refuse (expected : Expected) : Reader α := do
  let found ← shape
  throw (.data (.invalidType found expected))

-- A member of a record with one field. Other members are passed over.
def fieldStep (field : String) (value : Reader α) (found : Option α) (name : String) :
    Reader (Option α) := do
  if name = field then
    match found with
    | some _ => throw (.data (.duplicateField field))
    | none =>
        colon
        return some (← value)
  else
    colon
    skipValue
    return found

-- A record with one field, as an object or as an array of one item.
def record (name field : String) (value : Reader α) (noMember noItem : Except Fault α) :
    Reader α := do
  match ← peek with
  | none => throw .truncated
  | some '[' =>
      skip 1
      let found ← if ← nextItem true then value else ofExcept noItem
      closeArray
      return found
  | some '{' =>
      match ← members true (fieldStep field value) none with
      | some found => return found
      | none => ofExcept noMember
  | some _ => refuse (.record name)

-- The items of an array, the last one first.
def listStep (item : Reader α) (done : List α) : Reader (List α) := do
  return (← item) :: done

def list (item : Reader α) : Reader (List α) := do
  match ← peek with
  | none => throw .truncated
  | some '[' =>
      let found ← items (listStep item) []
      return found.reverse
  | some _ => refuse .sequence

end Reader

end ScriptFront
