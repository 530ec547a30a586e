import ScriptFront.Json.Reader
import ScriptFront.Json.Writer

set_option autoImplicit false

/-! The text of a JSON value with white space of any kind around its items and members. The text on
one line and the indented text are two cases. -/

namespace ScriptFront

-- The white space in front of an item, a member or a closing bracket, and behind a colon.
structure Layout where
  line : Nat → List Char
  colon : List Char
  line_blank : ∀ level, ∀ c ∈ line level, Reader.isSpace c = true
  colon_blank : ∀ c ∈ colon, Reader.isSpace c = true

namespace Layout

def compact : Layout where
  line _ := []
  colon := []
  line_blank := by simp
  colon_blank := by simp

def indented : Layout where
  line level := '\n' :: List.replicate (2 * level) ' '
  colon := [' ']
  line_blank := by
    intro level c member
    rw [List.mem_cons, List.mem_replicate] at member
    rcases member with same | ⟨_, same⟩
    · rw [same]; rfl
    · rw [same]; rfl
  colon_blank := by simp [Reader.isSpace]

variable (layout : Layout)

mutual
def textThen (level : Nat) : Json → List Char → List Char
  | .array [], rest => '[' :: ']' :: rest
  | .array (item :: items), rest =>
      '[' :: (layout.line (level + 1) ++ textThen (level + 1) item
        (itemsThen (level + 1) items (layout.line level ++ ']' :: rest)))
  | .object [], rest => '{' :: '}' :: rest
  | .object (member :: members), rest =>
      '{' :: (layout.line (level + 1) ++ memberThen (level + 1) member
        (membersThen (level + 1) members (layout.line level ++ '}' :: rest)))
  | atom, rest => Json.atomThen atom rest

def itemsThen (level : Nat) : List Json → List Char → List Char
  | [], rest => rest
  | item :: items, rest => ',' :: (layout.line level ++ textThen level item (itemsThen level items rest))

def memberThen (level : Nat) : String × Json → List Char → List Char
  | (name, value), rest => Json.stringThen name (':' :: (layout.colon ++ textThen level value rest))

def membersThen (level : Nat) : List (String × Json) → List Char → List Char
  | [], rest => rest
  | member :: members, rest =>
      ',' :: (layout.line level ++ memberThen level member (membersThen level members rest))
end

mutual
theorem compact_text (level : Nat) (v : Json) (rest : List Char) :
    compact.textThen level v rest = Json.textThen v rest := by
  match v with
  | .array [] => rfl
  | .array (item :: items) =>
      rw [textThen, Json.textThen, compact_text, compact_items]
      rfl
  | .object [] => rfl
  | .object (member :: members) =>
      rw [textThen, Json.textThen, compact_member, compact_members]
      rfl
  | .null | .boolean _ | .integer _ | .float _ | .string _ => rw [textThen, Json.textThen] <;> simp

theorem compact_items (level : Nat) (items : List Json) (rest : List Char) :
    compact.itemsThen level items rest = Json.itemsThen items rest := by
  match items with
  | [] => rfl
  | item :: items =>
      rw [itemsThen, Json.itemsThen, compact_text, compact_items]
      rfl

theorem compact_member (level : Nat) (member : String × Json) (rest : List Char) :
    compact.memberThen level member rest = Json.memberThen member rest := by
  match member with
  | (name, value) =>
      rw [memberThen, Json.memberThen, compact_text]
      rfl

theorem compact_members (level : Nat) (members : List (String × Json)) (rest : List Char) :
    compact.membersThen level members rest = Json.membersThen members rest := by
  match members with
  | [] => rfl
  | member :: members =>
      rw [membersThen, Json.membersThen, compact_member, compact_members]
      rfl
end

mutual
theorem indented_text (level : Nat) (v : Json) (rest : List Char) :
    indented.textThen level v rest = Json.indentedThen level v rest := by
  match v with
  | .array [] => rfl
  | .array (item :: items) =>
      rw [textThen, Json.indentedThen, indented_text, indented_items]
      rfl
  | .object [] => rfl
  | .object (member :: members) =>
      rw [textThen, Json.indentedThen, indented_member, indented_members]
      rfl
  | .null | .boolean _ | .integer _ | .float _ | .string _ => rw [textThen, Json.indentedThen] <;> simp

theorem indented_items (level : Nat) (items : List Json) (rest : List Char) :
    indented.itemsThen level items rest = Json.indentedItemsThen level items rest := by
  match items with
  | [] => rfl
  | item :: items =>
      rw [itemsThen, Json.indentedItemsThen, indented_text, indented_items]
      rfl

theorem indented_member (level : Nat) (member : String × Json) (rest : List Char) :
    indented.memberThen level member rest = Json.indentedMemberThen level member rest := by
  match member with
  | (name, value) =>
      rw [memberThen, Json.indentedMemberThen, indented_text]
      rfl

theorem indented_members (level : Nat) (members : List (String × Json)) (rest : List Char) :
    indented.membersThen level members rest = Json.indentedMembersThen level members rest := by
  match members with
  | [] => rfl
  | member :: members =>
      rw [membersThen, Json.indentedMembersThen, indented_member, indented_members]
      rfl
end

end Layout

namespace Json

mutual
-- How many arrays and objects are open at once.
def depth : Json → Nat
  | .array items => itemsDepth items + 1
  | .object members => membersDepth members + 1
  | _ => 0

def itemsDepth : List Json → Nat
  | [] => 0
  | item :: items => max item.depth (itemsDepth items)

def membersDepth : List (String × Json) → Nat
  | [] => 0
  | (_, value) :: members => max value.depth (membersDepth members)
end

mutual
-- The numbers with a point or an exponent.
def floats : Json → List Finite64
  | .float x => [x]
  | .array items => itemsFloats items
  | .object members => membersFloats members
  | _ => []

def itemsFloats : List Json → List Finite64
  | [] => []
  | item :: items => item.floats ++ itemsFloats items

def membersFloats : List (String × Json) → List Finite64
  | [] => []
  | (_, value) :: members => value.floats ++ membersFloats members
end

theorem items_depth_le_iff (items : List Json) (levels : Nat) :
    itemsDepth items ≤ levels ↔ ∀ v ∈ items, v.depth ≤ levels := by
  induction items with
  | nil => simp [itemsDepth]
  | cons item items ih => rw [itemsDepth, Nat.max_le, ih, List.forall_mem_cons]

theorem members_depth_le_iff (members : List (String × Json)) (levels : Nat) :
    membersDepth members ≤ levels ↔ ∀ m ∈ members, m.2.depth ≤ levels := by
  induction members with
  | nil => simp [membersDepth]
  | cons member members ih => rw [membersDepth, Nat.max_le, ih, List.forall_mem_cons]

theorem items_floats_eq (items : List Json) : itemsFloats items = items.flatMap floats := by
  induction items with
  | nil => rfl
  | cons item items ih => rw [itemsFloats, ih, List.flatMap_cons]

end Json

end ScriptFront
