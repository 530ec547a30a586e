set_option autoImplicit false

/-! Finite families of words: keywords, marks, operators and names of options. Each member has one
spelling, and the spelling gives back the member. -/

namespace ScriptFront

class Spelled (α : Type) where
  all : List α
  spelling : α → String
  complete : ∀ a, a ∈ all
  distinct : (all.map spelling).Nodup

namespace Spelled

variable {α : Type} [Spelled α]

def ofSpelling? (text : String) : Option α :=
  all.find? fun a => spelling a == text

def spellings (α : Type) [Spelled α] : List String :=
  (all : List α).map spelling

theorem spelling_injective (a b : α) (same : spelling a = spelling b) : a = b := by
  have distinct := distinct (α := α)
  have aIn := complete a
  have bIn := complete b
  revert distinct aIn bIn
  generalize (all : List α) = members
  intro distinct aIn bIn
  induction members with
  | nil => simp at aIn
  | cons c rest ih =>
      simp only [List.map_cons, List.nodup_cons, List.mem_map, not_exists, not_and] at distinct
      rcases List.mem_cons.mp aIn with rfl | aRest <;> rcases List.mem_cons.mp bIn with rfl | bRest
      · rfl
      · exact absurd same.symm (distinct.1 b bRest)
      · exact absurd same (distinct.1 a aRest)
      · exact ih distinct.2 aRest bRest

theorem of_spelling_eq_some_iff (text : String) (a : α) :
    ofSpelling? text = some a ↔ spelling a = text := by
  constructor
  · intro found
    simpa using List.find?_some found
  · intro spelled
    cases found : (ofSpelling? text : Option α) with
    | none =>
        have none := List.find?_eq_none.mp found a (complete a)
        simp [spelled] at none
    | some b =>
        have same : spelling b = text := by simpa using List.find?_some found
        rw [spelling_injective b a (same.trans spelled.symm)]

end Spelled

end ScriptFront
