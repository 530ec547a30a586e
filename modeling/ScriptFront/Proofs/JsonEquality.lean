import ScriptFront.Proofs.ExactTrees

set_option autoImplicit false

/-! Equality of JSON values. What is the same has the same members, and numbers without a sign are
written as values that are the same only if they are equal. -/

namespace ScriptFront

open Binary64 (isNonnegative)

theorem Finite64.same_of_both (x y z : Finite64) (equal : z.same x = true) (equal' : z.same y = true) :
    x.same y = true := by
  simp only [Finite64.same, Bool.or_eq_true, Bool.and_eq_true, beq_iff_eq] at equal equal' ⊢
  rcases equal with rfl | ⟨zero, first⟩
  · exact equal'
  · rcases equal' with rfl | ⟨_, second⟩
    · exact .inr ⟨first, zero⟩
    · exact .inr ⟨first, second⟩

namespace Json

mutual
-- Numbers are compared by value, objects in any order of their members.
def same : Json → Json → Bool
  | .null, .null => true
  | .boolean a, .boolean b => a == b
  | .integer i, .integer j => i == j
  | .float x, .float y => x.same y
  | .string a, .string b => a == b
  | .array a, .array b => sameItems a b
  | .object a, .object b => sameMembers a b && b.all fun member => (lastOf member.1 a).isSome
  | _, _ => false

def sameItems : List Json → List Json → Bool
  | [], [] => true
  | a :: as, b :: bs => a.same b && sameItems as bs
  | _, _ => false

-- Each name stands for the same value among the other members, too.
def sameMembers : List (String × Json) → List (String × Json) → Bool
  | [], _ => true
  | (name, value) :: rest, others =>
      ((lastOf name rest).isSome ||
          match lastOf name others with
          | some value' => value.same value'
          | none => false) &&
        sameMembers rest others
end

theorem last_is_some_iff {α : Type} (name : String) (members : List (String × α)) :
    (lastOf name members).isSome = true ↔ ∃ member ∈ members, member.1 = name := by
  induction members with
  | nil => simp [lastOf]
  | cons first rest ih =>
      simp only [List.mem_cons, exists_eq_or_imp, ← ih, lastOf]
      cases lastOf name rest with
      | some last => simp
      | none =>
          by_cases here : first.1 = name
          · simp [here]
          · simp [here]

theorem same_of_members (members others : List (String × Json)) (same : sameMembers members others = true)
    (name : String) (value : Json) (found : lastOf name members = some value) :
    ∃ value', lastOf name others = some value' ∧ value.same value' = true := by
  induction members with
  | nil => contradiction
  | cons first rest ih =>
      obtain ⟨key, here⟩ := first
      rw [sameMembers, Bool.and_eq_true] at same
      rw [lastOf] at found
      cases later : lastOf name rest with
      | some last =>
          rw [later] at found
          exact ih same.2 (later.trans found)
      | none =>
          rw [later] at found
          by_cases equal : key = name
          · have last : here = value := by simpa [equal] using found
            rw [equal, later, last] at same
            cases other : lastOf name others with
            | none => simp [other] at same
            | some value' => exact ⟨value', rfl, by simpa [other] using same.1⟩
          · simp [equal] at found

-- A name stands for the same in both values, or for nothing in either.
theorem member_same (v w : Json) (equal : v.same w = true) (name : String) :
    sameOption same (v.member? name) (w.member? name) = true := by
  cases v with
  | object members =>
      cases w with
      | object others =>
          rw [same, Bool.and_eq_true] at equal
          change sameOption same (lastOf name members) (lastOf name others) = true
          cases found : lastOf name members with
          | some value =>
              obtain ⟨value', found', equal'⟩ := same_of_members members others equal.1 name value found
              rw [found']
              exact equal'
          | none =>
              cases found' : lastOf name others with
              | none => rfl
              | some value' =>
                  obtain ⟨member, inside, key⟩ := (last_is_some_iff name others).mp (by rw [found']; rfl)
                  have known := List.all_eq_true.mp equal.2 member inside
                  rw [key, found] at known
                  contradiction
      | _ => simp [same] at equal
  | _ =>
      cases w with
      | object others => simp [same] at equal
      | _ => rfl

mutual
-- Equal values are the same.
theorem same_refl (v : Json) : v.same v = true := by
  match v with
  | .array items => exact same_items_refl items
  | .object members =>
      have keys : (members.all fun member => (lastOf member.1 members).isSome) = true :=
        List.all_eq_true.mpr fun member inside => (last_is_some_iff member.1 members).mpr ⟨member, inside, rfl⟩
      rw [same, keys, same_members_refl members members fun _ _ found => found, Bool.and_self]
  | .float x => exact Finite64.same_refl x
  | .null | .boolean _ | .integer _ | .string _ => simp [same]
termination_by structural v

theorem same_items_refl (items : List Json) : sameItems items items = true := by
  match items with
  | [] => rfl
  | item :: items => rw [sameItems, same_refl item, same_items_refl items, Bool.and_self]
termination_by structural items

-- The members are the last ones among all members.
theorem same_members_refl (members all : List (String × Json))
    (last : ∀ name value, lastOf name members = some value → lastOf name all = some value) :
    sameMembers members all = true := by
  match members with
  | [] => rfl
  | (name, value) :: rest =>
      have others : sameMembers rest all = true := by
        refine same_members_refl rest all fun name' value' found => last name' value' ?_
        rw [lastOf, found]
      rw [sameMembers, others, Bool.and_true, Bool.or_eq_true]
      cases later : lastOf name rest with
      | some value' => exact .inl rfl
      | none =>
          have here : lastOf name all = some value := last name value (by simp [lastOf, later])
          rw [here]
          exact .inr (same_refl value)
termination_by structural members
end

-- A finite number is an integer if it has at most 53 bits.
theorem of_finite (x : Finite64) :
    (∃ i, ofNumber (.finite x) = .integer i ∧ x.safeInteger? = some i.value) ∨
      ofNumber (.finite x) = .float x := by
  unfold ofNumber
  dsimp only
  cases found : x.safeInteger?.bind Integer64.ofInt? with
  | none => exact .inr rfl
  | some whole =>
      obtain ⟨i, safe, fits⟩ := Option.bind_eq_some_iff.mp found
      unfold Integer64.ofInt? at fits
      split at fits
      · injection fits with equal
        exact .inl ⟨whole, rfl, by rw [safe, ← equal]⟩
      · contradiction

-- Numbers that are written as one integer are equal, if they have one sign.
theorem finite_eq_of_safe (x y : Finite64) (i : Int) (sign : x.negative = y.negative)
    (safe : x.safeInteger? = some i) (safe' : y.safeInteger? = some i) : x = y := by
  obtain ⟨z, value, equal⟩ := Finite64.of_safe_integer x i safe
  obtain ⟨z', value', equal'⟩ := Finite64.of_safe_integer y i safe'
  have one : z = z' := by
    rw [value] at value'
    injection value'
  subst one
  exact Finite64.eq_of_same x y sign (Finite64.same_of_both x y z equal equal')

-- Neither is an infinite number written like a finite one, nor an integer like another number.
theorem number_eq_of_same (x y : Binary64) (plain : x.isNonnegative = true) (plain' : y.isNonnegative = true)
    (equal : (ofNumber x).same (ofNumber y) = true) : x = y := by
  match x, y with
  | .infinite negative, .infinite negative' =>
      have sign : negative = negative' := by simp_all [isNonnegative]
      rw [sign]
  | .infinite negative, .finite y =>
      rcases of_finite y with ⟨j, shape, _⟩ | shape
      · rw [shape] at equal
        contradiction
      · rw [shape] at equal
        contradiction
  | .finite x, .infinite negative =>
      rcases of_finite x with ⟨i, shape, _⟩ | shape
      · rw [shape] at equal
        contradiction
      · rw [shape] at equal
        contradiction
  | .finite x, .finite y =>
      have sign : x.negative = y.negative := by simp_all [isNonnegative]
      rcases of_finite x with ⟨i, shape, safe⟩ | shape
      · rcases of_finite y with ⟨j, shape', safe'⟩ | shape'
        · have one : i = j := by simpa [shape, shape', same] using equal
          rw [finite_eq_of_safe x y i.value sign safe (one ▸ safe')]
        · simp [shape, shape', same] at equal
      · rcases of_finite y with ⟨j, shape', _⟩ | shape'
        · simp [shape, shape', same] at equal
        · rw [shape, shape', same] at equal
          rw [Finite64.eq_of_same x y sign equal]
  | .nan, _ => contradiction
  | _, .nan => contradiction

end Json

end ScriptFront
