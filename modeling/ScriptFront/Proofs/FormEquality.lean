import ScriptFront.Proofs.Symbols

set_option autoImplicit false

/-! The S-expressions of two sources compare as the same only if their trees do. -/

namespace ScriptFront

open Binary64 (isNonnegative)

namespace SExpr

-- A symbol that does not look like a string in quotes.
def isBare (name : String) : Bool :=
  name.toList.head? != some '"'

mutual
-- No number has a sign, and no symbol a quote in front.
def isPlain : SExpr → Bool
  | .number value => value.isNonnegative
  | .string _ => true
  | .symbol name => isBare name
  | .list items => plainItems items

def plainItems : List SExpr → Bool
  | [] => true
  | item :: items => item.isPlain && plainItems items
end

theorem plain_items_eq_all (items : List SExpr) : plainItems items = items.all isPlain := by
  induction items with
  | nil => rfl
  | cons item items ih => rw [plainItems, List.all_cons, ih]

mutual
theorem same_iff_eq (a b : SExpr) (plain : a.isPlain = true) (plain' : b.isPlain = true) :
    a.same b = true ↔ a = b := by
  cases a with
  | number x =>
      cases b with
      | number y => rw [same, Binary64.same_iff_eq x y plain plain', number.injEq]
      | _ => simp [same]
  | string s => cases b <;> simp [same]
  | symbol name => cases b <;> simp [same]
  | list items =>
      cases b with
      | list items' => rw [same, same_items_iff_eq items items' plain plain', list.injEq]
      | _ => simp [same]
termination_by structural a

theorem same_items_iff_eq (as bs : List SExpr) (plain : plainItems as = true)
    (plain' : plainItems bs = true) : sameItems as bs = true ↔ as = bs := by
  cases as with
  | nil => cases bs <;> simp [sameItems]
  | cons a as =>
      cases bs with
      | nil => simp [sameItems]
      | cons b bs =>
          simp only [plainItems, Bool.and_eq_true] at plain plain'
          have first := same_iff_eq a b plain.1 plain'.1
          have others := same_items_iff_eq as bs plain.2 plain'.2
          rw [sameItems, Bool.and_eq_true, first, others, List.cons.injEq]
termination_by structural as
end

mutual
theorem plain_eq_passes (e : SExpr) : e.isPlain = e.passes isNonnegative isBare := by
  cases e with
  | list items => exact plain_items_eq_pass items
  | _ => rfl
termination_by structural e

theorem plain_items_eq_pass (items : List SExpr) : plainItems items = itemsPass isNonnegative isBare items := by
  cases items with
  | nil => rfl
  | cons item items => rw [plainItems, itemsPass, plain_eq_passes item, plain_items_eq_pass items]
termination_by structural items
end

end SExpr

open SExpr (isBare)

theorem name_bare (id : Identifier) (proper : id.isProper = true) : isBare id.name = true := by
  unfold Identifier.isProper isName at proper
  unfold isBare
  cases chars : id.name.toList with
  | nil => rfl
  | cons c rest =>
      rw [chars] at proper
      simp only [Bool.and_eq_true, Bool.or_eq_true] at proper
      have other : c ≠ '"' := by
        rintro rfl
        exact absurd proper.1.1 (by decide)
      simpa using other

theorem bare_admits : SExpr.Admits isBare where
  name := name_bare
  word := by decide

theorem program_plain (p : Program) (proper : properStatements isNonnegative p.body = true) :
    p.encoded.isPlain = true := by
  rw [SExpr.plain_eq_passes]
  exact program_passes bare_admits p proper

theorem program_same_iff_encoded_same (p q : Program) (proper : properStatements isNonnegative p.body = true)
    (proper' : properStatements isNonnegative q.body = true) :
    p.same q = true ↔ p.encoded.same q.encoded = true := by
  rw [program_same_iff_eq p q proper proper',
    SExpr.same_iff_eq p.encoded q.encoded (program_plain p proper) (program_plain q proper')]
  constructor
  · rintro rfl
    rfl
  · exact program_encoded_injective isNonnegative p q proper proper'

-- Whether two parses fail with one error or both give outputs that are the same.
def sameResult {α : Type} (same : α → α → Bool) : Except Error α → Except Error α → Bool
  | .ok a, .ok b => same a b
  | .error fault, .error fault' => fault == fault'
  | _, _ => false

-- Two parses that succeed, and what holds of both results.
theorem exist_of_results {α : Type} (test : α → α → Bool) (result result' : Except Error α)
    (succeeds : result.isOk = true) (holds : sameResult test result result' = true) :
    ∃ a b, result = .ok a ∧ result' = .ok b ∧ test a b = true := by
  match result, result' with
  | .ok a, .ok b => exact ⟨a, b, rfl, rfl, holds⟩
  | .ok a, .error fault => contradiction
  | .error fault, _ => contradiction

-- Two sources have the same tree, or the same error, exactly if they have the same S-expression.
theorem forms_same_together (left right : String) :
    sameResult Program.same (parse Program.actions left) (parse Program.actions right) = true ↔
      sameResult SExpr.same (parse SExpr.actions left) (parse SExpr.actions right) = true := by
  rw [parse_encoded left, parse_encoded right]
  cases first : parse Program.actions left with
  | error fault =>
      cases parse Program.actions right with
      | error fault' => exact Iff.rfl
      | ok q => exact Iff.rfl
  | ok p =>
      cases second : parse Program.actions right with
      | error fault' => exact Iff.rfl
      | ok q =>
          have proper := proper_of_parse left p first
          have proper' := proper_of_parse right q second
          exact program_same_iff_encoded_same p q proper proper'

end ScriptFront
