set_option autoImplicit false

/-! Groupings of operands and operators in a row. Where every operator has a height, a row has exactly one
grouping with the higher operators further down and operators of one height grouped to the left. -/

namespace ScriptFront

inductive Grouping (ω α : Type) where
  | operand (a : α)
  | node (operator : ω) (left right : Grouping ω α)

namespace Grouping

variable {ω α : Type}

def first : Grouping ω α → α
  | .operand a => a
  | .node _ left _ => left.first

-- The operators in their order, each with the operand behind it.
def others : Grouping ω α → List (ω × α)
  | .operand _ => []
  | .node operator left right => left.others ++ (operator, right.first) :: right.others

-- Operands and operators from left to right.
def reading (g : Grouping ω α) : α × List (ω × α) :=
  (g.first, g.others)

def top? : Grouping ω α → Option ω
  | .operand _ => none
  | .node operator _ _ => some operator

section Heights

variable (height : ω → Nat)

-- An operator to the left below another one is at least as high, and one to the right is higher.
def Ordered : Grouping ω α → Prop
  | .operand _ => True
  | .node operator left right =>
      (∀ below ∈ left.top?, height operator ≤ height below) ∧
        (∀ below ∈ right.top?, height operator < height below) ∧ left.Ordered ∧ right.Ordered

-- One more operand on the left takes its place above the operators that are higher than the one behind it.
def prepend (a : α) (operator : ω) : Grouping ω α → Grouping ω α
  | .operand b => .node operator (.operand a) (.operand b)
  | .node top left right =>
      if height operator < height top then .node operator (.operand a) (.node top left right)
      else .node top (left.prepend a operator) right

def ofReading (a : α) : List (ω × α) → Grouping ω α
  | [] => .operand a
  | (operator, b) :: others => prepend height a operator (ofReading b others)

variable {height}

theorem prepend_reading (a : α) (operator : ω) (g : Grouping ω α) :
    (prepend height a operator g).reading = (a, (operator, g.first) :: g.others) := by
  induction g with
  | operand b => rfl
  | node top left right first _ =>
      unfold prepend
      split
      · rfl
      · injection first with same same'
        simp only [reading, Grouping.first, others, same, same', List.cons_append]

theorem prepend_top (a : α) (operator : ω) (g : Grouping ω α) :
    (prepend height a operator g).top? = some operator ∨ (prepend height a operator g).top? = g.top? := by
  cases g with
  | operand b => exact .inl rfl
  | node top left right =>
      unfold prepend
      split
      · exact .inl rfl
      · exact .inr rfl

theorem prepend_ordered (a : α) (operator : ω) (g : Grouping ω α) (ordered : g.Ordered height) :
    (prepend height a operator g).Ordered height := by
  induction g with
  | operand b => simp [prepend, Ordered, top?]
  | node top left right first _ =>
      unfold prepend
      split
      · rename_i lower
        exact ⟨by simp [top?], by simpa [top?] using lower, trivial, ordered⟩
      · rename_i higher
        obtain ⟨leftHigh, rightHigh, leftOrdered, rightOrdered⟩ := ordered
        refine ⟨?_, rightHigh, first leftOrdered, rightOrdered⟩
        intro below found
        have tops : (prepend height a operator left).top? = some operator ∨ _ := prepend_top a operator left
        rcases tops with same | same
        · rw [same] at found
          injection found with found
          subst found
          exact Nat.le_of_not_lt higher
        · exact leftHigh below (same ▸ found)

theorem of_reading_reading (a : α) (others : List (ω × α)) : (ofReading height a others).reading = (a, others) := by
  induction others generalizing a with
  | nil => rfl
  | cons pair others ih =>
      obtain ⟨operator, b⟩ := pair
      obtain ⟨first, later⟩ := Prod.mk.inj (ih b)
      rw [ofReading, prepend_reading, first, later]

theorem of_reading_ordered (a : α) (others : List (ω × α)) : (ofReading height a others).Ordered height := by
  induction others generalizing a with
  | nil => trivial
  | cons pair others ih => exact prepend_ordered a pair.1 _ (ih pair.2)

-- A grouping with an operator is its first operand in front of a grouping of the others, and no operator of
-- that one at the top is lower.
theorem eq_prepend (g : Grouping ω α) (ordered : g.Ordered height) (operator : ω) (b : α) (later : List (ω × α))
    (row : g.others = (operator, b) :: later) :
    ∃ g', g'.Ordered height ∧ g'.reading = (b, later) ∧ g = prepend height g.first operator g' ∧
      ∃ top ∈ g.top?, height top ≤ height operator ∧ ∀ below ∈ g'.top?, height top ≤ height below := by
  induction g generalizing later with
  | operand a => contradiction
  | node top left right ih _ =>
      obtain ⟨leftHigh, rightHigh, leftOrdered, rightOrdered⟩ := ordered
      cases left with
      | operand a =>
          injection row with pair same
          injection pair with same' same''
          subst same same' same''
          refine ⟨right, rightOrdered, rfl, ?_, top, rfl, Nat.le_refl _, fun below found => ?_⟩
          · cases right with
            | operand b => rfl
            | node below _ _ => exact (if_pos (rightHigh below rfl)).symm
          · exact Nat.le_of_lt (rightHigh below found)
      | node below left' right' =>
          obtain ⟨later', row', same⟩ : ∃ later', (node below left' right').others = (operator, b) :: later' ∧
              later = later' ++ (top, right.first) :: right.others := by
            rw [others] at row
            cases found : (node below left' right').others with
            | nil => simp [others] at found
            | cons pair later' =>
                rw [found] at row
                injection row with same same'
                exact ⟨later', by rw [same], same'.symm⟩
          obtain ⟨g', ordered', reads, whole, below', found, low, high⟩ := ih leftOrdered later' row'
          injection found with found
          subst found
          have lower := leftHigh below rfl
          obtain ⟨first, behind⟩ := Prod.mk.inj reads
          refine ⟨.node top g' right, ⟨fun next found => ?_, rightHigh, ordered', rightOrdered⟩, ?_, ?_, top, rfl,
            by omega, by simp [top?]⟩
          · exact Nat.le_trans lower (high next found)
          · rw [reading, Grouping.first, others, first, behind, same]
          · change node top (node below left' right') right =
              prepend height (node below left' right').first operator (node top g' right)
            rw [prepend, if_neg (by omega), ← whole]

theorem eq_of_reading (g : Grouping ω α) (ordered : g.Ordered height) : g = ofReading height g.first g.others := by
  generalize row : g.others = later
  induction later generalizing g with
  | nil =>
      cases g with
      | operand a => rfl
      | node top left right => simp [others] at row
  | cons pair later ih =>
      obtain ⟨g', ordered', reads, whole, _⟩ := eq_prepend g ordered pair.1 pair.2 later row
      obtain ⟨first, behind⟩ := Prod.mk.inj reads
      rw [ofReading, ← first, ← ih g' ordered' behind]
      exact whole

-- The one grouping of a row.
theorem grouping_iff (g : Grouping ω α) (row : α × List (ω × α)) :
    g.reading = row ∧ g.Ordered height ↔ g = ofReading height row.1 row.2 := by
  constructor
  · rintro ⟨rfl, ordered⟩
    exact eq_of_reading g ordered
  · rintro rfl
    exact ⟨of_reading_reading row.1 row.2, of_reading_ordered row.1 row.2⟩

end Heights

end Grouping

end ScriptFront
