import ScriptFront.Proofs.GroupedOperands

set_option autoImplicit false

/-! The levels of operators with two operands. Every level is the next one and a loop behind it, which goes on
behind each grouping whose operators are at least as tight. -/

namespace ScriptFront

open Parse Grammar

variable {σ : Type} [TokenSource σ] {act : Actions} {limit : Nat}

section Loops

variable (inner : Nested σ act)

-- What a level does behind its first operand.
def operatorLoop {ω : Type} [Spelled ω] (build : ω → act.Expression → act.Expression → act.Expression)
    (kind : TokenKind) (operand : Parse σ act.Expression) (left : act.Expression) : Parse σ act.Expression :=
  repeatWhile (· == some kind)
    (fun left => do
      let token ← expect kind
      let operator ← operator token
      let right ← operand
      return build operator left right) left

def levelLoop : Rung → act.Expression → Parse σ act.Expression
  | .or => operatorLoop act.logical .logicalOr (level inner (some .and))
  | .and => operatorLoop act.logical .logicalAnd (level inner (some .equality))
  | .equality => operatorLoop act.binary .equality (level inner (some .relational))
  | .relational => operatorLoop act.binary .relational (level inner (some .additive))
  | .additive => operatorLoop act.binary .additive (level inner (some .multiplicative))
  | .multiplicative => operatorLoop act.binary .multiplicative (level inner none)

theorem level_loop_eq (rung : Rung) : level inner (some rung) = level inner rung.tighter >>= levelLoop inner rung := by
  cases rung <;> rfl

-- The loop of the level of an operator.
theorem level_loop_of_operator (operator : InfixOperator) :
    ∃ (ω : Type) (_ : Spelled ω) (build : ω → act.Expression → act.Expression → act.Expression),
      (Spelled.ofSpelling? operator.spelling).map build = some (operator.build act) ∧
      levelLoop inner operator.rung = operatorLoop build operator.rung.kind (level inner operator.rung.tighter) := by
  cases operator with
  | binary operator =>
      refine ⟨BinaryOperator, inferInstance, act.binary, ?_, ?_⟩ <;> cases operator <;> rfl
  | logical operator =>
      refine ⟨LogicalOperator, inferInstance, act.logical, ?_, ?_⟩ <;> cases operator <;> rfl

theorem level_loop_ends (rung : Rung) (e : act.Expression) (rest : List Token) (fits : Prop)
    (apart : kindAhead rest ≠ some rung.kind) (enough : fits) :
    Meets limit fits (levelLoop inner rung e) rest rest (· = e) := by
  have ends (kind : TokenKind) (same : rung.kind = kind) : (kindAhead rest == some kind) = false := by
    simpa [same] using apart
  cases rung
  all_goals exact takes_loop_end (ends _ rfl) ⟨rfl, enough, rfl⟩

end Loops

-- An operator and the operand behind it.
theorem level_loop_goes_on (levels : Nat) (operator : InfixOperator) (op : Token) (left right : act.Expression)
    (v rest : List Token) (enough : Prop) (written : operator.IsWritten op)
    (met : Meets limit enough (level (nested (σ := σ) act limit levels) operator.rung.tighter) (v ++ rest) rest
      (· = right)) :
    GoesOn limit enough (levelLoop (nested (σ := σ) act limit levels) operator.rung left)
      (levelLoop (nested (σ := σ) act limit levels) operator.rung (operator.build act left right)) (op :: v) rest := by
  have sound : (nested (σ := σ) act limit levels).Sound := nested_sound limit levels
  obtain ⟨ω, _, build, builds, same⟩ := level_loop_of_operator (nested (σ := σ) act limit levels) operator
  obtain ⟨known, spelled, built⟩ := Option.map_eq_some_iff.mp builds
  rw [← written.2] at spelled
  rw [same, ← built]
  intro fits left' value needed later
  apply takes_loop_step rfl (lowers_operator_step _ build (yields_level sound operator.rung.tighter))
    (by simp [written.1])
  rw [List.cons_append]
  apply takes_assoc
  apply takes_expect written.1
  apply takes_assoc
  apply takes_operator spelled
  apply takes_assoc
  apply meets_then met needed
  rintro _ found rfl
  exact later found

namespace Grouped

-- The tokens of a row: an operand, and operators with the operands behind them. The last operand may need that
-- an operator does not follow.
inductive Laid (σ : Type) [TokenSource σ] (act : Actions) (limit : Nat) (goes : Option TokenKind → Bool) :
    List Token → act.Expression → List (InfixOperator × act.Expression) → Nat → Prop where
  | last (u : List Token) (e : act.Expression) (n : Nat) :
      UnaryMet σ act limit goes u e n → Laid σ act limit goes u e [] n
  | more (u v : List Token) (op : Token) (operator : InfixOperator) (e first : act.Expression)
      (others : List (InfixOperator × act.Expression)) (m n : Nat) :
      UnaryMet σ act limit continuesOperand u e m → operator.IsWritten op → Laid σ act limit goes v first others n →
      Laid σ act limit goes (u ++ op :: v) e ((operator, first) :: others) (max m n)

-- A row is parted at any of its operators.
theorem laid_split (goes : Option TokenKind → Bool) (w : List Token) (first e : act.Expression)
    (before behind : List (InfixOperator × act.Expression)) (operator : InfixOperator) (n : Nat)
    (laid : Laid σ act limit goes w first (before ++ (operator, e) :: behind) n) :
    ∃ u op v m m', w = u ++ op :: v ∧ n = max m m' ∧ operator.IsWritten op ∧
      Laid σ act limit continuesOperand u first before m ∧ Laid σ act limit goes v e behind m' := by
  induction before generalizing w first n with
  | nil =>
      cases laid with
      | more u v op operator first e others m n met written later =>
          exact ⟨u, op, v, m, n, rfl, rfl, written, .last u first m met, later⟩
  | cons pair before ih =>
      cases laid with
      | more u v op operator' first e' others m n met written later =>
          obtain ⟨u', op', v', m', m'', rfl, rfl, written', front, back⟩ := ih v e' n later
          refine ⟨u ++ op :: u', op', v', max m m', m'', by simp, by omega, written', ?_, back⟩
          exact .more u u' op operator' first e' before m m' met written front

section Levels

variable (levels : Nat) (rest : List Token)

-- A level goes on behind what the next level takes.
theorem level_goes_on (rung : Rung) (enough : Prop) (u : List Token) (e : act.Expression)
    (met : Meets limit enough (level (nested (σ := σ) act limit levels) rung.tighter) (u ++ rest) rest (· = e)) :
    GoesOn limit enough (level (nested (σ := σ) act limit levels) (some rung))
      (levelLoop (nested (σ := σ) act limit levels) rung e) u rest := by
  rw [level_loop_eq]
  exact goes_on_of_meets met

-- So does every level looser than one that goes on, if no operator between them follows.
theorem looser_goes_on (enough : Prop) (u : List Token) (e : act.Expression) (top : Rung)
    (goes : GoesOn limit enough (level (nested (σ := σ) act limit levels) (some top))
      (levelLoop (nested (σ := σ) act limit levels) top e) u rest)
    (rung : Rung) (looser : rung.height ≤ top.height)
    (apart : ∀ rung' : Rung, rung.height < rung'.height → kindAhead rest ≠ some rung'.kind) :
    GoesOn limit enough (level (nested (σ := σ) act limit levels) (some rung))
      (levelLoop (nested (σ := σ) act limit levels) rung e) u rest := by
  by_cases same : rung = top
  · rwa [same]
  · have lower : rung.height < top.height := by
      have different : rung.height ≠ top.height := fun equal => same (Rung.height_injective _ _ equal)
      omega
    cases next : rung.tighter with
    | none =>
        have greatest := rung.height_of_tightest next
        have low := top.height_lt
        omega
    | some rung' =>
        have higher := Rung.height_tighter rung rung' next
        have found := looser_goes_on enough u e top goes rung' (by omega) fun other further => apart other (by omega)
        apply level_goes_on
        rw [next]
        exact meets_of_goes_on found fun fits => level_loop_ends _ rung' e rest _ (apart rung' (by omega)) fits
termination_by top.height - rung.height

-- The next level takes a grouping whose operators are tighter, if it goes on behind it.
theorem tighter_meets (g : Grouping InfixOperator act.Expression) (goes : Option TokenKind → Bool) (u : List Token)
    (n : Nat) (laid : Laid σ act limit goes u g.first g.others n) (rung : Rung)
    (high : ∀ top ∈ g.top?, rung.height < top.height) (stops : goes (kindAhead rest) = false)
    (apart : ∀ rung' : Rung, rung.height < rung'.height → kindAhead rest ≠ some rung'.kind)
    (goesOn : ∀ rung' : Rung, (∀ top ∈ g.top?, rung'.height ≤ top.height) →
      (∀ other : Rung, rung'.height < other.height → kindAhead rest ≠ some other.kind) →
      GoesOn limit (n ≤ levels) (level (nested (σ := σ) act limit levels) (some rung'))
        (levelLoop (nested (σ := σ) act limit levels) rung' (g.expression act)) u rest) :
    Meets limit (n ≤ levels) (level (nested (σ := σ) act limit levels) rung.tighter) (u ++ rest) rest
      (· = g.expression act) := by
  cases next : rung.tighter with
  | none =>
      -- No operator is tighter, so there is only an operand.
      have greatest := rung.height_of_tightest next
      cases g with
      | operand e =>
          cases laid with
          | last u e n found => exact found.met levels rest stops
      | node top _ _ =>
          have higher : rung.height < top.rung.height := high top rfl
          have low := top.rung.height_lt
          omega
  | some rung' =>
      have higher := Rung.height_tighter rung rung' next
      have tight (top : InfixOperator) (found : top ∈ g.top?) : rung'.height ≤ top.rung.height := by
        have above : rung.height < top.rung.height := high top found
        omega
      have found := goesOn rung' tight fun other further => apart other (by omega)
      exact meets_of_goes_on found fun fits => level_loop_ends _ rung' _ rest _ (apart rung' (by omega)) fits

end Levels

-- A level goes on behind every grouping whose operators are at least as tight.
theorem grouping_goes_on (g : Grouping InfixOperator act.Expression) (ordered : g.Ordered InfixOperator.height)
    (goes : Option TokenKind → Bool) (u : List Token) (n : Nat) (laid : Laid σ act limit goes u g.first g.others n)
    (rung : Rung) (tight : ∀ top ∈ g.top?, rung.height ≤ top.height) (levels : Nat) (rest : List Token)
    (stops : goes (kindAhead rest) = false)
    (apart : ∀ rung' : Rung, rung.height < rung'.height → kindAhead rest ≠ some rung'.kind) :
    GoesOn limit (n ≤ levels) (level (nested (σ := σ) act limit levels) (some rung))
      (levelLoop (nested (σ := σ) act limit levels) rung (g.expression act)) u rest := by
  induction g generalizing goes u n rung rest with
  | operand e =>
      cases laid with
      | last u e n met =>
          apply level_goes_on
          exact takes_tighter_alone rung apart (met.met levels rest stops)
  | node operator left right first second =>
      obtain ⟨leftHigh, rightHigh, leftOrdered, rightOrdered⟩ := ordered
      obtain ⟨u, op, v, m, m', rfl, rfl, written, front, back⟩ := laid_split goes u _ _ _ _ operator n laid
      refine looser_goes_on levels rest _ _ _ operator.rung ?_ rung (tight operator rfl) apart
      have low : rung.height ≤ operator.rung.height := tight operator rfl
      have behind (rung' : Rung) (higher : operator.rung.height < rung'.height) :
          kindAhead (op :: (v ++ rest)) ≠ some rung'.kind := by
        rw [kind_ahead_cons, written.1]
        rintro same
        rw [Rung.kind_injective _ _ (Option.some.inj same)] at higher
        exact Nat.lt_irrefl _ higher
      have one := first leftOrdered continuesOperand u m front operator.rung leftHigh (op :: (v ++ rest))
        (by rw [kind_ahead_cons, written.1]; exact continues_operand_rung _) behind
      have apart' (rung' : Rung) (higher : operator.rung.height < rung'.height) :
          kindAhead rest ≠ some rung'.kind := apart rung' (by omega)
      have met := tighter_meets levels rest right goes v m' back operator.rung rightHigh stops apart'
        fun rung' tight' further => second rightOrdered goes v m' back rung' tight' rest stops further
      have two := level_loop_goes_on levels operator op (left.expression act) _ v rest _ written met
      exact goes_on_weaken (goes_on_trans one two) (by omega)

end Grouped

end ScriptFront
