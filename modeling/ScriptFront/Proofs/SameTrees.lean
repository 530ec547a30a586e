import ScriptFront.Proofs.FiniteTrees

set_option autoImplicit false

/-! A tree that is the same as one with finite numbers has finite numbers, too. -/

namespace ScriptFront

theorem Binary64.finite_of_same (x y : Binary64) (same : (x == y) = true) (finite : x.isFinite = true) :
    y.isFinite = true := by
  cases x with
  | finite x =>
      cases y with
      | finite y => rfl
      | nan => contradiction
      | infinite negative => contradiction
  | nan => contradiction
  | infinite negative => contradiction

theorem literal_finite_of_same (a b : Literal) (same : a.same b = true) (finite : AllFinite a.numbers) :
    AllFinite b.numbers := by
  cases b with
  | number y =>
      cases a with
      | number x =>
          rw [Literal.numbers, all_finite_one] at finite ⊢
          exact Binary64.finite_of_same x y same finite
      | _ => contradiction
  | _ => exact all_finite_nil

theorem append_finite_of_same (a b c d : List Binary64) (first : AllFinite a → AllFinite c)
    (second : AllFinite b → AllFinite d) (finite : AllFinite (a ++ b)) : AllFinite (c ++ d) := by
  rw [all_finite_append] at finite ⊢
  exact ⟨first finite.1, second finite.2⟩

mutual
theorem expression_finite_of_same (a b : Expression) (same : a.same b = true)
    (finite : AllFinite a.numbers) : AllFinite b.numbers := by
  cases a with
  | literal l =>
      cases b with
      | literal m =>
          rw [Expression.same] at same
          exact literal_finite_of_same l m same finite
      | _ => simp [Expression.same] at same
  | new f list =>
      cases b with
      | new g list' =>
          simp only [Expression.same, Bool.and_eq_true] at same
          exact append_finite_of_same _ _ _ _ (expression_finite_of_same f g same.1)
            (expressions_finite_of_same list list' same.2) finite
      | _ => simp [Expression.same] at same
  | call f list =>
      cases b with
      | call g list' =>
          simp only [Expression.same, Bool.and_eq_true] at same
          exact append_finite_of_same _ _ _ _ (expression_finite_of_same f g same.1)
            (expressions_finite_of_same list list' same.2) finite
      | _ => simp [Expression.same] at same
  | member m =>
      cases b with
      | member n =>
          rw [Expression.same] at same
          exact member_finite_of_same m n same finite
      | _ => simp [Expression.same] at same
  | assignment o t e =>
      cases b with
      | assignment o' t' e' =>
          simp only [Expression.same, Bool.and_eq_true] at same
          exact append_finite_of_same _ _ _ _ (target_finite_of_same t t' same.1.2)
            (expression_finite_of_same e e' same.2) finite
      | _ => simp [Expression.same] at same
  | binary o l r =>
      cases b with
      | binary o' l' r' =>
          simp only [Expression.same, Bool.and_eq_true] at same
          exact append_finite_of_same _ _ _ _ (expression_finite_of_same l l' same.1.2)
            (expression_finite_of_same r r' same.2) finite
      | _ => simp [Expression.same] at same
  | logical o l r =>
      cases b with
      | logical o' l' r' =>
          simp only [Expression.same, Bool.and_eq_true] at same
          exact append_finite_of_same _ _ _ _ (expression_finite_of_same l l' same.1.2)
            (expression_finite_of_same r r' same.2) finite
      | _ => simp [Expression.same] at same
  | unary o e =>
      cases b with
      | unary o' e' =>
          simp only [Expression.same, Bool.and_eq_true] at same
          exact expression_finite_of_same e e' same.2 finite
      | _ => simp [Expression.same] at same
  | _ =>
      cases b with
      | identifier | this | super => exact all_finite_nil
      | _ => simp [Expression.same] at same
termination_by structural a

theorem member_finite_of_same (a b : Member) (same : a.same b = true) (finite : AllFinite a.numbers) :
    AllFinite b.numbers := by
  cases a with
  | named object property =>
      cases b with
      | named object' property' =>
          simp only [Member.same, Bool.and_eq_true] at same
          exact expression_finite_of_same object object' same.1 finite
      | computed => simp [Member.same] at same
  | computed object property =>
      cases b with
      | computed object' property' =>
          simp only [Member.same, Bool.and_eq_true] at same
          exact append_finite_of_same _ _ _ _ (expression_finite_of_same object object' same.1)
            (expression_finite_of_same property property' same.2) finite
      | named => simp [Member.same] at same
termination_by structural a

theorem target_finite_of_same (a b : Target) (same : a.same b = true) (finite : AllFinite a.numbers) :
    AllFinite b.numbers := by
  cases b with
  | identifier id => exact all_finite_nil
  | member n =>
      cases a with
      | member m =>
          rw [Target.same] at same
          exact member_finite_of_same m n same finite
      | identifier id => simp [Target.same] at same
termination_by structural a

theorem expressions_finite_of_same (a b : List Expression) (same : sameExpressions a b = true)
    (finite : AllFinite (expressionsNumbers a)) : AllFinite (expressionsNumbers b) := by
  cases a with
  | nil =>
      cases b with
      | nil => exact all_finite_nil
      | cons f list' => simp [sameExpressions] at same
  | cons e list =>
      cases b with
      | nil => simp [sameExpressions] at same
      | cons f list' =>
          simp only [sameExpressions, Bool.and_eq_true] at same
          exact append_finite_of_same _ _ _ _ (expression_finite_of_same e f same.1)
            (expressions_finite_of_same list list' same.2) finite
termination_by structural a
end

theorem option_finite_of_same {α : Type} (same : α → α → Bool) (numbers : α → List Binary64) (a b : Option α)
    (each : ∀ x y, same x y = true → AllFinite (numbers x) → AllFinite (numbers y))
    (equal : sameOption same a b = true) (finite : AllFinite (optionNumbers numbers a)) :
    AllFinite (optionNumbers numbers b) := by
  cases b with
  | none => exact all_finite_nil
  | some y =>
      cases a with
      | none => contradiction
      | some x => exact each x y equal finite

theorem list_finite_of_same {α : Type} (same : α → α → Bool) (numbers : α → List Binary64) (a b : List α)
    (each : ∀ x y, same x y = true → AllFinite (numbers x) → AllFinite (numbers y))
    (equal : sameList same a b = true) (finite : AllFinite (a.flatMap numbers)) :
    AllFinite (b.flatMap numbers) := by
  induction a generalizing b with
  | nil =>
      cases b with
      | nil => exact all_finite_nil
      | cons y list' => contradiction
  | cons x list ih =>
      cases b with
      | nil => contradiction
      | cons y list' =>
          simp only [sameList, Bool.and_eq_true] at equal
          rw [List.flatMap_cons, all_finite_append] at finite ⊢
          exact ⟨each x y equal.1 finite.1, ih list' equal.2 finite.2⟩

theorem declaration_finite_of_same (a b : VariableDeclaration) (same : a.same b = true)
    (finite : AllFinite a.numbers) : AllFinite b.numbers := by
  simp only [VariableDeclaration.same, Bool.and_eq_true] at same
  exact option_finite_of_same _ _ a.init b.init expression_finite_of_same same.2 finite

theorem for_init_finite_of_same (a b : ForInit) (same : a.same b = true) (finite : AllFinite a.numbers) :
    AllFinite b.numbers := by
  match a, b with
  | .variables list, .variables list' =>
      exact list_finite_of_same _ _ list list' declaration_finite_of_same same finite
  | .expression e, .expression f => exact expression_finite_of_same e f same finite
  | .variables _, .expression _ => contradiction
  | .expression _, .variables _ => contradiction

mutual
theorem statement_finite_of_same (a b : Statement) (same : a.same b = true)
    (finite : AllFinite a.numbers) : AllFinite b.numbers := by
  cases a with
  | block body =>
      cases b with
      | block body' =>
          rw [Statement.same] at same
          exact statements_finite_of_same body body' same finite
      | _ => simp [Statement.same] at same
  | empty =>
      cases b with
      | empty => exact all_finite_nil
      | _ => simp [Statement.same] at same
  | expression e =>
      cases b with
      | expression f =>
          rw [Statement.same] at same
          exact expression_finite_of_same e f same finite
      | _ => simp [Statement.same] at same
  | «variables» list =>
      cases b with
      | «variables» list' =>
          rw [Statement.same] at same
          exact list_finite_of_same _ _ list list' declaration_finite_of_same same finite
      | _ => simp [Statement.same] at same
  | conditional test s alternate =>
      cases b with
      | conditional test' s' alternate' =>
          cases alternate with
          | none =>
              cases alternate' with
              | none =>
                  simp only [Statement.same, Bool.and_eq_true] at same
                  exact append_finite_of_same _ _ _ _ (expression_finite_of_same test test' same.1)
                    (statement_finite_of_same s s' same.2) finite
              | some t' => simp [Statement.same] at same
          | some t =>
              cases alternate' with
              | none => simp [Statement.same] at same
              | some t' =>
                  simp only [Statement.same, Bool.and_eq_true] at same
                  simp only [Statement.numbers, all_finite_append] at finite ⊢
                  refine ⟨⟨?_, ?_⟩, ?_⟩
                  · exact expression_finite_of_same test test' same.1.1 finite.1.1
                  · exact statement_finite_of_same s s' same.1.2 finite.1.2
                  · exact statement_finite_of_same t t' same.2 finite.2
      | _ => simp [Statement.same] at same
  | whileLoop test s =>
      cases b with
      | whileLoop test' s' =>
          simp only [Statement.same, Bool.and_eq_true] at same
          exact append_finite_of_same _ _ _ _ (expression_finite_of_same test test' same.1)
            (statement_finite_of_same s s' same.2) finite
      | _ => simp [Statement.same] at same
  | doWhileLoop s test =>
      cases b with
      | doWhileLoop s' test' =>
          simp only [Statement.same, Bool.and_eq_true] at same
          exact append_finite_of_same _ _ _ _ (statement_finite_of_same s s' same.1)
            (expression_finite_of_same test test' same.2) finite
      | _ => simp [Statement.same] at same
  | forLoop init test update s =>
      cases b with
      | forLoop init' test' update' s' =>
          simp only [Statement.same, Bool.and_eq_true] at same
          simp only [Statement.numbers, all_finite_append] at finite ⊢
          obtain ⟨⟨⟨one, two⟩, three⟩, four⟩ := same
          refine ⟨⟨⟨?_, ?_⟩, ?_⟩, ?_⟩
          · exact option_finite_of_same _ _ init init' for_init_finite_of_same one finite.1.1.1
          · exact option_finite_of_same _ _ test test' expression_finite_of_same two finite.1.1.2
          · exact option_finite_of_same _ _ update update' expression_finite_of_same three finite.1.2
          · exact statement_finite_of_same s s' four finite.2
      | _ => simp [Statement.same] at same
  | function name params body =>
      cases b with
      | function name' params' body' =>
          simp only [Statement.same, Bool.and_eq_true] at same
          exact statements_finite_of_same body body' same.2 finite
      | _ => simp [Statement.same] at same
  | returning argument =>
      cases b with
      | returning argument' =>
          rw [Statement.same] at same
          exact option_finite_of_same _ _ argument argument' expression_finite_of_same same finite
      | _ => simp [Statement.same] at same
  | classDeclaration id superClass body =>
      cases b with
      | classDeclaration id' superClass' body' =>
          simp only [Statement.same, Bool.and_eq_true] at same
          exact statements_finite_of_same body body' same.2 finite
      | _ => simp [Statement.same] at same
termination_by structural a

theorem statements_finite_of_same (a b : List Statement) (same : sameStatements a b = true)
    (finite : AllFinite (statementsNumbers a)) : AllFinite (statementsNumbers b) := by
  cases a with
  | nil =>
      cases b with
      | nil => exact all_finite_nil
      | cons t list' => simp [sameStatements] at same
  | cons s list =>
      cases b with
      | nil => simp [sameStatements] at same
      | cons t list' =>
          simp only [sameStatements, Bool.and_eq_true] at same
          exact append_finite_of_same _ _ _ _ (statement_finite_of_same s t same.1)
            (statements_finite_of_same list list' same.2) finite
termination_by structural a
end

end ScriptFront
