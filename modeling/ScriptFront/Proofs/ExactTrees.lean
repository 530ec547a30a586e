import ScriptFront.Proofs.FiniteTrees
import ScriptFront.Proofs.WellFormedTrees

set_option autoImplicit false

/-! Where no number has a sign, trees that compare as the same are equal: there is one zero only, and
every number is the same as itself. The numbers of a source have no sign. -/

namespace ScriptFront

open Binary64 (isNonnegative)

namespace Finite64

theorem exponent_of_zero (x : Finite64) (zero : x.isZero = true) : x.exponent = leastExponent := by
  have none : x.mantissa = 0 := by simpa [isZero] using zero
  obtain ⟨_, _, _, normal | least⟩ := canonical_iff.mp x.canonical
  · omega
  · exact least

theorem eq_of_same (x y : Finite64) (sign : x.negative = y.negative) (same : x.same y = true) : x = y := by
  simp only [Finite64.same, Bool.or_eq_true, Bool.and_eq_true, beq_iff_eq] at same
  rcases same with equal | ⟨zero, zero'⟩
  · exact equal
  · have exponent := (exponent_of_zero x zero).trans (exponent_of_zero y zero').symm
    have mantissa : x.mantissa = y.mantissa := by
      simp only [isZero, beq_iff_eq] at zero zero'
      exact zero.trans zero'.symm
    cases x
    cases y
    simp_all

end Finite64

theorem Binary64.same_iff_eq (x y : Binary64) (plain : x.isNonnegative = true)
    (plain' : y.isNonnegative = true) : (x == y) = true ↔ x = y := by
  constructor
  · intro same
    cases x with
    | nan => contradiction
    | infinite negative =>
        cases y with
        | infinite negative' =>
            have sign : negative = negative' := by simp_all [isNonnegative]
            rw [sign]
        | nan | finite y => contradiction
    | finite x =>
        cases y with
        | finite y =>
            have sign : x.negative = y.negative := by simp_all [isNonnegative]
            rw [Finite64.eq_of_same x y sign same]
        | nan | infinite negative => contradiction
  · rintro rfl
    cases x with
    | nan => contradiction
    | infinite negative => exact beq_self_eq_true negative
    | finite x => exact Finite64.same_refl x

theorem literal_same_iff_eq (a b : Literal) (plain : a.numbers.all isNonnegative = true)
    (plain' : b.numbers.all isNonnegative = true) : a.same b = true ↔ a = b := by
  cases a with
  | number x =>
      cases b with
      | number y =>
          simp only [Literal.numbers, List.all_cons, List.all_nil, Bool.and_true] at plain plain'
          rw [Literal.same, Binary64.same_iff_eq x y plain plain', Literal.number.injEq]
      | _ => simp [Literal.same]
  | _ => cases b <;> simp [Literal.same]

mutual
theorem expression_same_iff_eq (a b : Expression) (plain : a.numbers.all isNonnegative = true)
    (plain' : b.numbers.all isNonnegative = true) : a.same b = true ↔ a = b := by
  cases a with
  | identifier id => cases b <;> simp [Expression.same]
  | literal l =>
      cases b with
      | literal m => rw [Expression.same, literal_same_iff_eq l m plain plain', Expression.literal.injEq]
      | _ => simp [Expression.same]
  | this => cases b <;> simp [Expression.same]
  | super => cases b <;> simp [Expression.same]
  | new f list =>
      cases b with
      | new g list' =>
          simp only [Expression.numbers, List.all_append, Bool.and_eq_true] at plain plain'
          have callee := expression_same_iff_eq f g plain.1 plain'.1
          have arguments := expressions_same_iff_eq list list' plain.2 plain'.2
          simp only [Expression.same, Bool.and_eq_true, callee, arguments, Expression.new.injEq]
      | _ => simp [Expression.same]
  | call f list =>
      cases b with
      | call g list' =>
          simp only [Expression.numbers, List.all_append, Bool.and_eq_true] at plain plain'
          have callee := expression_same_iff_eq f g plain.1 plain'.1
          have arguments := expressions_same_iff_eq list list' plain.2 plain'.2
          simp only [Expression.same, Bool.and_eq_true, callee, arguments, Expression.call.injEq]
      | _ => simp [Expression.same]
  | member m =>
      cases b with
      | member n => rw [Expression.same, member_same_iff_eq m n plain plain', Expression.member.injEq]
      | _ => simp [Expression.same]
  | assignment o t e =>
      cases b with
      | assignment o' t' e' =>
          simp only [Expression.numbers, List.all_append, Bool.and_eq_true] at plain plain'
          have place := target_same_iff_eq t t' plain.1 plain'.1
          have value := expression_same_iff_eq e e' plain.2 plain'.2
          simp only [Expression.same, Bool.and_eq_true, beq_iff_eq, place, value, and_assoc,
            Expression.assignment.injEq]
      | _ => simp [Expression.same]
  | binary o l r =>
      cases b with
      | binary o' l' r' =>
          simp only [Expression.numbers, List.all_append, Bool.and_eq_true] at plain plain'
          have left := expression_same_iff_eq l l' plain.1 plain'.1
          have right := expression_same_iff_eq r r' plain.2 plain'.2
          simp only [Expression.same, Bool.and_eq_true, beq_iff_eq, left, right, and_assoc,
            Expression.binary.injEq]
      | _ => simp [Expression.same]
  | logical o l r =>
      cases b with
      | logical o' l' r' =>
          simp only [Expression.numbers, List.all_append, Bool.and_eq_true] at plain plain'
          have left := expression_same_iff_eq l l' plain.1 plain'.1
          have right := expression_same_iff_eq r r' plain.2 plain'.2
          simp only [Expression.same, Bool.and_eq_true, beq_iff_eq, left, right, and_assoc,
            Expression.logical.injEq]
      | _ => simp [Expression.same]
  | unary o e =>
      cases b with
      | unary o' e' =>
          have argument := expression_same_iff_eq e e' plain plain'
          simp only [Expression.same, Bool.and_eq_true, beq_iff_eq, argument, Expression.unary.injEq]
      | _ => simp [Expression.same]
termination_by structural a

theorem member_same_iff_eq (a b : Member) (plain : a.numbers.all isNonnegative = true)
    (plain' : b.numbers.all isNonnegative = true) : a.same b = true ↔ a = b := by
  cases a with
  | named object property =>
      cases b with
      | named object' property' =>
          have first := expression_same_iff_eq object object' plain plain'
          simp only [Member.same, Bool.and_eq_true, beq_iff_eq, first, Member.named.injEq]
      | computed => simp [Member.same]
  | computed object property =>
      cases b with
      | computed object' property' =>
          simp only [Member.numbers, List.all_append, Bool.and_eq_true] at plain plain'
          have first := expression_same_iff_eq object object' plain.1 plain'.1
          have second := expression_same_iff_eq property property' plain.2 plain'.2
          simp only [Member.same, Bool.and_eq_true, first, second, Member.computed.injEq]
      | named => simp [Member.same]
termination_by structural a

theorem target_same_iff_eq (a b : Target) (plain : a.numbers.all isNonnegative = true)
    (plain' : b.numbers.all isNonnegative = true) : a.same b = true ↔ a = b := by
  cases a with
  | identifier id => cases b <;> simp [Target.same]
  | member m =>
      cases b with
      | member n => rw [Target.same, member_same_iff_eq m n plain plain', Target.member.injEq]
      | identifier id => simp [Target.same]
termination_by structural a

theorem expressions_same_iff_eq (a b : List Expression)
    (plain : (expressionsNumbers a).all isNonnegative = true)
    (plain' : (expressionsNumbers b).all isNonnegative = true) : sameExpressions a b = true ↔ a = b := by
  cases a with
  | nil => cases b <;> simp [sameExpressions]
  | cons e list =>
      cases b with
      | nil => simp [sameExpressions]
      | cons f list' =>
          simp only [expressionsNumbers, List.all_append, Bool.and_eq_true] at plain plain'
          have first := expression_same_iff_eq e f plain.1 plain'.1
          have others := expressions_same_iff_eq list list' plain.2 plain'.2
          simp only [sameExpressions, Bool.and_eq_true, first, others, List.cons.injEq]
termination_by structural a
end

section Parts

variable {α : Type} (same : α → α → Bool) (numbers : α → List Binary64)
  (each : ∀ x y, (numbers x).all isNonnegative = true → (numbers y).all isNonnegative = true →
    (same x y = true ↔ x = y))
include each

theorem option_same_iff_eq (a b : Option α) (plain : (optionNumbers numbers a).all isNonnegative = true)
    (plain' : (optionNumbers numbers b).all isNonnegative = true) : sameOption same a b = true ↔ a = b := by
  cases a with
  | none => cases b <;> simp [sameOption]
  | some x =>
      cases b with
      | none => simp [sameOption]
      | some y => rw [sameOption, each x y plain plain', Option.some.injEq]

theorem list_same_iff_eq (a b : List α) (plain : (a.flatMap numbers).all isNonnegative = true)
    (plain' : (b.flatMap numbers).all isNonnegative = true) : sameList same a b = true ↔ a = b := by
  induction a generalizing b with
  | nil => cases b <;> simp [sameList]
  | cons x list ih =>
      cases b with
      | nil => simp [sameList]
      | cons y list' =>
          simp only [List.flatMap_cons, List.all_append, Bool.and_eq_true] at plain plain'
          rw [sameList, Bool.and_eq_true, each x y plain.1 plain'.1, ih list' plain.2 plain'.2,
            List.cons.injEq]

end Parts

theorem declaration_same_iff_eq (a b : VariableDeclaration) (plain : a.numbers.all isNonnegative = true)
    (plain' : b.numbers.all isNonnegative = true) : a.same b = true ↔ a = b := by
  obtain ⟨id, init⟩ := a
  obtain ⟨id', init'⟩ := b
  have parts := option_same_iff_eq _ _ expression_same_iff_eq init init' plain plain'
  simp only [VariableDeclaration.same, Bool.and_eq_true, beq_iff_eq, parts, VariableDeclaration.mk.injEq]

theorem for_init_same_iff_eq (a b : ForInit) (plain : a.numbers.all isNonnegative = true)
    (plain' : b.numbers.all isNonnegative = true) : a.same b = true ↔ a = b := by
  match a, b with
  | .variables list, .variables list' =>
      rw [ForInit.same, list_same_iff_eq _ _ declaration_same_iff_eq list list' plain plain',
        ForInit.variables.injEq]
  | .expression e, .expression f =>
      rw [ForInit.same, expression_same_iff_eq e f plain plain', ForInit.expression.injEq]
  | .variables _, .expression _ => simp [ForInit.same]
  | .expression _, .variables _ => simp [ForInit.same]

mutual
theorem statement_same_iff_eq (a b : Statement) (plain : a.numbers.all isNonnegative = true)
    (plain' : b.numbers.all isNonnegative = true) : a.same b = true ↔ a = b := by
  cases a with
  | block body =>
      cases b with
      | block body' =>
          rw [Statement.same, statements_same_iff_eq body body' plain plain', Statement.block.injEq]
      | _ => simp [Statement.same]
  | empty => cases b <;> simp [Statement.same]
  | expression e =>
      cases b with
      | expression f =>
          rw [Statement.same, expression_same_iff_eq e f plain plain', Statement.expression.injEq]
      | _ => simp [Statement.same]
  | «variables» list =>
      cases b with
      | «variables» list' =>
          rw [Statement.same, list_same_iff_eq _ _ declaration_same_iff_eq list list' plain plain',
            Statement.variables.injEq]
      | _ => simp [Statement.same]
  | conditional test s alternate =>
      cases b with
      | conditional test' s' alternate' =>
          cases alternate with
          | none =>
              cases alternate' with
              | none =>
                  simp only [Statement.numbers, List.all_append, Bool.and_eq_true] at plain plain'
                  have first := expression_same_iff_eq test test' plain.1 plain'.1
                  have second := statement_same_iff_eq s s' plain.2 plain'.2
                  simp only [Statement.same, Bool.and_eq_true, first, second, Statement.conditional.injEq,
                    and_true]
              | some t' => simp [Statement.same]
          | some t =>
              cases alternate' with
              | none => simp [Statement.same]
              | some t' =>
                  simp only [Statement.numbers, List.all_append, Bool.and_eq_true] at plain plain'
                  have first := expression_same_iff_eq test test' plain.1.1 plain'.1.1
                  have second := statement_same_iff_eq s s' plain.1.2 plain'.1.2
                  have third := statement_same_iff_eq t t' plain.2 plain'.2
                  simp only [Statement.same, Bool.and_eq_true, first, second, third, and_assoc,
                    Statement.conditional.injEq, Option.some.injEq]
      | _ => simp [Statement.same]
  | whileLoop test s =>
      cases b with
      | whileLoop test' s' =>
          simp only [Statement.numbers, List.all_append, Bool.and_eq_true] at plain plain'
          have first := expression_same_iff_eq test test' plain.1 plain'.1
          have second := statement_same_iff_eq s s' plain.2 plain'.2
          simp only [Statement.same, Bool.and_eq_true, first, second, Statement.whileLoop.injEq]
      | _ => simp [Statement.same]
  | doWhileLoop s test =>
      cases b with
      | doWhileLoop s' test' =>
          simp only [Statement.numbers, List.all_append, Bool.and_eq_true] at plain plain'
          have first := statement_same_iff_eq s s' plain.1 plain'.1
          have second := expression_same_iff_eq test test' plain.2 plain'.2
          simp only [Statement.same, Bool.and_eq_true, first, second, Statement.doWhileLoop.injEq]
      | _ => simp [Statement.same]
  | forLoop init test update s =>
      cases b with
      | forLoop init' test' update' s' =>
          simp only [Statement.numbers, List.all_append, Bool.and_eq_true] at plain plain'
          have first := option_same_iff_eq _ _ for_init_same_iff_eq init init' plain.1.1.1 plain'.1.1.1
          have second := option_same_iff_eq _ _ expression_same_iff_eq test test' plain.1.1.2 plain'.1.1.2
          have third := option_same_iff_eq _ _ expression_same_iff_eq update update' plain.1.2 plain'.1.2
          have fourth := statement_same_iff_eq s s' plain.2 plain'.2
          simp only [Statement.same, Bool.and_eq_true, first, second, third, fourth, and_assoc,
            Statement.forLoop.injEq]
      | _ => simp [Statement.same]
  | function name params body =>
      cases b with
      | function name' params' body' =>
          have block := statements_same_iff_eq body body' plain plain'
          simp only [Statement.same, Bool.and_eq_true, beq_iff_eq, block, and_assoc,
            Statement.function.injEq]
      | _ => simp [Statement.same]
  | returning argument =>
      cases b with
      | returning argument' =>
          rw [Statement.same, option_same_iff_eq _ _ expression_same_iff_eq argument argument' plain plain',
            Statement.returning.injEq]
      | _ => simp [Statement.same]
  | classDeclaration id superClass body =>
      cases b with
      | classDeclaration id' superClass' body' =>
          have block := statements_same_iff_eq body body' plain plain'
          simp only [Statement.same, Bool.and_eq_true, beq_iff_eq, block, and_assoc,
            Statement.classDeclaration.injEq]
      | _ => simp [Statement.same]
termination_by structural a

theorem statements_same_iff_eq (a b : List Statement)
    (plain : (statementsNumbers a).all isNonnegative = true)
    (plain' : (statementsNumbers b).all isNonnegative = true) : sameStatements a b = true ↔ a = b := by
  cases a with
  | nil => cases b <;> simp [sameStatements]
  | cons s list =>
      cases b with
      | nil => simp [sameStatements]
      | cons t list' =>
          simp only [statementsNumbers, List.all_append, Bool.and_eq_true] at plain plain'
          have first := statement_same_iff_eq s t plain.1 plain'.1
          have others := statements_same_iff_eq list list' plain.2 plain'.2
          simp only [sameStatements, Bool.and_eq_true, first, others, List.cons.injEq]
termination_by structural a
end

section Proper

variable (number : Binary64 → Bool)

theorem literal_numbers_of_proper (l : Literal) (proper : l.isProper number = true) :
    l.numbers.all number = true := by
  cases l with
  | number value => simpa [Literal.numbers, Literal.isProper] using proper
  | _ => rfl

mutual
-- The numbers of a proper tree pass the test. A callee may be `super`, which has none.
theorem expression_numbers_of_proper (e : Expression) (proper : (e.isSuper || e.isProper number) = true) :
    e.numbers.all number = true := by
  cases e with
  | literal l => exact literal_numbers_of_proper number l proper
  | new callee arguments =>
      simp only [Expression.isSuper, Expression.isProper, Bool.false_or, Bool.and_eq_true] at proper
      have first := expression_numbers_of_proper callee (callee_of_proper number callee proper.1)
      simp [Expression.numbers, first, expressions_numbers_of_proper arguments proper.2]
  | call callee arguments =>
      simp only [Expression.isSuper, Expression.isProper, Bool.false_or, Bool.and_eq_true] at proper
      have first := expression_numbers_of_proper callee proper.1
      simp [Expression.numbers, first, expressions_numbers_of_proper arguments proper.2]
  | member place => exact member_numbers_of_proper place proper
  | assignment operator target value =>
      simp only [Expression.isSuper, Expression.isProper, Bool.false_or, Bool.and_eq_true] at proper
      have first := target_numbers_of_proper target proper.1
      have second := expression_numbers_of_proper value (callee_of_proper number value proper.2)
      simp [Expression.numbers, first, second]
  | binary operator left right | logical operator left right =>
      simp only [Expression.isSuper, Expression.isProper, Bool.false_or, Bool.and_eq_true] at proper
      have first := expression_numbers_of_proper left (callee_of_proper number left proper.1)
      have second := expression_numbers_of_proper right (callee_of_proper number right proper.2)
      simp [Expression.numbers, first, second]
  | unary operator argument =>
      simp only [Expression.isSuper, Expression.isProper, Bool.false_or] at proper
      exact expression_numbers_of_proper argument (callee_of_proper number argument proper)
  | _ => rfl
termination_by structural e

theorem member_numbers_of_proper (m : Member) (proper : m.isProper number = true) :
    m.numbers.all number = true := by
  cases m with
  | named object property =>
      simp only [Member.isProper, Bool.and_eq_true] at proper
      exact expression_numbers_of_proper object (callee_of_proper number object proper.1)
  | computed object property =>
      simp only [Member.isProper, Bool.and_eq_true] at proper
      have first := expression_numbers_of_proper object (callee_of_proper number object proper.1)
      have second := expression_numbers_of_proper property (callee_of_proper number property proper.2)
      simp [Member.numbers, first, second]
termination_by structural m

theorem target_numbers_of_proper (t : Target) (proper : t.isProper number = true) :
    t.numbers.all number = true := by
  cases t with
  | identifier id => rfl
  | member place => exact member_numbers_of_proper place proper
termination_by structural t

theorem expressions_numbers_of_proper (list : List Expression) (proper : properExpressions number list = true) :
    (expressionsNumbers list).all number = true := by
  cases list with
  | nil => rfl
  | cons e rest =>
      simp only [properExpressions, Bool.and_eq_true] at proper
      have first := expression_numbers_of_proper e (callee_of_proper number e proper.1)
      simp [expressionsNumbers, first, expressions_numbers_of_proper rest proper.2]
termination_by structural list
end

theorem option_numbers_of_proper {α : Type} (numbers : α → List Binary64) (isProper : α → Bool)
    (each : ∀ a, isProper a = true → (numbers a).all number = true) (o : Option α)
    (proper : o.all isProper = true) : (optionNumbers numbers o).all number = true := by
  cases o with
  | none => rfl
  | some a => exact each a proper

theorem optional_expression_numbers_of_proper (o : Option Expression)
    (proper : o.all (Expression.isProper number) = true) :
    (optionNumbers Expression.numbers o).all number = true :=
  option_numbers_of_proper number _ _
    (fun e proper => expression_numbers_of_proper number e (callee_of_proper number e proper)) o proper

theorem variables_numbers_of_proper (list : List VariableDeclaration)
    (proper : properVariables number list = true) :
    (list.flatMap VariableDeclaration.numbers).all number = true := by
  simp only [properVariables, Bool.and_eq_true, List.all_eq_true] at proper
  rw [List.all_flatMap, List.all_eq_true]
  intro declaration member
  have each := proper.2 declaration member
  simp only [VariableDeclaration.isProper, Bool.and_eq_true] at each
  exact optional_expression_numbers_of_proper number declaration.init each.2

theorem for_init_numbers_of_proper (init : ForInit) (proper : init.isProper number = true) :
    init.numbers.all number = true := by
  match init with
  | .variables list => exact variables_numbers_of_proper number list proper
  | .expression e => exact expression_numbers_of_proper number e (callee_of_proper number e proper)

mutual
theorem statement_numbers_of_proper (s : Statement) (proper : s.isProper number = true) :
    s.numbers.all number = true := by
  match s with
  | .block body => exact statements_numbers_of_proper body proper
  | .empty => rfl
  | .expression e => exact expression_numbers_of_proper number e (callee_of_proper number e proper)
  | .variables list => exact variables_numbers_of_proper number list proper
  | .conditional test consequent none =>
      simp only [Statement.isProper, Bool.and_eq_true] at proper
      have first := expression_numbers_of_proper number test (callee_of_proper number test proper.1)
      simp [Statement.numbers, first, statement_numbers_of_proper consequent proper.2]
  | .conditional test consequent (some alternate) =>
      simp only [Statement.isProper, Bool.and_eq_true] at proper
      have first := expression_numbers_of_proper number test (callee_of_proper number test proper.1.1)
      simp [Statement.numbers, first, statement_numbers_of_proper consequent proper.1.2,
        statement_numbers_of_proper alternate proper.2]
  | .whileLoop test body =>
      simp only [Statement.isProper, Bool.and_eq_true] at proper
      have first := expression_numbers_of_proper number test (callee_of_proper number test proper.1)
      simp [Statement.numbers, first, statement_numbers_of_proper body proper.2]
  | .doWhileLoop body test =>
      simp only [Statement.isProper, Bool.and_eq_true] at proper
      have second := expression_numbers_of_proper number test (callee_of_proper number test proper.2)
      simp [Statement.numbers, second, statement_numbers_of_proper body proper.1]
  | .forLoop init test update body =>
      simp only [Statement.isProper, Bool.and_eq_true] at proper
      have first := option_numbers_of_proper number _ _ (for_init_numbers_of_proper number) init proper.1.1.1
      have second := optional_expression_numbers_of_proper number test proper.1.1.2
      have third := optional_expression_numbers_of_proper number update proper.1.2
      simp only [Statement.numbers, List.all_append, first, second, third,
        statement_numbers_of_proper body proper.2, Bool.and_self]
  | .function name params body =>
      simp only [Statement.isProper, Bool.and_eq_true] at proper
      exact statements_numbers_of_proper body proper.2
  | .returning argument => exact optional_expression_numbers_of_proper number argument proper
  | .classDeclaration id superClass body =>
      simp only [Statement.isProper, Bool.and_eq_true] at proper
      exact statements_numbers_of_proper body proper.2
termination_by structural s

theorem statements_numbers_of_proper (list : List Statement) (proper : properStatements number list = true) :
    (statementsNumbers list).all number = true := by
  cases list with
  | nil => rfl
  | cons s rest =>
      simp only [properStatements, Bool.and_eq_true] at proper
      simp [statementsNumbers, statement_numbers_of_proper s proper.1, statements_numbers_of_proper rest proper.2]
termination_by structural list
end

end Proper

theorem proper_of_parse (source : String) (p : Program) (parsed : parse Program.actions source = .ok p) :
    properStatements isNonnegative p.body = true := by
  obtain ⟨tokens, spelled, derived⟩ := derivation_of_parse source p parsed
  exact program_proper tokens p derived spelled

-- Two programs that are parsed compare as the same only if they are equal.
theorem program_same_iff_eq (p q : Program) (proper : properStatements isNonnegative p.body = true)
    (proper' : properStatements isNonnegative q.body = true) : p.same q = true ↔ p = q := by
  obtain ⟨body⟩ := p
  obtain ⟨body'⟩ := q
  rw [Program.same, statements_same_iff_eq body body' (statements_numbers_of_proper _ body proper)
    (statements_numbers_of_proper _ body' proper'), Program.mk.injEq]

end ScriptFront
