import ScriptFront.Proofs.OutputForms
import ScriptFront.Proofs.Printed

set_option autoImplicit false

/-! How deep a tree goes. A step to the left operand of an operator, to the object of a member or to the
callee of a call can be told apart from all other steps. -/

namespace ScriptFront

section Depth

variable (left other : Nat)

mutual
-- The most that the steps from an expression down to a node without parts come to, where a step to the
-- left counts `left` and every other step `other`.
def Expression.depth : Expression → Nat
  | .identifier _ | .literal _ | .this | .super => 0
  | .new callee arguments => max (callee.depth + other) (expressionsDepth arguments)
  | .call callee arguments => max (callee.depth + left) (expressionsDepth arguments)
  | .member place => place.depth
  | .assignment _ target value => max (target.depth + other) (value.depth + other)
  | .binary _ first second => max (first.depth + left) (second.depth + other)
  | .logical _ first second => max (first.depth + left) (second.depth + other)
  | .unary _ argument => argument.depth + other

def Member.depth : Member → Nat
  | .named object _ => max (object.depth + left) other
  | .computed object property => max (object.depth + left) (property.depth + other)

def Target.depth : Target → Nat
  | .identifier _ => 0
  | .member place => place.depth

def expressionsDepth : List Expression → Nat
  | [] => 0
  | e :: rest => max (e.depth + other) (expressionsDepth rest)
end

-- An absent part has no depth.
def partDepth {α : Type} (depth : α → Nat) (part : Option α) : Nat :=
  part.elim 0 fun a => depth a + other

def VariableDeclaration.depth (declaration : VariableDeclaration) : Nat :=
  max other (partDepth other (Expression.depth left other) declaration.init)

def declarationsDepth (declarations : List VariableDeclaration) : Nat :=
  deepest (fun declaration => declaration.depth left other + other) declarations

def ForInit.depth : ForInit → Nat
  | .variables declarations => declarationsDepth left other declarations
  | .expression value => value.depth left other

mutual
def Statement.depth : Statement → Nat
  | .block body => statementsDepth body
  | .empty => 0
  | .expression value => value.depth left other + other
  | .variables declarations => declarationsDepth left other declarations
  | .conditional test consequent none => max (test.depth left other + other) (consequent.depth + other)
  | .conditional test consequent (some alternate) =>
      max (test.depth left other + other) (max (consequent.depth + other) (alternate.depth + other))
  | .whileLoop test body => max (test.depth left other + other) (body.depth + other)
  | .doWhileLoop body test => max (body.depth + other) (test.depth left other + other)
  | .forLoop init test update body =>
      max (partDepth other (ForInit.depth left other) init)
        (max (partDepth other (Expression.depth left other) test)
          (max (partDepth other (Expression.depth left other) update) (body.depth + other)))
  | .function _ _ body => statementsDepth body + other
  | .returning argument => partDepth other (Expression.depth left other) argument
  | .classDeclaration _ _ body => statementsDepth body + other

def statementsDepth : List Statement → Nat
  | [] => 0
  | s :: rest => max (s.depth + other) (statementsDepth rest)
end

def Program.depth (program : Program) : Nat :=
  statementsDepth left other program.body

theorem expressions_depth_eq (list : List Expression) :
    expressionsDepth left other list = deepest (fun e => e.depth left other + other) list := by
  induction list with
  | nil => rfl
  | cons e rest ih => rw [expressionsDepth, deepest, ih]

theorem statements_depth_eq (list : List Statement) :
    statementsDepth left other list = deepest (fun s => s.depth left other + other) list := by
  induction list with
  | nil => rfl
  | cons s rest ih => rw [statementsDepth, deepest, ih]

end Depth

-- All steps count.
def Program.height (program : Program) : Nat :=
  program.depth 1 1

-- The depth without the steps to the left, and the depth of these alone.
def Program.nesting (program : Program) : Nat :=
  program.depth 0 1

def Program.leftSteps (program : Program) : Nat :=
  program.depth 1 0

mutual
theorem Expression.height_bounds (e : Expression) :
    e.depth 1 0 ≤ e.depth 1 1 ∧ e.depth 1 1 ≤ e.depth 0 1 + e.depth 1 0 := by
  match e with
  | .identifier _ | .literal _ | .this | .super => exact ⟨Nat.zero_le _, Nat.zero_le _⟩
  | .new callee arguments =>
      have first := callee.height_bounds
      have second := expressions_height_bounds arguments
      simp only [Expression.depth]
      omega
  | .call callee arguments =>
      have first := callee.height_bounds
      have second := expressions_height_bounds arguments
      simp only [Expression.depth]
      omega
  | .member place => exact place.height_bounds
  | .assignment _ target value =>
      have first := target.height_bounds
      have second := value.height_bounds
      simp only [Expression.depth]
      omega
  | .binary _ a b | .logical _ a b =>
      have first := a.height_bounds
      have second := b.height_bounds
      simp only [Expression.depth]
      omega
  | .unary _ argument =>
      have only := argument.height_bounds
      simp only [Expression.depth]
      omega

theorem Member.height_bounds (place : Member) :
    place.depth 1 0 ≤ place.depth 1 1 ∧ place.depth 1 1 ≤ place.depth 0 1 + place.depth 1 0 := by
  match place with
  | .named object _ =>
      have first := object.height_bounds
      simp only [Member.depth]
      omega
  | .computed object property =>
      have first := object.height_bounds
      have second := property.height_bounds
      simp only [Member.depth]
      omega

theorem Target.height_bounds (target : Target) :
    target.depth 1 0 ≤ target.depth 1 1 ∧ target.depth 1 1 ≤ target.depth 0 1 + target.depth 1 0 := by
  match target with
  | .identifier _ => exact ⟨Nat.zero_le _, Nat.zero_le _⟩
  | .member place => exact place.height_bounds

theorem expressions_height_bounds (list : List Expression) :
    expressionsDepth 1 0 list ≤ expressionsDepth 1 1 list ∧
      expressionsDepth 1 1 list ≤ expressionsDepth 0 1 list + expressionsDepth 1 0 list := by
  match list with
  | [] => exact ⟨Nat.zero_le _, Nat.zero_le _⟩
  | e :: rest =>
      have first := e.height_bounds
      have second := expressions_height_bounds rest
      simp only [expressionsDepth]
      omega
end

theorem part_height_bounds {α : Type} (depth : Nat → Nat → α → Nat)
    (each : ∀ a, depth 1 0 a ≤ depth 1 1 a ∧ depth 1 1 a ≤ depth 0 1 a + depth 1 0 a) (part : Option α) :
    partDepth 0 (depth 1 0) part ≤ partDepth 1 (depth 1 1) part ∧
      partDepth 1 (depth 1 1) part ≤ partDepth 1 (depth 0 1) part + partDepth 0 (depth 1 0) part := by
  cases part with
  | none => exact ⟨Nat.zero_le _, Nat.zero_le _⟩
  | some a =>
      have found := each a
      simp only [partDepth, Option.elim]
      omega

theorem VariableDeclaration.height_bounds (declaration : VariableDeclaration) :
    declaration.depth 1 0 ≤ declaration.depth 1 1 ∧
      declaration.depth 1 1 ≤ declaration.depth 0 1 + declaration.depth 1 0 := by
  have init := part_height_bounds Expression.depth Expression.height_bounds declaration.init
  simp only [VariableDeclaration.depth]
  omega

theorem declarations_height_bounds (declarations : List VariableDeclaration) :
    declarationsDepth 1 0 declarations ≤ declarationsDepth 1 1 declarations ∧
      declarationsDepth 1 1 declarations ≤ declarationsDepth 0 1 declarations + declarationsDepth 1 0 declarations := by
  unfold declarationsDepth
  induction declarations with
  | nil => exact ⟨Nat.zero_le _, Nat.zero_le _⟩
  | cons declaration rest ih =>
      have first := declaration.height_bounds
      simp only [deepest]
      omega

theorem ForInit.height_bounds (init : ForInit) :
    init.depth 1 0 ≤ init.depth 1 1 ∧ init.depth 1 1 ≤ init.depth 0 1 + init.depth 1 0 := by
  cases init with
  | «variables» declarations => exact declarations_height_bounds declarations
  | expression value => exact value.height_bounds

mutual
theorem Statement.height_bounds (s : Statement) :
    s.depth 1 0 ≤ s.depth 1 1 ∧ s.depth 1 1 ≤ s.depth 0 1 + s.depth 1 0 := by
  match s with
  | .block body => exact statements_height_bounds body
  | .empty => exact ⟨Nat.zero_le _, Nat.zero_le _⟩
  | .expression value =>
      have only := value.height_bounds
      simp only [Statement.depth]
      omega
  | .variables declarations => exact declarations_height_bounds declarations
  | .conditional test consequent none =>
      have first := test.height_bounds
      have second := consequent.height_bounds
      simp only [Statement.depth]
      omega
  | .conditional test consequent (some alternate) =>
      have first := test.height_bounds
      have second := consequent.height_bounds
      have third := alternate.height_bounds
      simp only [Statement.depth]
      omega
  | .whileLoop test body =>
      have first := test.height_bounds
      have second := body.height_bounds
      simp only [Statement.depth]
      omega
  | .doWhileLoop body test =>
      have first := test.height_bounds
      have second := body.height_bounds
      simp only [Statement.depth]
      omega
  | .forLoop init test update body =>
      have first := part_height_bounds ForInit.depth ForInit.height_bounds init
      have second := part_height_bounds Expression.depth Expression.height_bounds test
      have third := part_height_bounds Expression.depth Expression.height_bounds update
      have last := body.height_bounds
      simp only [Statement.depth]
      omega
  | .function _ _ body | .classDeclaration _ _ body =>
      have only := statements_height_bounds body
      simp only [Statement.depth]
      omega
  | .returning argument => exact part_height_bounds Expression.depth Expression.height_bounds argument

theorem statements_height_bounds (list : List Statement) :
    statementsDepth 1 0 list ≤ statementsDepth 1 1 list ∧
      statementsDepth 1 1 list ≤ statementsDepth 0 1 list + statementsDepth 1 0 list := by
  match list with
  | [] => exact ⟨Nat.zero_le _, Nat.zero_le _⟩
  | s :: rest =>
      have first := s.height_bounds
      have second := statements_height_bounds rest
      simp only [statementsDepth]
      omega
end

-- All steps count for the height, and only those to the left can make a tree higher than it is nested.
theorem Program.height_bounds (program : Program) :
    program.leftSteps ≤ program.height ∧ program.height ≤ program.nesting + program.leftSteps :=
  statements_height_bounds program.body

namespace SExpr

mutual
-- The most lists that are open at once.
def height : SExpr → Nat
  | .number _ | .string _ | .symbol _ => 0
  | .list items => itemsHeight items

def itemsHeight : List SExpr → Nat
  | [] => 0
  | item :: rest => max (item.height + 1) (itemsHeight rest)
end

theorem height_form (head : String) (items : List SExpr) : (form head items).height = max 1 (itemsHeight items) :=
  rfl

theorem items_height_symbols (names : List Identifier) :
    itemsHeight (names.map fun id => .symbol id.name) ≤ 1 := by
  induction names with
  | nil => exact Nat.zero_le _
  | cons id rest ih =>
      simp only [List.map_cons, itemsHeight, height]
      omega

end SExpr

open SExpr

theorem Literal.encoded_height (value : Literal) : value.encoded.height = 0 := by
  cases value with
  | boolean value => cases value <;> rfl
  | _ => rfl

mutual
theorem Expression.encoded_bounds (e : Expression) :
    e.depth 1 0 ≤ e.encoded.height ∧ e.encoded.height ≤ e.depth 1 1 + 1 := by
  match e with
  | .identifier _ | .this | .super => exact ⟨Nat.zero_le _, Nat.zero_le _⟩
  | .literal value =>
      rw [Expression.encoded, value.encoded_height]
      exact ⟨Nat.zero_le _, Nat.zero_le _⟩
  | .new callee arguments | .call callee arguments =>
      have first := callee.encoded_bounds
      have second := expressions_encoded_bounds arguments
      simp only [Expression.encoded, height_form, itemsHeight, Expression.depth]
      omega
  | .member place => exact place.encoded_bounds
  | .assignment _ target value =>
      have first := target.encoded_bounds
      have second := value.encoded_bounds
      simp only [Expression.encoded, height_form, itemsHeight, Expression.depth]
      omega
  | .binary _ a b | .logical _ a b =>
      have first := a.encoded_bounds
      have second := b.encoded_bounds
      simp only [Expression.encoded, height_form, itemsHeight, Expression.depth]
      omega
  | .unary _ argument =>
      have only := argument.encoded_bounds
      simp only [Expression.encoded, height_form, itemsHeight, Expression.depth]
      omega

theorem Member.encoded_bounds (place : Member) :
    place.depth 1 0 ≤ place.encoded.height ∧ place.encoded.height ≤ place.depth 1 1 + 1 := by
  match place with
  | .named object _ =>
      have first := object.encoded_bounds
      simp only [Member.encoded, height_form, itemsHeight, height, Member.depth]
      omega
  | .computed object property =>
      have first := object.encoded_bounds
      have second := property.encoded_bounds
      simp only [Member.encoded, height_form, itemsHeight, Member.depth]
      omega

theorem Target.encoded_bounds (target : Target) :
    target.depth 1 0 ≤ target.encoded.height ∧ target.encoded.height ≤ target.depth 1 1 + 1 := by
  match target with
  | .identifier _ => exact ⟨Nat.zero_le _, Nat.zero_le _⟩
  | .member place => exact place.encoded_bounds

theorem expressions_encoded_bounds (list : List Expression) :
    expressionsDepth 1 0 list ≤ itemsHeight (encodedExpressions list) ∧
      itemsHeight (encodedExpressions list) ≤ expressionsDepth 1 1 list + 1 := by
  match list with
  | [] => exact ⟨Nat.zero_le _, Nat.zero_le _⟩
  | e :: rest =>
      have first := e.encoded_bounds
      have second := expressions_encoded_bounds rest
      simp only [encodedExpressions, itemsHeight, expressionsDepth]
      omega
end

theorem part_encoded_bounds {α : Type} (encoded : α → SExpr) (least most : α → Nat)
    (each : ∀ a, least a ≤ (encoded a).height ∧ (encoded a).height ≤ most a + 1) (part : Option α) :
    partDepth 0 least part ≤ (encodedPart encoded part).height ∧
      (encodedPart encoded part).height ≤ partDepth 1 most part := by
  cases part with
  | none => exact ⟨Nat.zero_le _, Nat.zero_le _⟩
  | some a => exact each a

theorem VariableDeclaration.encoded_bounds (declaration : VariableDeclaration) :
    declaration.depth 1 0 ≤ declaration.encoded.height ∧
      declaration.encoded.height ≤ declaration.depth 1 1 + 1 := by
  obtain ⟨id, init⟩ := declaration
  cases init with
  | none => simp [VariableDeclaration.encoded, height, itemsHeight, VariableDeclaration.depth, partDepth]
  | some e =>
      have only := e.encoded_bounds
      simp only [VariableDeclaration.encoded, height, itemsHeight, VariableDeclaration.depth, partDepth, Option.elim]
      omega

theorem variables_encoded_bounds (declarations : List VariableDeclaration) :
    declarationsDepth 1 0 declarations ≤ (encodedVariables declarations).height ∧
      (encodedVariables declarations).height ≤ declarationsDepth 1 1 declarations + 1 := by
  unfold encodedVariables declarationsDepth
  rw [height_form]
  induction declarations with
  | nil => decide
  | cons declaration rest ih =>
      have first := declaration.encoded_bounds
      simp only [List.map_cons, itemsHeight, deepest]
      omega

theorem ForInit.encoded_bounds (init : ForInit) :
    init.depth 1 0 ≤ init.encoded.height ∧ init.encoded.height ≤ init.depth 1 1 + 1 := by
  cases init with
  | «variables» declarations => exact variables_encoded_bounds declarations
  | expression value => exact value.encoded_bounds

mutual
theorem Statement.encoded_bounds (s : Statement) :
    s.depth 1 0 ≤ s.encoded.height ∧ s.encoded.height ≤ s.depth 1 1 + 1 := by
  match s with
  | .block body =>
      have only := statements_encoded_bounds body
      simp only [Statement.encoded, height_form, Statement.depth]
      omega
  | .empty => exact ⟨Nat.zero_le _, Nat.zero_le _⟩
  | .expression value =>
      have only := value.encoded_bounds
      simp only [Statement.encoded, Statement.depth]
      omega
  | .variables declarations => exact variables_encoded_bounds declarations
  | .conditional test consequent none =>
      have first := test.encoded_bounds
      have second := consequent.encoded_bounds
      simp only [Statement.encoded, height_form, itemsHeight, Statement.depth]
      omega
  | .conditional test consequent (some alternate) =>
      have first := test.encoded_bounds
      have second := consequent.encoded_bounds
      have third := alternate.encoded_bounds
      simp only [Statement.encoded, height_form, itemsHeight, Statement.depth]
      omega
  | .whileLoop test body | .doWhileLoop body test =>
      have first := test.encoded_bounds
      have second := body.encoded_bounds
      simp only [Statement.encoded, height_form, itemsHeight, Statement.depth]
      omega
  | .forLoop init test update body =>
      have first := part_encoded_bounds _ _ _ ForInit.encoded_bounds init
      have second := part_encoded_bounds _ _ _ Expression.encoded_bounds test
      have third := part_encoded_bounds _ _ _ Expression.encoded_bounds update
      have last := body.encoded_bounds
      simp only [Statement.encoded, height_form, itemsHeight, Statement.depth]
      omega
  | .function name params body =>
      have names := items_height_symbols params
      have only := statements_encoded_bounds body
      simp only [Statement.encoded, height_form, itemsHeight, height, Statement.depth]
      omega
  | .returning none => decide
  | .returning (some argument) =>
      have only := argument.encoded_bounds
      simp only [Statement.encoded, height_form, itemsHeight, Statement.depth, partDepth, Option.elim]
      omega
  | .classDeclaration id superClass body =>
      have parent : (encodedPart (fun parent => .symbol parent.name) superClass).height = 0 := by
        cases superClass <;> rfl
      have only := statements_encoded_bounds body
      simp only [Statement.encoded, height_form, itemsHeight, height, Statement.depth, parent]
      omega

theorem statements_encoded_bounds (list : List Statement) :
    statementsDepth 1 0 list ≤ itemsHeight (encodedStatements list) ∧
      itemsHeight (encodedStatements list) ≤ statementsDepth 1 1 list + 1 := by
  match list with
  | [] => exact ⟨Nat.zero_le _, Nat.zero_le _⟩
  | s :: rest =>
      have first := s.encoded_bounds
      have second := statements_encoded_bounds rest
      simp only [encodedStatements, itemsHeight, statementsDepth]
      omega
end

-- The lists of an S-expression are the nodes of its tree. Each step to the left opens one.
theorem Program.encoded_bounds (program : Program) :
    program.leftSteps ≤ program.encoded.height ∧ program.encoded.height ≤ program.height + 1 := by
  have only := statements_encoded_bounds program.body
  simp only [Program.encoded, height_form, Program.leftSteps, Program.height, Program.depth]
  omega

end ScriptFront
