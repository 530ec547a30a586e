import ScriptFront.Proofs.ExactTrees
import ScriptFront.Proofs.SExprReading

set_option autoImplicit false

/-! The atoms of the S-expression of a program. Its numbers are those of the program, and a symbol is a name of
the program or one of the words that every S-expression may have. -/

namespace ScriptFront

namespace SExpr

-- The symbols that are no names: what heads a list, and keywords.
def words : List String :=
  ["begin", "let", "if", "while", "do-while", "for", "def", "return", "class", "new", "call", "prop", "index"] ++
    reserved ++ Spelled.spellings BinaryOperator ++ Spelled.spellings LogicalOperator ++
    Spelled.spellings UnaryOperator ++ Spelled.spellings AssignmentOperator

mutual
-- Every number and every symbol passes its test.
def passes (number : Binary64 → Bool) (symbol : String → Bool) : SExpr → Bool
  | .number value => number value
  | .string _ => true
  | .symbol name => symbol name
  | .list items => itemsPass number symbol items

def itemsPass (number : Binary64 → Bool) (symbol : String → Bool) : List SExpr → Bool
  | [] => true
  | item :: items => item.passes number symbol && itemsPass number symbol items
end

theorem items_pass_eq_all (number : Binary64 → Bool) (symbol : String → Bool) (items : List SExpr) :
    itemsPass number symbol items = items.all (passes number symbol) := by
  induction items with
  | nil => rfl
  | cons item items ih => rw [itemsPass, List.all_cons, ih]

-- A test that every name and every word passes.
structure Admits (symbol : String → Bool) : Prop where
  name : ∀ id : Identifier, id.isProper = true → symbol id.name = true
  word : ∀ word ∈ words, symbol word = true

theorem spelling_in_words {ω : Type} [Spelled ω] (operator : ω)
    (all : ∀ o ∈ (Spelled.all : List ω), Spelled.spelling o ∈ words) : Spelled.spelling operator ∈ words :=
  all operator (Spelled.complete operator)

end SExpr

open SExpr (passes itemsPass form)

section Tests

set_option linter.unusedSectionVars false

variable {number : Binary64 → Bool} {symbol : String → Bool} (admits : SExpr.Admits symbol)

include admits

theorem form_passes (head : String) (items : List SExpr) (word : head ∈ SExpr.words)
    (pass : itemsPass number symbol items = true) : (form head items).passes number symbol = true := by
  change (symbol head && itemsPass number symbol items) = true
  rw [admits.word head word, pass, Bool.and_self]

mutual
theorem expression_passes (e : Expression) (proper : (e.isSuper || e.isProper number) = true) :
    e.encoded.passes number symbol = true := by
  cases e with
  | identifier id => exact admits.name id proper
  | literal l =>
      cases l with
      | number value => exact proper
      | string text => rfl
      | boolean value =>
          cases value with
          | true => exact admits.word "true" (by decide)
          | false => exact admits.word "false" (by decide)
      | null => exact admits.word "null" (by decide)
  | this => exact admits.word "this" (by decide)
  | super => exact admits.word "super" (by decide)
  | new callee arguments =>
      simp only [Expression.isSuper, Expression.isProper, Bool.false_or, Bool.and_eq_true] at proper
      have first := expression_passes callee (callee_of_proper number callee proper.1)
      refine form_passes admits "new" _ (by decide) ?_
      rw [itemsPass, first, expressions_passes arguments proper.2, Bool.and_self]
  | call callee arguments =>
      simp only [Expression.isSuper, Expression.isProper, Bool.false_or, Bool.and_eq_true] at proper
      have first := expression_passes callee proper.1
      refine form_passes admits "call" _ (by decide) ?_
      rw [itemsPass, first, expressions_passes arguments proper.2, Bool.and_self]
  | member place => exact member_passes place proper
  | assignment operator target value =>
      simp only [Expression.isSuper, Expression.isProper, Bool.false_or, Bool.and_eq_true] at proper
      have first := target_passes target proper.1
      have second := expression_passes value (callee_of_proper number value proper.2)
      refine form_passes admits _ _ (SExpr.spelling_in_words operator (by decide)) ?_
      simp [itemsPass, first, second]
  | binary operator left right | logical operator left right =>
      simp only [Expression.isSuper, Expression.isProper, Bool.false_or, Bool.and_eq_true] at proper
      have first := expression_passes left (callee_of_proper number left proper.1)
      have second := expression_passes right (callee_of_proper number right proper.2)
      refine form_passes admits _ _ (SExpr.spelling_in_words operator (by decide)) ?_
      simp [itemsPass, first, second]
  | unary operator argument =>
      simp only [Expression.isSuper, Expression.isProper, Bool.false_or] at proper
      have operand := expression_passes argument (callee_of_proper number argument proper)
      refine form_passes admits _ _ (SExpr.spelling_in_words operator (by decide)) ?_
      simp [itemsPass, operand]
termination_by structural e

theorem member_passes (m : Member) (proper : m.isProper number = true) : m.encoded.passes number symbol = true := by
  cases m with
  | named object property =>
      simp only [Member.isProper, Bool.and_eq_true] at proper
      have first := expression_passes object (callee_of_proper number object proper.1)
      refine form_passes admits "prop" _ (by decide) ?_
      simp [itemsPass, first, passes, admits.name property proper.2]
  | computed object property =>
      simp only [Member.isProper, Bool.and_eq_true] at proper
      have first := expression_passes object (callee_of_proper number object proper.1)
      have second := expression_passes property (callee_of_proper number property proper.2)
      refine form_passes admits "index" _ (by decide) ?_
      simp [itemsPass, first, second]
termination_by structural m

theorem target_passes (t : Target) (proper : t.isProper number = true) : t.encoded.passes number symbol = true := by
  cases t with
  | identifier id => exact admits.name id proper
  | member place => exact member_passes place proper
termination_by structural t

theorem expressions_passes (list : List Expression) (proper : properExpressions number list = true) :
    itemsPass number symbol (encodedExpressions list) = true := by
  cases list with
  | nil => rfl
  | cons e rest =>
      simp only [properExpressions, Bool.and_eq_true] at proper
      have first := expression_passes e (callee_of_proper number e proper.1)
      rw [encodedExpressions, itemsPass, first, expressions_passes rest proper.2, Bool.and_self]
termination_by structural list
end

theorem identifiers_passes (list : List Identifier) (proper : list.all Identifier.isProper = true) :
    itemsPass number symbol (list.map fun id => .symbol id.name) = true := by
  rw [SExpr.items_pass_eq_all, List.all_map, List.all_eq_true]
  intro id member
  exact admits.name id (List.all_eq_true.mp proper id member)

omit admits in
theorem part_passes {α : Type} (encoded : α → SExpr) (isProper : α → Bool) (o : Option α)
    (each : ∀ a, isProper a = true → (encoded a).passes number symbol = true) (proper : o.all isProper = true) :
    (encodedPart encoded o).passes number symbol = true := by
  cases o with
  | none => rfl
  | some a => exact each a proper

theorem proper_expression_passes (e : Expression) (proper : e.isProper number = true) :
    e.encoded.passes number symbol = true :=
  expression_passes admits e (callee_of_proper number e proper)

theorem variables_passes (list : List VariableDeclaration) (proper : properVariables number list = true) :
    (encodedVariables list).passes number symbol = true := by
  simp only [properVariables, Bool.and_eq_true, List.all_eq_true] at proper
  refine form_passes admits "let" _ (by decide) ?_
  rw [SExpr.items_pass_eq_all, List.all_map, List.all_eq_true]
  intro declaration member
  have each := proper.2 declaration member
  obtain ⟨id, init⟩ := declaration
  simp only [VariableDeclaration.isProper, Bool.and_eq_true] at each
  cases init with
  | none => simp [VariableDeclaration.encoded, passes, itemsPass, admits.name id each.1]
  | some e =>
      simp [VariableDeclaration.encoded, passes, itemsPass, admits.name id each.1,
        proper_expression_passes admits e each.2]

theorem for_init_passes (init : ForInit) (proper : init.isProper number = true) :
    init.encoded.passes number symbol = true := by
  match init with
  | .variables list => exact variables_passes admits list proper
  | .expression e => exact proper_expression_passes admits e proper

mutual
theorem statement_passes (s : Statement) (proper : s.isProper number = true) :
    s.encoded.passes number symbol = true := by
  match s with
  | .block body => exact form_passes admits "begin" _ (by decide) (statements_passes body proper)
  | .empty => rfl
  | .expression e => exact proper_expression_passes admits e proper
  | .variables list => exact variables_passes admits list proper
  | .conditional test consequent none =>
      simp only [Statement.isProper, Bool.and_eq_true] at proper
      refine form_passes admits "if" _ (by decide) ?_
      simp [itemsPass, proper_expression_passes admits test proper.1, statement_passes consequent proper.2]
  | .conditional test consequent (some alternate) =>
      simp only [Statement.isProper, Bool.and_eq_true] at proper
      refine form_passes admits "if" _ (by decide) ?_
      simp [itemsPass, proper_expression_passes admits test proper.1.1, statement_passes consequent proper.1.2,
        statement_passes alternate proper.2]
  | .whileLoop test body =>
      simp only [Statement.isProper, Bool.and_eq_true] at proper
      refine form_passes admits "while" _ (by decide) ?_
      simp [itemsPass, proper_expression_passes admits test proper.1, statement_passes body proper.2]
  | .doWhileLoop body test =>
      simp only [Statement.isProper, Bool.and_eq_true] at proper
      refine form_passes admits "do-while" _ (by decide) ?_
      simp [itemsPass, statement_passes body proper.1, proper_expression_passes admits test proper.2]
  | .forLoop init test update body =>
      simp only [Statement.isProper, Bool.and_eq_true] at proper
      refine form_passes admits "for" _ (by decide) ?_
      simp [itemsPass, part_passes _ _ init (for_init_passes admits) proper.1.1.1,
        part_passes _ _ test (proper_expression_passes admits) proper.1.1.2,
        part_passes _ _ update (proper_expression_passes admits) proper.1.2, statement_passes body proper.2]
  | .function name params body =>
      simp only [Statement.isProper, Bool.and_eq_true] at proper
      have block := form_passes admits "begin" _ (by decide) (statements_passes body proper.2)
      refine form_passes admits "def" _ (by decide) ?_
      simp [itemsPass, passes, admits.name name proper.1.1, identifiers_passes admits params proper.1.2, block]
  | .returning none => exact form_passes admits "return" [] (by decide) rfl
  | .returning (some argument) =>
      refine form_passes admits "return" _ (by decide) ?_
      simp [itemsPass, proper_expression_passes admits argument proper]
  | .classDeclaration id superClass body =>
      simp only [Statement.isProper, Bool.and_eq_true] at proper
      have parent : (encodedPart (fun id : Identifier => .symbol id.name) superClass).passes number symbol = true :=
        part_passes _ _ superClass admits.name proper.1.2
      have block := form_passes admits "begin" _ (by decide) (statements_passes body proper.2)
      refine form_passes admits "class" _ (by decide) ?_
      simp [itemsPass, passes, admits.name id proper.1.1, parent, block]
termination_by structural s

theorem statements_passes (list : List Statement) (proper : properStatements number list = true) :
    itemsPass number symbol (encodedStatements list) = true := by
  cases list with
  | nil => rfl
  | cons s rest =>
      simp only [properStatements, Bool.and_eq_true] at proper
      rw [encodedStatements, itemsPass, statement_passes s proper.1, statements_passes rest proper.2,
        Bool.and_self]
termination_by structural list
end

theorem program_passes (p : Program) (proper : properStatements number p.body = true) :
    p.encoded.passes number symbol = true :=
  form_passes admits "begin" _ (by decide) (statements_passes admits p.body proper)

theorem passes_of_parse (source : String) (e : SExpr) (parsed : parse SExpr.actions source = .ok e) :
    e.passes Binary64.isNonnegative symbol = true := by
  rw [parse_encoded] at parsed
  cases tree : parse Program.actions source with
  | error fault =>
      rw [tree] at parsed
      contradiction
  | ok p =>
      rw [tree] at parsed
      injection parsed with built
      exact built ▸ program_passes admits p (proper_of_parse source p tree)

end Tests

end ScriptFront
