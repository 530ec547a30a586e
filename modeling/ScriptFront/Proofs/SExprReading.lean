import ScriptFront.Proofs.OutputForms
import ScriptFront.Proofs.WellFormed

set_option autoImplicit false

/-! Reading the S-expression of a program back. Which statement or expression a list is shows in its head
and in the number of its parts, and a name is an identifier unless it is spelled like a keyword. -/

namespace ScriptFront

namespace SExpr

-- Keywords are symbols, too; all other symbols are identifiers.
def ofSymbol (name : String) : Expression :=
  match name with
  | "this" => .this
  | "super" => .super
  | "null" => .literal .null
  | "true" => .literal (.boolean true)
  | "false" => .literal (.boolean false)
  | _ => .identifier ⟨name⟩

-- An operation on two operands. No two of these families have a spelling in common.
def operation? (head : String) (left right : Expression) : Option Expression :=
  match Spelled.ofSpelling? head with
  | some operator => some (.binary operator left right)
  | none =>
      match Spelled.ofSpelling? head with
      | some operator => some (.logical operator left right)
      | none => do
          let operator ← Spelled.ofSpelling? head
          return .assignment operator (← left.target?) right

-- The expression with a head and parts. A minus is unary or binary by the number of its operands.
def compound? (head : String) (parts : List Expression) : Option Expression :=
  match head, parts with
  | "new", callee :: arguments => some (.new callee arguments)
  | "call", callee :: arguments => some (.call callee arguments)
  | "prop", [object, .identifier property] => some (.member (.named object property))
  | "index", [object, property] => some (.member (.computed object property))
  | _, [argument] => (Spelled.ofSpelling? head).map fun operator => .unary operator argument
  | _, [left, right] => operation? head left right
  | _, _ => none

mutual
def expression? : SExpr → Option Expression
  | .number value => some (.literal (.number value))
  | .string text => some (.literal (.string text))
  | .symbol name => some (ofSymbol name)
  | .list (.symbol head :: parts) => (expressions? parts).bind (compound? head)
  | .list _ => none

def expressions? : List SExpr → Option (List Expression)
  | [] => some []
  | part :: parts => do return (← part.expression?) :: (← expressions? parts)
end

def identifier? : SExpr → Option Identifier
  | .symbol name => some ⟨name⟩
  | _ => none

def declaration? : SExpr → Option VariableDeclaration
  | .list [.symbol name] => some ⟨⟨name⟩, none⟩
  | .list [.symbol name, init] => init.expression?.map fun e => ⟨⟨name⟩, some e⟩
  | _ => none

-- The empty list is an absent part.
def part? {α : Type} (read : SExpr → Option α) : SExpr → Option (Option α)
  | .list [] => some none
  | e => (read e).map some

def forInit? : SExpr → Option ForInit
  | .list (.symbol "let" :: declarations) => (declarations.mapM declaration?).map .variables
  | e => e.expression?.map .expression

mutual
def statement? : SExpr → Option Statement
  | .list [] => some .empty
  | .list (.symbol "begin" :: body) => (statements? body).map .block
  | .list (.symbol "let" :: declarations) => (declarations.mapM declaration?).map .variables
  | .list [.symbol "if", test, consequent] => do
      return .conditional (← test.expression?) (← consequent.statement?) none
  | .list [.symbol "if", test, consequent, alternate] => do
      return .conditional (← test.expression?) (← consequent.statement?) (some (← alternate.statement?))
  | .list [.symbol "while", test, body] => do return .whileLoop (← test.expression?) (← body.statement?)
  | .list [.symbol "do-while", body, test] => do return .doWhileLoop (← body.statement?) (← test.expression?)
  | .list [.symbol "for", init, test, update, body] => do
      return .forLoop (← init.part? forInit?) (← test.part? expression?) (← update.part? expression?)
        (← body.statement?)
  | .list [.symbol "def", name, .list params, .list (.symbol "begin" :: body)] => do
      return .function (← name.identifier?) (← params.mapM identifier?) (← statements? body)
  | .list [.symbol "return"] => some (.returning none)
  | .list [.symbol "return", argument] => do return .returning (some (← argument.expression?))
  | .list [.symbol "class", id, parent, .list (.symbol "begin" :: body)] => do
      return .classDeclaration (← id.identifier?) (← parent.part? identifier?) (← statements? body)
  | e => e.expression?.map .expression

def statements? : List SExpr → Option (List Statement)
  | [] => some []
  | s :: rest => do return (← s.statement?) :: (← statements? rest)
end

def program? : SExpr → Option Program
  | .list (.symbol "begin" :: body) => (statements? body).map .mk
  | _ => none

end SExpr

open SExpr (form ofSymbol compound? expression? expressions? identifier? declaration? forInit? statement? statements?)

theorem of_symbol_name (id : Identifier) (proper : id.isProper = true) :
    ofSymbol id.name = .identifier id := by
  obtain ⟨name⟩ := id
  unfold ofSymbol
  dsimp only
  split
  case h_6 => rfl
  all_goals exact absurd proper (by decide)

theorem compound_unary (operator : UnaryOperator) (e : Expression) :
    compound? (Spelled.spelling operator) [e] = some (.unary operator e) := by
  cases operator <;> rfl

theorem compound_binary (operator : BinaryOperator) (a b : Expression) :
    compound? (Spelled.spelling operator) [a, b] = some (.binary operator a b) := by
  cases operator <;> rfl

theorem compound_logical (operator : LogicalOperator) (a b : Expression) :
    compound? (Spelled.spelling operator) [a, b] = some (.logical operator a b) := by
  cases operator <;> rfl

theorem compound_assignment (operator : AssignmentOperator) (place : Target) (e : Expression) :
    compound? (Spelled.spelling operator) [place.toExpression, e] = some (.assignment operator place e) := by
  cases operator <;> cases place <;> rfl

theorem expression_of_form (head : String) (parts : List SExpr) (read : List Expression)
    (found : expressions? parts = some read) : (form head parts).expression? = compound? head read := by
  change (expressions? parts).bind (compound? head) = _
  rw [found]
  rfl

theorem expressions_cons (x : SExpr) (parts : List SExpr) (a : Expression) (rest : List Expression)
    (found : x.expression? = some a) (others : expressions? parts = some rest) :
    expressions? (x :: parts) = some (a :: rest) := by
  rw [expressions?, found, others]
  rfl

theorem expressions_two (x y : SExpr) (a b : Expression) (found : x.expression? = some a)
    (found' : y.expression? = some b) : expressions? [x, y] = some [a, b] :=
  expressions_cons x [y] a [b] found (expressions_cons y [] b [] found' rfl)

section ReadBack

variable (number : Binary64 → Bool)

mutual
theorem expression_read_back (e : Expression) (proper : (e.isSuper || e.isProper number) = true) :
    e.encoded.expression? = some e := by
  cases e with
  | identifier id =>
      have name : id.isProper = true := proper
      exact congrArg some (of_symbol_name id name)
  | literal l =>
      cases l with
      | boolean value => cases value <;> rfl
      | _ => rfl
  | this => rfl
  | super => rfl
  | new callee arguments =>
      simp only [Expression.isSuper, Expression.isProper, Bool.false_or, Bool.and_eq_true] at proper
      have first := expression_read_back callee (callee_of_proper number callee proper.1)
      have others := expressions_read_back arguments proper.2
      rw [Expression.encoded, expression_of_form "new" _ _ (expressions_cons _ _ _ _ first others)]
      rfl
  | call callee arguments =>
      simp only [Expression.isSuper, Expression.isProper, Bool.false_or, Bool.and_eq_true] at proper
      have first := expression_read_back callee proper.1
      have others := expressions_read_back arguments proper.2
      rw [Expression.encoded, expression_of_form "call" _ _ (expressions_cons _ _ _ _ first others)]
      rfl
  | member place => exact member_read_back place proper
  | assignment operator target value =>
      simp only [Expression.isSuper, Expression.isProper, Bool.false_or, Bool.and_eq_true] at proper
      have place := target_read_back target proper.1
      have right := expression_read_back value (callee_of_proper number value proper.2)
      rw [Expression.encoded, expression_of_form _ _ _ (expressions_two _ _ _ _ place right)]
      exact compound_assignment operator target value
  | binary operator left right =>
      simp only [Expression.isSuper, Expression.isProper, Bool.false_or, Bool.and_eq_true] at proper
      have first := expression_read_back left (callee_of_proper number left proper.1)
      have second := expression_read_back right (callee_of_proper number right proper.2)
      rw [Expression.encoded, expression_of_form _ _ _ (expressions_two _ _ _ _ first second)]
      exact compound_binary operator left right
  | logical operator left right =>
      simp only [Expression.isSuper, Expression.isProper, Bool.false_or, Bool.and_eq_true] at proper
      have first := expression_read_back left (callee_of_proper number left proper.1)
      have second := expression_read_back right (callee_of_proper number right proper.2)
      rw [Expression.encoded, expression_of_form _ _ _ (expressions_two _ _ _ _ first second)]
      exact compound_logical operator left right
  | unary operator argument =>
      simp only [Expression.isSuper, Expression.isProper, Bool.false_or] at proper
      have operand := expression_read_back argument (callee_of_proper number argument proper)
      rw [Expression.encoded, expression_of_form _ _ _ (expressions_cons _ [] _ [] operand rfl)]
      exact compound_unary operator argument
termination_by structural e

theorem member_read_back (m : Member) (proper : m.isProper number = true) :
    m.encoded.expression? = some (.member m) := by
  cases m with
  | named object property =>
      simp only [Member.isProper, Bool.and_eq_true] at proper
      have first := expression_read_back object (callee_of_proper number object proper.1)
      have second : (SExpr.symbol property.name).expression? = some (.identifier property) :=
        congrArg some (of_symbol_name property proper.2)
      rw [Member.encoded, expression_of_form _ _ _ (expressions_two _ _ _ _ first second)]
      rfl
  | computed object property =>
      simp only [Member.isProper, Bool.and_eq_true] at proper
      have first := expression_read_back object (callee_of_proper number object proper.1)
      have second := expression_read_back property (callee_of_proper number property proper.2)
      rw [Member.encoded, expression_of_form _ _ _ (expressions_two _ _ _ _ first second)]
      rfl
termination_by structural m

theorem target_read_back (t : Target) (proper : t.isProper number = true) :
    t.encoded.expression? = some t.toExpression := by
  cases t with
  | identifier id => exact congrArg some (of_symbol_name id proper)
  | member place => exact member_read_back place proper
termination_by structural t

theorem expressions_read_back (list : List Expression) (proper : properExpressions number list = true) :
    expressions? (encodedExpressions list) = some list := by
  cases list with
  | nil => rfl
  | cons e rest =>
      simp only [properExpressions, Bool.and_eq_true] at proper
      have first := expression_read_back e (callee_of_proper number e proper.1)
      exact expressions_cons _ _ _ _ first (expressions_read_back rest proper.2)
termination_by structural list
end

-- No expression has the head of another statement or is the empty list.
theorem expression_elsewhere (e : Expression) :
    e.encoded.statement? = e.encoded.expression?.map .expression ∧
      e.encoded.forInit? = e.encoded.expression?.map .expression ∧ e.encoded.isNil = false := by
  cases e with
  | literal l =>
      cases l with
      | boolean value => cases value <;> exact ⟨rfl, rfl, rfl⟩
      | _ => exact ⟨rfl, rfl, rfl⟩
  | member place => cases place <;> exact ⟨rfl, rfl, rfl⟩
  | assignment operator _ _ | binary operator _ _ | logical operator _ _ | unary operator _ =>
      cases operator <;> exact ⟨rfl, rfl, rfl⟩
  | _ => exact ⟨rfl, rfl, rfl⟩

theorem declaration_read_back (declaration : VariableDeclaration) (proper : declaration.isProper number = true) :
    declaration.encoded.declaration? = some declaration := by
  obtain ⟨id, init⟩ := declaration
  simp only [VariableDeclaration.isProper, Bool.and_eq_true] at proper
  cases init with
  | none => rfl
  | some e =>
      have value := expression_read_back number e (callee_of_proper number e proper.2)
      change e.encoded.expression?.map (fun e => VariableDeclaration.mk id (some e)) = _
      rw [value]
      rfl

section Parts

variable {α : Type} (encoded : α → SExpr) (read : SExpr → Option α)

theorem list_read_back (list : List α) (each : ∀ a ∈ list, read (encoded a) = some a) :
    (list.map encoded).mapM read = some list := by
  induction list with
  | nil => rfl
  | cons a rest ih =>
      rw [List.forall_mem_cons] at each
      rw [List.map_cons, List.mapM_cons, each.1, ih each.2]
      rfl

theorem part_read_back (o : Option α) (present : ∀ a, (encoded a).isNil = false)
    (each : ∀ a ∈ o, read (encoded a) = some a) : (encodedPart encoded o).part? read = some o := by
  cases o with
  | none => rfl
  | some a =>
      have here : (encoded a).part? read = (read (encoded a)).map some := by
        unfold SExpr.part?
        split
        · rename_i empty
          have full := present a
          rw [empty] at full
          contradiction
        · rfl
      exact here.trans (congrArg (Option.map some) (each a rfl))

end Parts

theorem optional_expression_read_back (o : Option Expression)
    (proper : o.all (Expression.isProper number) = true) :
    (encodedPart Expression.encoded o).part? expression? = some o := by
  refine part_read_back _ _ o (fun e => (expression_elsewhere e).2.2) ?_
  rintro e rfl
  exact expression_read_back number e (callee_of_proper number e proper)

theorem variables_read_back (list : List VariableDeclaration) (proper : properVariables number list = true) :
    (list.map VariableDeclaration.encoded).mapM declaration? = some list := by
  simp only [properVariables, Bool.and_eq_true, List.all_eq_true] at proper
  exact list_read_back _ _ list fun declaration member =>
    declaration_read_back number declaration (proper.2 declaration member)

theorem for_init_read_back (init : ForInit) (proper : init.isProper number = true) :
    init.encoded.forInit? = some init := by
  match init with
  | .variables list =>
      change ((list.map VariableDeclaration.encoded).mapM declaration?).map ForInit.variables = _
      rw [variables_read_back number list proper]
      rfl
  | .expression e =>
      have value := expression_read_back number e (callee_of_proper number e proper)
      change e.encoded.forInit? = _
      rw [(expression_elsewhere e).2.1, value]
      rfl

theorem for_init_not_nil (init : ForInit) : init.encoded.isNil = false := by
  match init with
  | .variables list => rfl
  | .expression e => exact (expression_elsewhere e).2.2

mutual
theorem statement_read_back (s : Statement) (proper : s.isProper number = true) :
    s.encoded.statement? = some s := by
  match s with
  | .block body =>
      change (statements? (encodedStatements body)).map Statement.block = _
      rw [statements_read_back body proper]
      rfl
  | .empty => rfl
  | .expression e =>
      have value := expression_read_back number e (callee_of_proper number e proper)
      change e.encoded.statement? = _
      rw [(expression_elsewhere e).1, value]
      rfl
  | .variables list =>
      change ((list.map VariableDeclaration.encoded).mapM declaration?).map Statement.variables = _
      rw [variables_read_back number list proper]
      rfl
  | .conditional test consequent none =>
      simp only [Statement.isProper, Bool.and_eq_true] at proper
      have first := expression_read_back number test (callee_of_proper number test proper.1)
      have second := statement_read_back consequent proper.2
      simp only [Statement.encoded, form, statement?, first, second]
      rfl
  | .conditional test consequent (some alternate) =>
      simp only [Statement.isProper, Bool.and_eq_true] at proper
      have first := expression_read_back number test (callee_of_proper number test proper.1.1)
      have second := statement_read_back consequent proper.1.2
      have third := statement_read_back alternate proper.2
      simp only [Statement.encoded, form, statement?, first, second, third]
      rfl
  | .whileLoop test body =>
      simp only [Statement.isProper, Bool.and_eq_true] at proper
      have first := expression_read_back number test (callee_of_proper number test proper.1)
      have second := statement_read_back body proper.2
      simp only [Statement.encoded, form, statement?, first, second]
      rfl
  | .doWhileLoop body test =>
      simp only [Statement.isProper, Bool.and_eq_true] at proper
      have first := statement_read_back body proper.1
      have second := expression_read_back number test (callee_of_proper number test proper.2)
      simp only [Statement.encoded, form, statement?, first, second]
      rfl
  | .forLoop init test update body =>
      simp only [Statement.isProper, Bool.and_eq_true] at proper
      have first := part_read_back ForInit.encoded forInit? init for_init_not_nil
        (by rintro i rfl; exact for_init_read_back number i proper.1.1.1)
      have second := optional_expression_read_back number test proper.1.1.2
      have third := optional_expression_read_back number update proper.1.2
      have fourth := statement_read_back body proper.2
      simp only [Statement.encoded, form, statement?, first, second, third, fourth]
      rfl
  | .function name params body =>
      simp only [Statement.isProper, Bool.and_eq_true] at proper
      have places := list_read_back (fun id : Identifier => .symbol id.name) identifier? params fun _ _ => rfl
      have block := statements_read_back body proper.2
      simp only [Statement.encoded, form, statement?, places, block]
      rfl
  | .returning none => rfl
  | .returning (some argument) =>
      have value := expression_read_back number argument (callee_of_proper number argument proper)
      simp only [Statement.encoded, form, statement?, value]
      rfl
  | .classDeclaration id superClass body =>
      simp only [Statement.isProper, Bool.and_eq_true] at proper
      have parent := part_read_back (fun id : Identifier => .symbol id.name) identifier? superClass
        (fun _ => rfl) fun _ _ => rfl
      have block := statements_read_back body proper.2
      simp only [Statement.encoded, form, statement?, parent, block]
      rfl
termination_by structural s

theorem statements_read_back (list : List Statement) (proper : properStatements number list = true) :
    statements? (encodedStatements list) = some list := by
  cases list with
  | nil => rfl
  | cons s rest =>
      simp only [properStatements, Bool.and_eq_true] at proper
      have first := statement_read_back s proper.1
      rw [encodedStatements, statements?, first, statements_read_back rest proper.2]
      rfl
termination_by structural list
end

-- The S-expression of a program reads back as the program.
theorem program_read_back (p : Program) (proper : properStatements number p.body = true) :
    p.encoded.program? = some p := by
  change (statements? (encodedStatements p.body)).map Program.mk = _
  rw [statements_read_back number p.body proper]
  rfl

theorem program_encoded_injective (p q : Program) (proper : properStatements number p.body = true)
    (proper' : properStatements number q.body = true) (same : p.encoded = q.encoded) : p = q := by
  have read : some p = some q := by
    rw [← program_read_back number p proper, same, program_read_back number q proper']
  injection read

end ReadBack

end ScriptFront
