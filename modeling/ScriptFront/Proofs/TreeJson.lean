import ScriptFront.Proofs.JsonEquality
import ScriptFront.Proofs.TreeRoundTrip

set_option autoImplicit false

/-! The JSON value of a tree determines the tree, infinite numbers included: no other value is written as
`null` there. -/

namespace ScriptFront

open Binary64 (isNonnegative)
open Json (member_same)

theorem Json.text_same (v w : Option Json) (equal : sameOption same v w = true) :
    v.bind text? = w.bind text? := by
  match v, w with
  | none, none => rfl
  | some v, some w =>
      rw [sameOption] at equal
      cases v <;> cases w <;> simp_all [same, text?]
  | none, some _ => contradiction
  | some _, none => contradiction

theorem node_kind_same (v w : Json) (equal : v.same w = true) : nodeKind v = nodeKind w := by
  unfold nodeKind
  rw [Json.text_same _ _ (member_same v w equal "type")]

-- The kind of node that an expression is written as, and one kind for all literals.
def Expression.group : Expression → String
  | .identifier _ => "Identifier"
  | .literal _ => "Literal"
  | .this => "ThisExpression"
  | .super => "Super"
  | .new _ _ => "NewExpression"
  | .call _ _ => "CallExpression"
  | .member _ => "MemberExpression"
  | .assignment _ _ _ => "AssignmentExpression"
  | .binary _ _ _ => "BinaryExpression"
  | .logical _ _ _ => "LogicalExpression"
  | .unary _ _ => "UnaryExpression"

def groupOf (kind : String) : String :=
  if literalKinds.contains kind then "Literal" else kind

theorem expression_group (e : Expression) : (nodeKind e.toJson).map groupOf = .ok e.group := by
  cases e with
  | literal l => cases l <;> rfl
  | member place => cases place <;> rfl
  | _ => rfl

theorem group_of_json (a b : Expression) (equal : a.toJson.same b.toJson = true) : a.group = b.group := by
  have both := expression_group a
  rw [node_kind_same _ _ equal, expression_group b] at both
  injection both with same
  exact same.symm

theorem word_eq_of_json {ω : Type} [Spelled ω] (a b : ω)
    (equal : (spellingJson a).same (spellingJson b) = true) : a = b := by
  have spelled : Spelled.spelling a = Spelled.spelling b := by simpa [spellingJson, Json.same] using equal
  exact Spelled.spelling_injective a b spelled

theorem identifier_eq_of_json (a b : Identifier) (equal : a.toJson.same b.toJson = true) : a = b := by
  have name : (Json.string a.name).same (.string b.name) = true := member_same _ _ equal "name"
  obtain ⟨name'⟩ := a
  obtain ⟨name''⟩ := b
  simpa [Json.same] using name

theorem literal_eq_of_json (a b : Literal) (plain : a.numbers.all isNonnegative = true)
    (plain' : b.numbers.all isNonnegative = true) (equal : a.toJson.same b.toJson = true) : a = b := by
  have kinds := member_same _ _ equal "type"
  have values := member_same _ _ equal "value"
  cases a with
  | number x =>
      cases b with
      | number y =>
          simp only [Literal.numbers, List.all_cons, List.all_nil, Bool.and_true] at plain plain'
          rw [Json.number_eq_of_same x y plain plain' values]
      | _ => contradiction
  | string text =>
      cases b with
      | string text' =>
          have same : text = text' := by simpa using (show (text == text') = true from values)
          rw [same]
      | _ => contradiction
  | boolean value =>
      cases b with
      | boolean value' =>
          have same : value = value' := by simpa using (show (value == value') = true from values)
          rw [same]
      | _ => contradiction
  | null =>
      cases b with
      | null => rfl
      | _ => contradiction

mutual
theorem expression_eq_of_json (a b : Expression) (plain : a.numbers.all isNonnegative = true)
    (plain' : b.numbers.all isNonnegative = true) (equal : a.toJson.same b.toJson = true) : a = b := by
  have groups := group_of_json a b equal
  cases a with
  | identifier id =>
      cases b with
      | identifier id' => rw [identifier_eq_of_json id id' equal]
      | _ => simp [Expression.group] at groups
  | literal l =>
      cases b with
      | literal m => rw [literal_eq_of_json l m plain plain' equal]
      | _ => simp [Expression.group] at groups
  | this => cases b <;> simp_all [Expression.group]
  | super => cases b <;> simp_all [Expression.group]
  | new f list =>
      cases b with
      | new g list' =>
          simp only [Expression.numbers, List.all_append, Bool.and_eq_true] at plain plain'
          have callee := expression_eq_of_json f g plain.1 plain'.1 (member_same _ _ equal "callee")
          have arguments := expressions_eq_of_json list list' plain.2 plain'.2 (member_same _ _ equal "arguments")
          rw [callee, arguments]
      | _ => simp [Expression.group] at groups
  | call f list =>
      cases b with
      | call g list' =>
          simp only [Expression.numbers, List.all_append, Bool.and_eq_true] at plain plain'
          have callee := expression_eq_of_json f g plain.1 plain'.1 (member_same _ _ equal "callee")
          have arguments := expressions_eq_of_json list list' plain.2 plain'.2 (member_same _ _ equal "arguments")
          rw [callee, arguments]
      | _ => simp [Expression.group] at groups
  | member m =>
      cases b with
      | member n => rw [member_eq_of_json m n plain plain' equal]
      | _ => simp [Expression.group] at groups
  | assignment o t e =>
      cases b with
      | assignment o' t' e' =>
          simp only [Expression.numbers, List.all_append, Bool.and_eq_true] at plain plain'
          have operator := word_eq_of_json o o' (member_same _ _ equal "operator")
          have place := target_eq_of_json t t' plain.1 plain'.1 (member_same _ _ equal "left")
          have value := expression_eq_of_json e e' plain.2 plain'.2 (member_same _ _ equal "right")
          rw [operator, place, value]
      | _ => simp [Expression.group] at groups
  | binary o l r =>
      cases b with
      | binary o' l' r' =>
          simp only [Expression.numbers, List.all_append, Bool.and_eq_true] at plain plain'
          have operator := word_eq_of_json o o' (member_same _ _ equal "operator")
          have left := expression_eq_of_json l l' plain.1 plain'.1 (member_same _ _ equal "left")
          have right := expression_eq_of_json r r' plain.2 plain'.2 (member_same _ _ equal "right")
          rw [operator, left, right]
      | _ => simp [Expression.group] at groups
  | logical o l r =>
      cases b with
      | logical o' l' r' =>
          simp only [Expression.numbers, List.all_append, Bool.and_eq_true] at plain plain'
          have operator := word_eq_of_json o o' (member_same _ _ equal "operator")
          have left := expression_eq_of_json l l' plain.1 plain'.1 (member_same _ _ equal "left")
          have right := expression_eq_of_json r r' plain.2 plain'.2 (member_same _ _ equal "right")
          rw [operator, left, right]
      | _ => simp [Expression.group] at groups
  | unary o e =>
      cases b with
      | unary o' e' =>
          have operator := word_eq_of_json o o' (member_same _ _ equal "operator")
          have argument := expression_eq_of_json e e' plain plain' (member_same _ _ equal "argument")
          rw [operator, argument]
      | _ => simp [Expression.group] at groups
termination_by structural a

-- The flag tells a name from an expression that is an identifier.
theorem member_eq_of_json (a b : Member) (plain : a.numbers.all isNonnegative = true)
    (plain' : b.numbers.all isNonnegative = true) (equal : a.toJson.same b.toJson = true) : a = b := by
  have flags := member_same _ _ equal "computed"
  cases a with
  | named object property =>
      cases b with
      | named object' property' =>
          have first := expression_eq_of_json object object' plain plain' (member_same _ _ equal "object")
          have second := identifier_eq_of_json property property' (member_same _ _ equal "property")
          rw [first, second]
      | computed => contradiction
  | computed object property =>
      cases b with
      | computed object' property' =>
          simp only [Member.numbers, List.all_append, Bool.and_eq_true] at plain plain'
          have first := expression_eq_of_json object object' plain.1 plain'.1 (member_same _ _ equal "object")
          have second := expression_eq_of_json property property' plain.2 plain'.2 (member_same _ _ equal "property")
          rw [first, second]
      | named => contradiction
termination_by structural a

theorem target_eq_of_json (a b : Target) (plain : a.numbers.all isNonnegative = true)
    (plain' : b.numbers.all isNonnegative = true) (equal : a.toJson.same b.toJson = true) : a = b := by
  have kinds := member_same _ _ equal "type"
  cases a with
  | identifier id =>
      cases b with
      | identifier id' => rw [identifier_eq_of_json id id' equal]
      | member place => cases place <;> contradiction
  | member place =>
      cases b with
      | identifier id => cases place <;> contradiction
      | member place' => rw [member_eq_of_json place place' plain plain' equal]
termination_by structural a

theorem expressions_eq_of_json (a b : List Expression)
    (plain : (expressionsNumbers a).all isNonnegative = true)
    (plain' : (expressionsNumbers b).all isNonnegative = true)
    (equal : Json.sameItems (expressionsJson a) (expressionsJson b) = true) : a = b := by
  cases a with
  | nil =>
      cases b with
      | nil => rfl
      | cons f list' => simp [expressionsJson, Json.sameItems] at equal
  | cons e list =>
      cases b with
      | nil => simp [expressionsJson, Json.sameItems] at equal
      | cons f list' =>
          simp only [expressionsNumbers, expressionsJson, Json.sameItems, List.all_append, Bool.and_eq_true]
            at plain plain' equal
          have first := expression_eq_of_json e f plain.1 plain'.1 equal.1
          have others := expressions_eq_of_json list list' plain.2 plain'.2 equal.2
          rw [first, others]
termination_by structural a
end

section Parts

variable {α : Type} (toJson : α → Json) (numbers : α → List Binary64)
  (each : ∀ a b, (numbers a).all isNonnegative = true → (numbers b).all isNonnegative = true →
    (toJson a).same (toJson b) = true → a = b)
include each

-- An absent part is written as `null`, and no node is.
theorem option_eq_of_json (node : ∀ a, ∃ kind members, toJson a = nodeJson kind members) (a b : Option α)
    (plain : (optionNumbers numbers a).all isNonnegative = true)
    (plain' : (optionNumbers numbers b).all isNonnegative = true)
    (equal : (optionJson toJson a).same (optionJson toJson b) = true) : a = b := by
  match a, b with
  | none, none => rfl
  | some a, some b => rw [each a b plain plain' equal]
  | none, some b =>
      obtain ⟨kind, members, shape⟩ := node b
      rw [optionJson, optionJson, shape] at equal
      contradiction
  | some a, none =>
      obtain ⟨kind, members, shape⟩ := node a
      rw [optionJson, optionJson, shape] at equal
      contradiction

theorem list_eq_of_json (a b : List α) (plain : (a.flatMap numbers).all isNonnegative = true)
    (plain' : (b.flatMap numbers).all isNonnegative = true)
    (equal : Json.sameItems (a.map toJson) (b.map toJson) = true) : a = b := by
  induction a generalizing b with
  | nil =>
      cases b with
      | nil => rfl
      | cons y list' => simp [Json.sameItems] at equal
  | cons x list ih =>
      cases b with
      | nil => simp [Json.sameItems] at equal
      | cons y list' =>
          simp only [List.flatMap_cons, List.map_cons, Json.sameItems, List.all_append, Bool.and_eq_true]
            at plain plain' equal
          rw [each x y plain.1 plain'.1 equal.1, ih list' plain.2 plain'.2 equal.2]

end Parts

theorem optional_expression_eq_of_json (a b : Option Expression)
    (plain : (optionNumbers Expression.numbers a).all isNonnegative = true)
    (plain' : (optionNumbers Expression.numbers b).all isNonnegative = true)
    (equal : (optionJson Expression.toJson a).same (optionJson Expression.toJson b) = true) : a = b :=
  option_eq_of_json _ _ expression_eq_of_json expression_is_node a b plain plain' equal

theorem declaration_eq_of_json (a b : VariableDeclaration) (plain : a.numbers.all isNonnegative = true)
    (plain' : b.numbers.all isNonnegative = true) (equal : a.toJson.same b.toJson = true) : a = b := by
  obtain ⟨id, init⟩ := a
  obtain ⟨id', init'⟩ := b
  have name := identifier_eq_of_json id id' (member_same _ _ equal "id")
  have value := optional_expression_eq_of_json init init' plain plain' (member_same _ _ equal "init")
  rw [name, value]

theorem variables_eq_of_json (a b : List VariableDeclaration)
    (plain : (a.flatMap VariableDeclaration.numbers).all isNonnegative = true)
    (plain' : (b.flatMap VariableDeclaration.numbers).all isNonnegative = true)
    (equal : (variablesJson a).same (variablesJson b) = true) : a = b :=
  list_eq_of_json _ _ declaration_eq_of_json a b plain plain' (member_same _ _ equal "declarations")

theorem for_init_eq_of_json (a b : ForInit) (plain : a.numbers.all isNonnegative = true)
    (plain' : b.numbers.all isNonnegative = true) (equal : a.toJson.same b.toJson = true) : a = b := by
  have other (e : Expression) : nodeKind e.toJson ≠ .ok "VariableStatement" := by
    obtain ⟨kind, found, known⟩ := expression_kind e
    rw [found]
    rintro ⟨⟩
    exact absurd known (by decide)
  have kinds := node_kind_same _ _ equal
  match a, b with
  | .variables list, .variables list' => rw [variables_eq_of_json list list' plain plain' equal]
  | .expression e, .expression f => rw [expression_eq_of_json e f plain plain' equal]
  | .variables list, .expression f => exact absurd kinds.symm (other f)
  | .expression e, .variables list => exact absurd kinds (other e)

theorem identifiers_eq_of_json (a b : List Identifier)
    (equal : Json.sameItems (a.map Identifier.toJson) (b.map Identifier.toJson) = true) : a = b :=
  list_eq_of_json Identifier.toJson (fun _ => []) (fun id id' _ _ => identifier_eq_of_json id id') a b
    (by simp) (by simp) equal

theorem optional_identifier_eq_of_json (a b : Option Identifier)
    (equal : (optionJson Identifier.toJson a).same (optionJson Identifier.toJson b) = true) : a = b :=
  option_eq_of_json Identifier.toJson (fun _ => []) (fun id id' _ _ => identifier_eq_of_json id id')
    (fun _ => ⟨_, _, rfl⟩) a b (by cases a <;> rfl) (by cases b <;> rfl) equal

def Statement.kind : Statement → String
  | .block _ => "BlockStatement"
  | .empty => "EmptyStatement"
  | .expression _ => "ExpressionStatement"
  | .variables _ => "VariableStatement"
  | .conditional _ _ _ => "IfStatement"
  | .whileLoop _ _ => "WhileStatement"
  | .doWhileLoop _ _ => "DoWhileStatement"
  | .forLoop _ _ _ _ => "ForStatement"
  | .function _ _ _ => "FunctionDeclaration"
  | .returning _ => "ReturnStatement"
  | .classDeclaration _ _ _ => "ClassDeclaration"

theorem statement_kind (s : Statement) : nodeKind s.toJson = .ok s.kind := by
  cases s with
  | conditional test consequent alternate => cases alternate <;> rfl
  | _ => rfl

mutual
theorem statement_eq_of_json (a b : Statement) (plain : a.numbers.all isNonnegative = true)
    (plain' : b.numbers.all isNonnegative = true) (equal : a.toJson.same b.toJson = true) : a = b := by
  have kinds : a.kind = b.kind := by
    have both := node_kind_same _ _ equal
    rw [statement_kind, statement_kind] at both
    injection both
  cases a with
  | block body =>
      cases b with
      | block body' =>
          rw [statements_eq_of_json body body' plain plain' (member_same _ _ equal "body")]
      | _ => simp [Statement.kind] at kinds
  | empty => cases b <;> simp_all [Statement.kind]
  | expression e =>
      cases b with
      | expression f =>
          rw [expression_eq_of_json e f plain plain' (member_same _ _ equal "expression")]
      | _ => simp [Statement.kind] at kinds
  | «variables» list =>
      cases b with
      | «variables» list' => rw [variables_eq_of_json list list' plain plain' equal]
      | _ => simp [Statement.kind] at kinds
  | conditional test s alternate =>
      cases b with
      | conditional test' s' alternate' =>
          cases alternate with
          | none =>
              cases alternate' with
              | none =>
                  simp only [Statement.numbers, List.all_append, Bool.and_eq_true] at plain plain'
                  have first := expression_eq_of_json test test' plain.1 plain'.1 (member_same _ _ equal "test")
                  have second := statement_eq_of_json s s' plain.2 plain'.2 (member_same _ _ equal "consequent")
                  rw [first, second]
              | some t' =>
                  obtain ⟨kind, members, shape⟩ := statement_is_node t'
                  have third : Json.null.same t'.toJson = true := member_same _ _ equal "alternate"
                  rw [shape] at third
                  contradiction
          | some t =>
              cases alternate' with
              | none =>
                  obtain ⟨kind, members, shape⟩ := statement_is_node t
                  have third : t.toJson.same .null = true := member_same _ _ equal "alternate"
                  rw [shape] at third
                  contradiction
              | some t' =>
                  simp only [Statement.numbers, List.all_append, Bool.and_eq_true] at plain plain'
                  have first := expression_eq_of_json test test' plain.1.1 plain'.1.1 (member_same _ _ equal "test")
                  have second := statement_eq_of_json s s' plain.1.2 plain'.1.2 (member_same _ _ equal "consequent")
                  have third := statement_eq_of_json t t' plain.2 plain'.2 (member_same _ _ equal "alternate")
                  rw [first, second, third]
      | _ => simp [Statement.kind] at kinds
  | whileLoop test s =>
      cases b with
      | whileLoop test' s' =>
          simp only [Statement.numbers, List.all_append, Bool.and_eq_true] at plain plain'
          have first := expression_eq_of_json test test' plain.1 plain'.1 (member_same _ _ equal "test")
          have second := statement_eq_of_json s s' plain.2 plain'.2 (member_same _ _ equal "body")
          rw [first, second]
      | _ => simp [Statement.kind] at kinds
  | doWhileLoop s test =>
      cases b with
      | doWhileLoop s' test' =>
          simp only [Statement.numbers, List.all_append, Bool.and_eq_true] at plain plain'
          have first := statement_eq_of_json s s' plain.1 plain'.1 (member_same _ _ equal "body")
          have second := expression_eq_of_json test test' plain.2 plain'.2 (member_same _ _ equal "test")
          rw [first, second]
      | _ => simp [Statement.kind] at kinds
  | forLoop init test update s =>
      cases b with
      | forLoop init' test' update' s' =>
          simp only [Statement.numbers, List.all_append, Bool.and_eq_true] at plain plain'
          have first := option_eq_of_json _ _ for_init_eq_of_json for_init_is_node init init' plain.1.1.1
            plain'.1.1.1 (member_same _ _ equal "init")
          have second := optional_expression_eq_of_json test test' plain.1.1.2 plain'.1.1.2
            (member_same _ _ equal "test")
          have third := optional_expression_eq_of_json update update' plain.1.2 plain'.1.2
            (member_same _ _ equal "update")
          have fourth := statement_eq_of_json s s' plain.2 plain'.2 (member_same _ _ equal "body")
          rw [first, second, third, fourth]
      | _ => simp [Statement.kind] at kinds
  | function name params body =>
      cases b with
      | function name' params' body' =>
          have block : (blockJson (statementsJson body)).same (blockJson (statementsJson body')) = true :=
            member_same _ _ equal "body"
          have first := identifier_eq_of_json name name' (member_same _ _ equal "name")
          have second := identifiers_eq_of_json params params' (member_same _ _ equal "params")
          have third := statements_eq_of_json body body' plain plain' (member_same _ _ block "body")
          rw [first, second, third]
      | _ => simp [Statement.kind] at kinds
  | returning argument =>
      cases b with
      | returning argument' =>
          rw [optional_expression_eq_of_json argument argument' plain plain' (member_same _ _ equal "argument")]
      | _ => simp [Statement.kind] at kinds
  | classDeclaration id superClass body =>
      cases b with
      | classDeclaration id' superClass' body' =>
          have block : (blockJson (statementsJson body)).same (blockJson (statementsJson body')) = true :=
            member_same _ _ equal "body"
          have first := identifier_eq_of_json id id' (member_same _ _ equal "id")
          have second := optional_identifier_eq_of_json superClass superClass' (member_same _ _ equal "superClass")
          have third := statements_eq_of_json body body' plain plain' (member_same _ _ block "body")
          rw [first, second, third]
      | _ => simp [Statement.kind] at kinds
termination_by structural a

theorem statements_eq_of_json (a b : List Statement)
    (plain : (statementsNumbers a).all isNonnegative = true)
    (plain' : (statementsNumbers b).all isNonnegative = true)
    (equal : Json.sameItems (statementsJson a) (statementsJson b) = true) : a = b := by
  cases a with
  | nil =>
      cases b with
      | nil => rfl
      | cons t list' => simp [statementsJson, Json.sameItems] at equal
  | cons s list =>
      cases b with
      | nil => simp [statementsJson, Json.sameItems] at equal
      | cons t list' =>
          simp only [statementsNumbers, statementsJson, Json.sameItems, List.all_append, Bool.and_eq_true]
            at plain plain' equal
          have first := statement_eq_of_json s t plain.1 plain'.1 equal.1
          have others := statements_eq_of_json list list' plain.2 plain'.2 equal.2
          rw [first, others]
termination_by structural a
end

theorem program_eq_of_json (p q : Program) (plain : p.numbers.all isNonnegative = true)
    (plain' : q.numbers.all isNonnegative = true) (equal : p.toJson.same q.toJson = true) : p = q := by
  obtain ⟨body⟩ := p
  obtain ⟨body'⟩ := q
  rw [statements_eq_of_json body body' plain plain' (member_same _ _ equal "body")]

end ScriptFront
