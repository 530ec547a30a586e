import ScriptFront.Proofs.FiniteTrees
import ScriptFront.Tree.Writer

set_option autoImplicit false

/-! A tree that is written as a JSON value is read back, as long as all of its numbers are finite. -/

namespace ScriptFront

-- What is read is the same as `a`.
def ReadsAs {ε α : Type} (same : α → α → Bool) (result : Except ε α) (a : α) : Prop :=
  ∃ b, result = .ok b ∧ same b a = true

theorem reading_eq (v : Json) : v.reading = v.node.reading := by
  cases v <;> rfl

theorem node_value (v : Json) : v.node.value = v := by
  cases v <;> rfl

theorem reading_value (v : Json) : v.reading.value = v := by
  cases v <;> rfl

-- The member that a name stands for in a node.
def nodeMember? (kind : String) (members : List (String × Json)) (name : String) : Option Json :=
  lastOf name (("type", .string kind) :: members)

section Nodes

variable {α : Type} (kind : String) (members : List (String × Json))

theorem last_of_readings (name : String) :
    lastOf name (memberReadings members) = (lastOf name members).map Json.reading := by
  induction members with
  | nil => rfl
  | cons m rest ih =>
      rw [memberReadings, lastOf, lastOf, ih]
      cases lastOf name rest with
      | none =>
          by_cases same : m.1 = name
          · simp [same]
          · simp [same]
      | some later => rfl

theorem record_written (name : String) (ofMembers ofItems : Except Fault α) :
    (nodeJson kind members).node.record name ofMembers ofItems = ofMembers :=
  rfl

theorem field_written (name : String) (v : Json) (read : Reading → Except Fault α) (a : α)
    (found : nodeMember? kind members name = some v) (part : read v.reading = .ok a) :
    (nodeJson kind members).node.field? name read = .ok (some a) := by
  have last : lastOf name (nodeJson kind members).node.members = some v.reading := by
    change lastOf name (memberReadings (("type", .string kind) :: members)) = _
    unfold nodeMember? at found
    rw [last_of_readings, found]
    rfl
  unfold Node.field?
  rw [last]
  change (read v.reading).map some = _
  rw [part]
  rfl

-- Absent parts are written as `null`, and parts that are there are not.
theorem optional_field_written (name : String) (toJson : α → Json) (read : Reading → Except Fault α)
    (same : α → α → Bool) (o : Option α)
    (found : nodeMember? kind members name = some (optionJson toJson o))
    (some_ : ∀ a ∈ o, ∃ kind members, toJson a = nodeJson kind members)
    (each : ∀ a ∈ o, ReadsAs same (read (toJson a).reading) a) :
    ReadsAs (sameOption same) ((nodeJson kind members).node.optionalField name read) o := by
  cases o with
  | none =>
      have field := field_written kind members name .null (Reading.optional read) none found rfl
      refine ⟨none, ?_, rfl⟩
      unfold Node.optionalField
      rw [field]
      rfl
  | some a =>
      obtain ⟨b, part, equal⟩ := each a rfl
      obtain ⟨kind', members', shape⟩ := some_ a rfl
      have present : Reading.optional read (toJson a).reading = .ok (some b) := by
        rw [shape] at part ⊢
        change (read (nodeJson kind' members').reading).map some = _
        rw [part]
        rfl
      have field := field_written kind members name (toJson a) (Reading.optional read) (some b) found present
      refine ⟨some b, ?_, equal⟩
      unfold Node.optionalField
      rw [field]
      rfl

end Nodes

theorem list_written {α : Type} (toJson : α → Json) (read : Reading → Except Fault α) (same : α → α → Bool)
    (list : List α) (each : ∀ a ∈ list, ReadsAs same (read (toJson a).reading) a) :
    ReadsAs (sameList same) ((Json.array (list.map toJson)).node.list read) list := by
  change ReadsAs _ ((readings (list.map toJson)).mapM read) list
  induction list with
  | nil => exact ⟨[], rfl, rfl⟩
  | cons a rest ih =>
      obtain ⟨b, part, equal⟩ := each a (by simp)
      obtain ⟨found, parts, equals⟩ := ih fun a' member => each a' (by simp [member])
      refine ⟨b :: found, ?_, by simp [sameList, equal, equals]⟩
      rw [List.map_cons, readings, List.mapM_cons, part, parts]
      rfl

theorem expressions_json_eq (list : List Expression) : expressionsJson list = list.map Expression.toJson := by
  induction list with
  | nil => rfl
  | cons e rest ih => rw [expressionsJson, ih, List.map_cons]

theorem same_expressions_eq (a b : List Expression) : sameExpressions a b = sameList Expression.same a b := by
  induction a generalizing b with
  | nil => cases b <;> simp [sameExpressions, sameList]
  | cons e rest ih =>
      cases b with
      | nil => simp [sameExpressions, sameList]
      | cons f rest' => rw [sameExpressions, sameList, ih]

theorem statements_json_eq (list : List Statement) : statementsJson list = list.map Statement.toJson := by
  induction list with
  | nil => rfl
  | cons s rest ih => rw [statementsJson, ih, List.map_cons]

theorem same_statements_eq (a b : List Statement) : sameStatements a b = sameList Statement.same a b := by
  induction a generalizing b with
  | nil => cases b <;> simp [sameStatements, sameList]
  | cons s rest ih =>
      cases b with
      | nil => simp [sameStatements, sameList]
      | cons t rest' => rw [sameStatements, sameList, ih]

theorem word_written {ω : Type} [Spelled ω] (operator : ω) :
    (spellingJson operator).reading.word = .ok operator := by
  change Json.named (Spelled.spelling operator) = _
  unfold Json.named
  rw [(Spelled.of_spelling_eq_some_iff _ operator).mpr rfl]

theorem identifier_written (id : Identifier) : id.toJson.reading.identifier = .ok id := by
  have name := field_written "Identifier" [("name", .string id.name)] "name" (.string id.name) Reading.text
    id.name rfl rfl
  change (do
    let name ← (nodeJson "Identifier" [("name", .string id.name)]).node.field? "name" Reading.text
    return Identifier.mk (← required "name" name)) = _
  rw [name]
  rfl

theorem identifiers_written (list : List Identifier) :
    (Json.array (list.map Identifier.toJson)).reading.identifiers = .ok list := by
  change (readings (list.map Identifier.toJson)).mapM Reading.identifier = _
  induction list with
  | nil => rfl
  | cons id rest ih =>
      rw [List.map_cons, readings, List.mapM_cons, identifier_written, ih]
      rfl

theorem literal_written (l : Literal) (finite : AllFinite l.numbers) :
    ReadsAs Literal.same l.toJson.node.literal l := by
  cases l with
  | number x =>
      obtain ⟨y, read, same⟩ := Json.as_number_of_number x ((all_finite_one x).mp finite)
      have part : (Json.ofNumber x).reading.number = .ok y := by
        unfold Reading.number
        rw [reading_value, read]
      have value := field_written "NumericLiteral" [("value", .ofNumber x)] "value" _ Reading.number y rfl part
      refine ⟨.number y, ?_, same⟩
      change Except.map Literal.number ((nodeJson "NumericLiteral" _).node.literalValue Reading.number) = _
      unfold Node.literalValue
      rw [value]
      rfl
  | string text => exact ⟨.string text, rfl, by simp [Literal.same]⟩
  | boolean value => exact ⟨.boolean value, rfl, by simp [Literal.same]⟩
  | null => exact ⟨.null, rfl, rfl⟩

-- Nodes of expressions, each from what its parts read as.

section Expressions

variable (kind : String) (members : List (String × Json)) (first second : Json)

theorem application_written (callee : Expression) (arguments : List Expression)
    (one : nodeMember? kind members "callee" = some first) (read : first.reading.expression = .ok callee)
    (two : nodeMember? kind members "arguments" = some second)
    (read' : second.reading.expressions = .ok arguments) :
    (nodeJson kind members).node.application = .ok (callee, arguments) := by
  have left := field_written kind members "callee" first Reading.expression callee one read
  have right := field_written kind members "arguments" second Reading.expressions arguments two read'
  unfold Node.application
  rw [left, right]
  rfl

theorem operator_written {ω : Type} [Spelled ω] (operator : ω)
    (found : nodeMember? kind members "operator" = some (spellingJson operator)) :
    (nodeJson kind members).node.field? "operator" Reading.word = .ok (some operator) :=
  field_written kind members "operator" _ Reading.word operator found (word_written operator)

theorem operation_written {ω : Type} [Spelled ω] (build : ω → Expression → Expression → Expression)
    (operator : ω) (a b : Expression)
    (found : nodeMember? kind members "operator" = some (spellingJson operator))
    (one : nodeMember? kind members "left" = some first) (read : first.reading.expression = .ok a)
    (two : nodeMember? kind members "right" = some second) (read' : second.reading.expression = .ok b) :
    (nodeJson kind members).node.operation build = .ok (build operator a b) := by
  have spelled := operator_written kind members operator found
  have left := field_written kind members "left" first Reading.expression a one read
  have right := field_written kind members "right" second Reading.expression b two read'
  unfold Node.operation
  rw [spelled, left, right]
  rfl

theorem assignment_written (operator : AssignmentOperator) (place : Target) (value : Expression)
    (found : nodeMember? kind members "operator" = some (spellingJson operator))
    (one : nodeMember? kind members "left" = some first) (read : first.reading.target = .ok place)
    (two : nodeMember? kind members "right" = some second)
    (read' : second.reading.expression = .ok value) :
    (nodeJson kind members).node.assignment = .ok (.assignment operator place value) := by
  have spelled := operator_written kind members operator found
  have left := field_written kind members "left" first Reading.target place one read
  have right := field_written kind members "right" second Reading.expression value two read'
  unfold Node.assignment
  rw [spelled, left, right]
  rfl

theorem unary_written (operator : UnaryOperator) (argument : Expression)
    (found : nodeMember? kind members "operator" = some (spellingJson operator))
    (one : nodeMember? kind members "argument" = some first)
    (read : first.reading.expression = .ok argument) :
    (nodeJson kind members).node.unary = .ok (.unary operator argument) := by
  have spelled := operator_written kind members operator found
  have operand := field_written kind members "argument" first Reading.expression argument one read
  unfold Node.unary
  rw [spelled, operand]
  rfl

-- The flag tells a name from an expression that is an identifier.
theorem member_fields_written (computed : Bool) (object : Expression) (place : Member)
    (one : nodeMember? kind members "object" = some first) (read : first.reading.expression = .ok object)
    (two : nodeMember? kind members "property" = some second)
    (three : nodeMember? kind members "computed" = some (.boolean computed))
    (read' : Node.memberOf object second.reading computed = .ok place) :
    (nodeJson kind members).node.member = .ok place := by
  have left := field_written kind members "object" first Reading.expression object one read
  have right := field_written kind members "property" second Except.ok second.reading two rfl
  have flag := field_written kind members "computed" _ Reading.boolean computed three rfl
  unfold Node.member
  rw [record_written, left, right, flag]
  exact read'

end Expressions

theorem expression_of_target (place : Target) (v : Json) (e : Expression)
    (read : v.reading.expression = .ok e) (found : e.target? = some place) :
    v.reading.target = .ok place := by
  rw [reading_eq] at read ⊢
  change v.node.expression = .ok e at read
  change v.node.target = _
  unfold Node.target
  rw [read]
  dsimp only [bind, Except.bind]
  rw [found]
  rfl

mutual
theorem expression_written (e : Expression) (finite : AllFinite e.numbers) :
    ReadsAs Expression.same e.toJson.reading.expression e := by
  match e with
  | .identifier id =>
      refine ⟨.identifier id, ?_, by simp [Expression.same]⟩
      exact congrArg (Except.map Expression.identifier) (identifier_written id)
  | .literal value =>
      obtain ⟨value', read, same⟩ := literal_written value finite
      refine ⟨.literal value', ?_, by simpa [Expression.same] using same⟩
      cases value <;> exact congrArg (Except.map Expression.literal) read
  | .this => exact ⟨.this, rfl, by simp [Expression.same]⟩
  | .super => exact ⟨.super, rfl, by simp [Expression.same]⟩
  | .new callee arguments =>
      rw [Expression.numbers, all_finite_append, all_finite_expressions] at finite
      obtain ⟨callee', read, same⟩ := expression_written callee finite.1
      obtain ⟨arguments', read', same'⟩ := list_written _ Reading.expression _ arguments
        (expressions_written arguments finite.2)
      refine ⟨.new callee' arguments', ?_, by simp [Expression.same, same, same_expressions_eq, same']⟩
      rw [← expressions_json_eq] at read'
      have found := application_written "NewExpression"
        [("callee", callee.toJson), ("arguments", .array (expressionsJson arguments))] _ _ callee' arguments'
        rfl read rfl read'
      exact congrArg (Except.map fun f : Expression × List Expression => Expression.new f.1 f.2) found
  | .call callee arguments =>
      rw [Expression.numbers, all_finite_append, all_finite_expressions] at finite
      obtain ⟨callee', read, same⟩ := expression_written callee finite.1
      obtain ⟨arguments', read', same'⟩ := list_written _ Reading.expression _ arguments
        (expressions_written arguments finite.2)
      refine ⟨.call callee' arguments', ?_, by simp [Expression.same, same, same_expressions_eq, same']⟩
      rw [← expressions_json_eq] at read'
      have found := application_written "CallExpression"
        [("callee", callee.toJson), ("arguments", .array (expressionsJson arguments))] _ _ callee' arguments'
        rfl read rfl read'
      exact congrArg (Except.map fun f : Expression × List Expression => Expression.call f.1 f.2) found
  | .member place =>
      obtain ⟨place', read, same⟩ := member_written place finite
      refine ⟨.member place', ?_, by simpa [Expression.same] using same⟩
      cases place <;> exact congrArg (Except.map Expression.member) read
  | .assignment operator place value =>
      rw [Expression.numbers, all_finite_append] at finite
      obtain ⟨place', read, same⟩ := target_written place finite.1
      obtain ⟨value', read', same'⟩ := expression_written value finite.2
      refine ⟨.assignment operator place' value', ?_, by simp [Expression.same, same, same']⟩
      exact assignment_written "AssignmentExpression"
        [("operator", spellingJson operator), ("left", place.toJson), ("right", value.toJson)] _ _ operator
        place' value' rfl rfl read rfl read'
  | .binary operator left right =>
      rw [Expression.numbers, all_finite_append] at finite
      obtain ⟨left', read, same⟩ := expression_written left finite.1
      obtain ⟨right', read', same'⟩ := expression_written right finite.2
      refine ⟨.binary operator left' right', ?_, by simp [Expression.same, same, same']⟩
      exact operation_written "BinaryExpression"
        [("operator", spellingJson operator), ("left", left.toJson), ("right", right.toJson)] _ _ .binary
        operator left' right' rfl rfl read rfl read'
  | .logical operator left right =>
      rw [Expression.numbers, all_finite_append] at finite
      obtain ⟨left', read, same⟩ := expression_written left finite.1
      obtain ⟨right', read', same'⟩ := expression_written right finite.2
      refine ⟨.logical operator left' right', ?_, by simp [Expression.same, same, same']⟩
      exact operation_written "LogicalExpression"
        [("operator", spellingJson operator), ("left", left.toJson), ("right", right.toJson)] _ _ .logical
        operator left' right' rfl rfl read rfl read'
  | .unary operator argument =>
      obtain ⟨argument', read, same⟩ := expression_written argument finite
      refine ⟨.unary operator argument', ?_, by simp [Expression.same, same]⟩
      exact unary_written "UnaryExpression"
        [("operator", spellingJson operator), ("argument", argument.toJson)] _ operator argument' rfl rfl read

theorem member_written (place : Member) (finite : AllFinite place.numbers) :
    ReadsAs Member.same place.toJson.node.member place := by
  match place with
  | .named object property =>
      obtain ⟨object', read, same⟩ := expression_written object finite
      refine ⟨.named object' property, ?_, by simp [Member.same, same]⟩
      have kind : nodeKind property.toJson.reading.value = .ok "Identifier" := rfl
      have named : Node.memberOf object' property.toJson.reading false = .ok (.named object' property) := by
        unfold Node.memberOf
        rw [kind, identifier_written]
        rfl
      exact member_fields_written "MemberExpression"
        [("object", object.toJson), ("property", property.toJson), ("computed", .boolean false)] _ _ false object' _
        rfl read rfl rfl named
  | .computed object property =>
      rw [Member.numbers, all_finite_append] at finite
      obtain ⟨object', read, same⟩ := expression_written object finite.1
      obtain ⟨property', read', same'⟩ := expression_written property finite.2
      refine ⟨.computed object' property', ?_, by simp [Member.same, same, same']⟩
      have computed : Node.memberOf object' property.toJson.reading true =
          .ok (.computed object' property') := by
        unfold Node.memberOf
        rw [read']
        rfl
      exact member_fields_written "MemberExpression"
        [("object", object.toJson), ("property", property.toJson), ("computed", .boolean true)] _ _ true object' _
        rfl read rfl rfl computed

theorem target_written (place : Target) (finite : AllFinite place.numbers) :
    ReadsAs Target.same place.toJson.reading.target place := by
  match place with
  | .identifier id =>
      refine ⟨.identifier id, ?_, by simp [Target.same]⟩
      have read : id.toJson.reading.expression = .ok (.identifier id) :=
        congrArg (Except.map Expression.identifier) (identifier_written id)
      exact expression_of_target _ _ _ read rfl
  | .member place =>
      obtain ⟨place', read, same⟩ := member_written place finite
      refine ⟨.member place', ?_, by simpa [Target.same] using same⟩
      have read : place.toJson.reading.expression = .ok (.member place') := by
        cases place <;> exact congrArg (Except.map Expression.member) read
      exact expression_of_target _ _ _ read rfl

theorem expressions_written (list : List Expression) (finite : ∀ e ∈ list, AllFinite e.numbers) :
    ∀ e ∈ list, ReadsAs Expression.same e.toJson.reading.expression e := by
  match list with
  | [] => simp
  | e :: rest =>
      rw [List.forall_mem_cons] at finite ⊢
      exact ⟨expression_written e finite.1, expressions_written rest finite.2⟩
end

theorem expression_kind (e : Expression) :
    ∃ kind, nodeKind e.toJson = .ok kind ∧ kind ∈ expressionKinds := by
  cases e with
  | literal value => cases value <;> exact ⟨_, rfl, by decide⟩
  | member place => cases place <;> exact ⟨_, rfl, by decide⟩
  | _ => exact ⟨_, rfl, by decide⟩

theorem expression_is_node (e : Expression) : ∃ kind members, e.toJson = nodeJson kind members := by
  cases e with
  | literal value => cases value <;> exact ⟨_, _, rfl⟩
  | member place => cases place <;> exact ⟨_, _, rfl⟩
  | _ => exact ⟨_, _, rfl⟩

-- Nodes of statements.

-- The name stands for an expression that may be absent.
theorem optional_expression_written (kind : String) (members : List (String × Json)) (name : String)
    (o : Option Expression) (found : nodeMember? kind members name = some (optionJson Expression.toJson o))
    (finite : ∀ e ∈ o, AllFinite e.numbers) :
    ReadsAs (sameOption Expression.same) ((nodeJson kind members).node.optionalField name Reading.expression)
      o :=
  optional_field_written kind members name Expression.toJson Reading.expression Expression.same o found
    (fun e _ => expression_is_node e) fun e member => expression_written e (finite e member)

theorem declaration_written (declaration : VariableDeclaration) (finite : AllFinite declaration.numbers) :
    ReadsAs VariableDeclaration.same declaration.toJson.reading.declaration declaration := by
  obtain ⟨id, init⟩ := declaration
  have finite := (all_finite_option Expression.numbers init).mp finite
  have one := field_written "VariableDeclaration"
    [("id", id.toJson), ("init", optionJson Expression.toJson init)] "id" _ Reading.identifier id rfl
    (identifier_written id)
  obtain ⟨init', two, same⟩ := optional_expression_written "VariableDeclaration"
    [("id", id.toJson), ("init", optionJson Expression.toJson init)] "init" init rfl finite
  refine ⟨⟨id, init'⟩, ?_, by simp [VariableDeclaration.same, same]⟩
  change (nodeJson "VariableDeclaration"
    [("id", id.toJson), ("init", optionJson Expression.toJson init)]).node.declaration = _
  unfold Node.declaration
  rw [record_written, one, two]
  rfl

theorem declarations_written (list : List VariableDeclaration) (finite : ∀ d ∈ list, AllFinite d.numbers) :
    ReadsAs (sameList VariableDeclaration.same) (variablesJson list).node.variableList list := by
  obtain ⟨found, read, same⟩ := list_written VariableDeclaration.toJson Reading.declaration
    VariableDeclaration.same list fun d member => declaration_written d (finite d member)
  have one := field_written "VariableStatement"
    [("declarations", .array (list.map VariableDeclaration.toJson))] "declarations" _ Reading.declarations
    found rfl read
  refine ⟨found, ?_, same⟩
  unfold variablesJson Node.variableList
  rw [one]
  rfl

theorem for_init_written (init : ForInit) (finite : AllFinite init.numbers) :
    ReadsAs ForInit.same init.toJson.reading.forInit init := by
  match init with
  | .variables list =>
      obtain ⟨found, read, same⟩ := declarations_written list ((all_finite_flat_map _ _).mp finite)
      refine ⟨.variables found, ?_, by simpa [ForInit.same] using same⟩
      exact congrArg (Except.map ForInit.variables) read
  | .expression value =>
      obtain ⟨value', read, same⟩ := expression_written value finite
      obtain ⟨kind, shown, known⟩ := expression_kind value
      refine ⟨.expression value', ?_, by simpa [ForInit.same] using same⟩
      have apart : kind ≠ "VariableStatement" := by
        rintro rfl
        revert known
        decide
      rw [reading_eq] at read ⊢
      change value.toJson.node.forInit = _
      change value.toJson.node.expression = _ at read
      unfold Node.forInit
      rw [node_value, shown, read]
      change (if kind = "VariableStatement" then _ else _) = _
      rw [if_neg apart]
      rfl

section Statements

variable (kind : String) (members : List (String × Json)) (test body : Json) (e : Expression) (s : Statement)
  (one : nodeMember? kind members "test" = some test) (readTest : test.reading.expression = .ok e)

include one readTest

theorem conditional_written (o : Option Statement)
    (two : nodeMember? kind members "consequent" = some body) (read : body.reading.statement = .ok s)
    (optional : (nodeJson kind members).node.optionalField "alternate" Reading.statement = .ok o) :
    (nodeJson kind members).node.conditional = .ok (.conditional e s o) := by
  have tested := field_written kind members "test" test Reading.expression e one readTest
  have chosen := field_written kind members "consequent" body Reading.statement s two read
  unfold Node.conditional
  rw [tested, chosen, optional]
  rfl

variable (two : nodeMember? kind members "body" = some body) (read : body.reading.statement = .ok s)

include two read

theorem while_loop_written : (nodeJson kind members).node.whileLoop = .ok (.whileLoop e s) := by
  have tested := field_written kind members "test" test Reading.expression e one readTest
  have repeated := field_written kind members "body" body Reading.statement s two read
  unfold Node.whileLoop
  rw [tested, repeated]
  rfl

theorem do_while_loop_written : (nodeJson kind members).node.doWhileLoop = .ok (.doWhileLoop s e) := by
  have tested := field_written kind members "test" test Reading.expression e one readTest
  have repeated := field_written kind members "body" body Reading.statement s two read
  unfold Node.doWhileLoop
  rw [tested, repeated]
  rfl

end Statements

theorem body_written (kind name : String) (list : List Json) (body : List Statement)
    (read : (Json.array list).reading.statements = .ok body) :
    (nodeJson kind [("body", .array list)]).node.bodyOf name = .ok body := by
  have one := field_written kind [("body", .array list)] "body" (.array list) Reading.statements body rfl read
  unfold Node.bodyOf
  rw [record_written, one]
  rfl

theorem block_written (list : List Json) (body : List Statement)
    (read : (Json.array list).reading.statements = .ok body) : (blockJson list).reading.block = .ok body := by
  rw [reading_eq]
  exact body_written "BlockStatement" "BlockStatement" list body read

section Bodies

variable (kind : String) (members : List (String × Json)) (id : Identifier) (list : List Json)
  (body : List Statement) (block : nodeMember? kind members "body" = some (blockJson list))
  (read : (Json.array list).reading.statements = .ok body)

include block read

theorem function_written (params : List Identifier)
    (name : nodeMember? kind members "name" = some id.toJson)
    (places : nodeMember? kind members "params" = some (.array (params.map Identifier.toJson))) :
    (nodeJson kind members).node.function = .ok (.function id params body) := by
  have one := field_written kind members "name" _ Reading.identifier id name (identifier_written id)
  have two := field_written kind members "params" _ Reading.identifiers params places
    (identifiers_written params)
  have three := field_written kind members "body" _ Reading.block body block (block_written list body read)
  unfold Node.function
  rw [one, two, three]
  rfl

theorem class_written (superClass : Option Identifier)
    (name : nodeMember? kind members "id" = some id.toJson)
    (parent : nodeMember? kind members "superClass" = some (optionJson Identifier.toJson superClass)) :
    (nodeJson kind members).node.classDeclaration = .ok (.classDeclaration id superClass body) := by
  have one := field_written kind members "id" _ Reading.identifier id name (identifier_written id)
  have two := field_written kind members "body" _ Reading.block body block (block_written list body read)
  obtain ⟨found, three, same⟩ := optional_field_written kind members "superClass" Identifier.toJson
    Reading.identifier (fun a b => a == b) superClass parent (fun id _ => ⟨_, _, rfl⟩)
    fun id _ => ⟨id, identifier_written id, by simp⟩
  have equal : found = superClass := by
    cases found <;> cases superClass <;> simp_all [sameOption]
  unfold Node.classDeclaration
  rw [record_written, one, two, three, equal]
  rfl

end Bodies

theorem class_json_written (id : Identifier) (superClass : Option Identifier) (list : List Json)
    (body : List Statement) (read : (Json.array list).reading.statements = .ok body) :
    (classJson id superClass list).node.classDeclaration = .ok (.classDeclaration id superClass body) :=
  class_written "ClassDeclaration" [("id", id.toJson), ("superClass", optionJson Identifier.toJson superClass),
    ("body", blockJson list)] id list body rfl read superClass rfl rfl

theorem statement_is_node (s : Statement) : ∃ kind members, s.toJson = nodeJson kind members := by
  cases s with
  | conditional test consequent alternate => cases alternate <;> exact ⟨_, _, rfl⟩
  | _ => exact ⟨_, _, rfl⟩

theorem for_init_is_node (init : ForInit) : ∃ kind members, init.toJson = nodeJson kind members := by
  match init with
  | .variables list => exact ⟨_, _, rfl⟩
  | .expression value => exact expression_is_node value

theorem statements_list_written (list : List Statement)
    (each : ∀ s ∈ list, ReadsAs Statement.same s.toJson.reading.statement s) :
    ReadsAs sameStatements (Json.array (statementsJson list)).reading.statements list := by
  obtain ⟨found, read, same⟩ := list_written Statement.toJson Reading.statement Statement.same list each
  rw [← statements_json_eq] at read
  exact ⟨found, read, by rw [same_statements_eq]; exact same⟩

theorem returning_written (argument : Option Expression) (finite : ∀ e ∈ argument, AllFinite e.numbers) :
    ReadsAs Statement.same (Statement.returning argument).toJson.reading.statement (.returning argument) := by
  obtain ⟨argument', read, same⟩ := optional_expression_written "ReturnStatement"
    [("argument", optionJson Expression.toJson argument)] "argument" argument rfl finite
  refine ⟨.returning argument', ?_, by simpa [Statement.same] using same⟩
  change (nodeJson "ReturnStatement" [("argument", optionJson Expression.toJson argument)]).node.returning = _
  unfold Node.returning
  rw [read]
  rfl

theorem for_loop_written (kind : String) (members : List (String × Json)) (init : Option ForInit)
    (test update : Option Expression) (body : Json) (s : Statement)
    (one : nodeMember? kind members "init" = some (optionJson ForInit.toJson init))
    (first : ∀ i ∈ init, AllFinite i.numbers)
    (two : nodeMember? kind members "test" = some (optionJson Expression.toJson test))
    (second : ∀ e ∈ test, AllFinite e.numbers)
    (three : nodeMember? kind members "update" = some (optionJson Expression.toJson update))
    (third : ∀ e ∈ update, AllFinite e.numbers)
    (four : nodeMember? kind members "body" = some body) (read : body.reading.statement = .ok s) :
    ∃ init' test' update', (nodeJson kind members).node.forLoop = .ok (.forLoop init' test' update' s) ∧
      sameOption ForInit.same init' init = true ∧ sameOption Expression.same test' test = true ∧
      sameOption Expression.same update' update = true := by
  obtain ⟨init', begun, same⟩ := optional_field_written kind members "init" ForInit.toJson Reading.forInit
    ForInit.same init one (fun i _ => for_init_is_node i) fun i member => for_init_written i (first i member)
  obtain ⟨test', tested, same'⟩ := optional_expression_written kind members "test" test two second
  obtain ⟨update', updated, same''⟩ := optional_expression_written kind members "update" update three third
  have repeated := field_written kind members "body" body Reading.statement s four read
  refine ⟨init', test', update', ?_, same, same', same''⟩
  unfold Node.forLoop
  rw [repeated, begun, tested, updated]
  rfl

mutual
theorem statement_written (s : Statement) (finite : AllFinite s.numbers) :
    ReadsAs Statement.same s.toJson.reading.statement s := by
  match s with
  | .block body =>
      rw [Statement.numbers, all_finite_statements] at finite
      obtain ⟨body', read, same⟩ := statements_list_written body (statements_written body finite)
      refine ⟨.block body', ?_, by simpa [Statement.same] using same⟩
      exact congrArg (Except.map Statement.block) (body_written "BlockStatement" _ _ body' read)
  | .empty => exact ⟨.empty, rfl, by simp [Statement.same]⟩
  | .expression value =>
      obtain ⟨value', read, same⟩ := expression_written value finite
      have one := field_written "ExpressionStatement" [("expression", value.toJson)] "expression" _
        Reading.expression value' rfl read
      refine ⟨.expression value', ?_, by simpa [Statement.same] using same⟩
      change (nodeJson "ExpressionStatement" [("expression", value.toJson)]).node.expressionStatement = _
      unfold Node.expressionStatement
      rw [one]
      rfl
  | .variables list =>
      obtain ⟨found, read, same⟩ := declarations_written list ((all_finite_flat_map _ _).mp finite)
      refine ⟨.variables found, ?_, by simpa [Statement.same] using same⟩
      exact congrArg (Except.map Statement.variables) read
  | .conditional test consequent none =>
      rw [Statement.numbers, all_finite_append] at finite
      obtain ⟨test', read, same⟩ := expression_written test finite.1
      obtain ⟨consequent', read', same'⟩ := statement_written consequent finite.2
      obtain ⟨alternate', optional, same''⟩ := optional_field_written "IfStatement"
        [("test", test.toJson), ("consequent", consequent.toJson), ("alternate", .null)] "alternate"
        Statement.toJson Reading.statement Statement.same none rfl (by simp) (by simp)
      cases alternate' with
      | some s => contradiction
      | none =>
          refine ⟨.conditional test' consequent' none, ?_, by simp [Statement.same, same, same']⟩
          exact conditional_written "IfStatement"
            [("test", test.toJson), ("consequent", consequent.toJson), ("alternate", .null)] _ _ test'
            consequent' rfl read none rfl read' optional
  | .conditional test consequent (some alternate) =>
      rw [all_finite_conditional] at finite
      obtain ⟨test', read, same⟩ := expression_written test finite.1
      obtain ⟨consequent', read', same'⟩ := statement_written consequent finite.2.1
      have each := statement_written alternate (finite.2.2 alternate rfl)
      obtain ⟨alternate', optional, same''⟩ := optional_field_written "IfStatement"
        [("test", test.toJson), ("consequent", consequent.toJson), ("alternate", alternate.toJson)]
        "alternate" Statement.toJson Reading.statement Statement.same (some alternate) rfl
        (fun s _ => statement_is_node s) (fun s member => Option.some.inj member ▸ each)
      cases alternate' with
      | none => contradiction
      | some other =>
          have same'' : other.same alternate = true := same''
          refine ⟨.conditional test' consequent' (some other), ?_, by
            simp [Statement.same, same, same', same'']⟩
          exact conditional_written "IfStatement"
            [("test", test.toJson), ("consequent", consequent.toJson), ("alternate", alternate.toJson)] _ _
            test' consequent' rfl read (some other) rfl read' optional
  | .whileLoop test body =>
      rw [Statement.numbers, all_finite_append] at finite
      obtain ⟨test', read, same⟩ := expression_written test finite.1
      obtain ⟨body', read', same'⟩ := statement_written body finite.2
      refine ⟨.whileLoop test' body', ?_, by simp [Statement.same, same, same']⟩
      exact while_loop_written "WhileStatement" [("test", test.toJson), ("body", body.toJson)] _ _ test' body'
        rfl read rfl read'
  | .doWhileLoop body test =>
      rw [Statement.numbers, all_finite_append] at finite
      obtain ⟨body', read', same'⟩ := statement_written body finite.1
      obtain ⟨test', read, same⟩ := expression_written test finite.2
      refine ⟨.doWhileLoop body' test', ?_, by simp [Statement.same, same, same']⟩
      exact do_while_loop_written "DoWhileStatement" [("body", body.toJson), ("test", test.toJson)] _ _ test'
        body' rfl read rfl read'
  | .forLoop init test update body =>
      rw [Statement.numbers, all_finite_append, all_finite_append, all_finite_append, all_finite_option,
        all_finite_option, all_finite_option] at finite
      obtain ⟨⟨⟨first, second⟩, third⟩, last⟩ := finite
      obtain ⟨body', read, same⟩ := statement_written body last
      obtain ⟨init', test', update', found, same'⟩ := for_loop_written "ForStatement"
        [("init", optionJson ForInit.toJson init), ("test", optionJson Expression.toJson test),
          ("update", optionJson Expression.toJson update), ("body", body.toJson)] init test update _ body' rfl
        first rfl second rfl third rfl read
      refine ⟨.forLoop init' test' update' body', found, ?_⟩
      simp [Statement.same, same, same']
  | .function name params body =>
      rw [Statement.numbers, all_finite_statements] at finite
      obtain ⟨body', read, same⟩ := statements_list_written body (statements_written body finite)
      refine ⟨.function name params body', ?_, by simp [Statement.same, same]⟩
      exact function_written "FunctionDeclaration"
        [("name", name.toJson), ("params", .array (params.map Identifier.toJson)),
          ("body", blockJson (statementsJson body))] name _ body' rfl read params rfl rfl
  | .returning argument => exact returning_written argument ((all_finite_option _ _).mp finite)
  | .classDeclaration id superClass body =>
      rw [Statement.numbers, all_finite_statements] at finite
      obtain ⟨body', read, same⟩ := statements_list_written body (statements_written body finite)
      refine ⟨.classDeclaration id superClass body', ?_, by simp [Statement.same, same]⟩
      exact class_json_written id superClass _ body' read

theorem statements_written (list : List Statement) (finite : ∀ s ∈ list, AllFinite s.numbers) :
    ∀ s ∈ list, ReadsAs Statement.same s.toJson.reading.statement s := by
  match list with
  | [] => simp
  | s :: rest =>
      rw [List.forall_mem_cons] at finite ⊢
      exact ⟨statement_written s finite.1, statements_written rest finite.2⟩
end

end ScriptFront
