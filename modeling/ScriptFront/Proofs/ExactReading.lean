import ScriptFront.Proofs.RecordReading

set_option autoImplicit false

/-! Every JSON value is read exactly as its shape says: each sum by the kind that the value says it is of, and
from that, with the records, every value by induction on its parts. -/

namespace ScriptFront

-- A value that says of what kind it is is no array.
theorem record_of_kind {α : Type} (v : Json) (kind name : String) (ofMembers ofItems : Except Fault α)
    (tagged : v.HasKind kind) : v.node.record name ofMembers ofItems = ofMembers := by
  cases v with
  | object members => rfl
  | _ => contradiction

theorem kind_unique (v : Json) (kind kind' : String) (tagged : v.HasKind kind) (tagged' : v.HasKind kind') :
    kind = kind' :=
  Option.some.inj (tagged.symm.trans tagged')

section Values

variable {α : Type} (v : Json) (kind : String) (tagged : v.HasKind kind) (read : Reading → Except Fault α)
  (shape : Json → α → Prop) (agrees : AgreesBelow v read shape)

include tagged agrees

theorem literal_value_iff (a : α) : v.node.literalValue read = .ok a ↔ Needed shape (v.member? "value") a := by
  cases v with
  | object members =>
      simp only [Node.literalValue, ok_bind_iff, required_ok_iff, field_ok_iff members _ agrees]
      constructor
      · rintro ⟨_, value, rfl⟩
        exact value
      · intro value
        exact ⟨some a, value, rfl⟩
  | _ => contradiction

end Values

theorem literal_exact (v : Json) (l : Literal) : v.node.literal = .ok l ↔ LiteralShape v l := by
  simp only [Node.literal, node_value, ok_bind_iff, kind_ok_iff]
  constructor
  · rintro ⟨kind, tagged, found⟩
    split at found
    · obtain ⟨x, value, built⟩ := (ok_bind_iff _ _ _).mp found
      obtain rfl := (pure_ok_iff _ _).mp built
      exact .tagged v _ tagged (.number v x ((literal_value_iff v _ tagged _ _ (numbers_agree v) x).mp value))
    · obtain ⟨text, value, built⟩ := (ok_bind_iff _ _ _).mp found
      obtain rfl := (pure_ok_iff _ _).mp built
      exact .tagged v _ tagged (.string v text ((literal_value_iff v _ tagged _ _ (texts_agree v) text).mp value))
    · obtain ⟨b, value, built⟩ := (ok_bind_iff _ _ _).mp found
      obtain rfl := (pure_ok_iff _ _).mp built
      exact .tagged v _ tagged (.boolean v b ((literal_value_iff v _ tagged _ _ (booleans_agree v) b).mp value))
    · obtain rfl := (pure_ok_iff _ _).mp found
      exact .tagged v _ tagged (.null v)
    · contradiction
  · rintro ⟨tagged, record⟩
    refine ⟨l.kind, tagged, ?_⟩
    cases record with
    | number x value =>
        exact (ok_bind_iff _ _ _).mpr ⟨x, (literal_value_iff v _ tagged _ _ (numbers_agree v) x).mpr value, rfl⟩
    | string text value =>
        exact (ok_bind_iff _ _ _).mpr ⟨text, (literal_value_iff v _ tagged _ _ (texts_agree v) text).mpr value, rfl⟩
    | boolean b value =>
        exact (ok_bind_iff _ _ _).mpr ⟨b, (literal_value_iff v _ tagged _ _ (booleans_agree v) b).mpr value, rfl⟩
    | null => rfl

section Sums

variable (v : Json) (below : ∀ part : Json, part.PartOf v → part.PartExact)

include below

theorem expression_exact (e : Expression) : v.node.expression = .ok e ↔ ExpressionShape v e := by
  simp only [Node.expression, node_value, ok_bind_iff, kind_ok_iff]
  constructor
  · rintro ⟨kind, tagged, found⟩
    split at found
    case h_1 =>
      obtain ⟨id, read, built⟩ := (ok_bind_iff _ _ _).mp found
      obtain rfl := (pure_ok_iff _ _).mp built
      exact .tagged v _ tagged (.identifier v id ((identifier_exact v id).mp read))
    case h_2 | h_3 | h_4 | h_5 =>
      obtain ⟨l, read, built⟩ := (ok_bind_iff _ _ _).mp found
      obtain rfl := (pure_ok_iff _ _).mp built
      obtain ⟨tagged, record⟩ := (literal_exact v l).mp read
      exact .tagged v (.literal l) tagged (.literal v l record)
    case h_6 =>
      obtain rfl := (pure_ok_iff _ _).mp found
      exact .tagged v _ tagged (.this v)
    case h_7 =>
      obtain rfl := (pure_ok_iff _ _).mp found
      exact .tagged v _ tagged (.super v)
    case h_8 =>
      obtain ⟨⟨callee, arguments⟩, read, built⟩ := (ok_bind_iff _ _ _).mp found
      obtain rfl := (pure_ok_iff _ _).mp built
      have record := (application_exact v below "NewExpression" callee arguments).mp
        ((record_of_kind v _ _ _ _ tagged).trans read)
      exact .tagged v _ tagged (.new v callee arguments record)
    case h_9 =>
      obtain ⟨⟨callee, arguments⟩, read, built⟩ := (ok_bind_iff _ _ _).mp found
      obtain rfl := (pure_ok_iff _ _).mp built
      have record := (application_exact v below "CallExpression" callee arguments).mp
        ((record_of_kind v _ _ _ _ tagged).trans read)
      exact .tagged v _ tagged (.call v callee arguments record)
    case h_10 =>
      obtain ⟨place, read, built⟩ := (ok_bind_iff _ _ _).mp found
      obtain rfl := (pure_ok_iff _ _).mp built
      exact .tagged v _ tagged (.member v place ((member_exact v below place).mp read))
    case h_11 =>
      obtain ⟨_, _, _, rfl, record⟩ := (assignment_exact v below e).mp ((record_of_kind v _ _ _ _ tagged).trans found)
      exact .tagged v _ tagged record
    case h_12 =>
      obtain ⟨_, _, _, rfl, record⟩ := (binary_exact v below e).mp ((record_of_kind v _ _ _ _ tagged).trans found)
      exact .tagged v _ tagged record
    case h_13 =>
      obtain ⟨_, _, _, rfl, record⟩ := (logical_exact v below e).mp ((record_of_kind v _ _ _ _ tagged).trans found)
      exact .tagged v _ tagged record
    case h_14 =>
      obtain ⟨_, _, rfl, record⟩ := (unary_exact v below e).mp ((record_of_kind v _ _ _ _ tagged).trans found)
      exact .tagged v _ tagged record
    case h_15 => contradiction
  · rintro ⟨_, _, tagged, record⟩
    refine ⟨e.kind, tagged, ?_⟩
    cases id record with
    | identifier _ id shape => exact (ok_bind_iff _ _ _).mpr ⟨id, (identifier_exact v id).mpr shape, rfl⟩
    | literal _ l named =>
        have read := (literal_exact v l).mpr (.tagged v l tagged named)
        cases l <;> exact (ok_bind_iff _ _ _).mpr ⟨_, read, rfl⟩
    | this => rfl
    | super => rfl
    | new _ callee arguments shape =>
        have read := (application_exact v below "NewExpression" callee arguments).mpr shape
        exact (ok_bind_iff _ _ _).mpr ⟨_, (record_of_kind v _ _ _ _ tagged).symm.trans read, rfl⟩
    | call _ callee arguments shape =>
        have read := (application_exact v below "CallExpression" callee arguments).mpr shape
        exact (ok_bind_iff _ _ _).mpr ⟨_, (record_of_kind v _ _ _ _ tagged).symm.trans read, rfl⟩
    | member _ place shape => exact (ok_bind_iff _ _ _).mpr ⟨place, (member_exact v below place).mpr shape, rfl⟩
    | assignment =>
        have read := (assignment_exact v below _).mpr ⟨_, _, _, rfl, record⟩
        exact (record_of_kind v _ _ _ _ tagged).symm.trans read
    | binary =>
        have read := (binary_exact v below _).mpr ⟨_, _, _, rfl, record⟩
        exact (record_of_kind v _ _ _ _ tagged).symm.trans read
    | logical =>
        have read := (logical_exact v below _).mpr ⟨_, _, _, rfl, record⟩
        exact (record_of_kind v _ _ _ _ tagged).symm.trans read
    | unary =>
        have read := (unary_exact v below _).mpr ⟨_, _, rfl, record⟩
        exact (record_of_kind v _ _ _ _ tagged).symm.trans read

theorem target_exact (place : Target) : v.node.target = .ok place ↔ TargetShape v place := by
  have shape : TargetShape v place ↔ ExpressionShape v place.toExpression := by
    constructor
    · intro shape
      cases shape with
      | identifier _ id shape => exact shape
      | member _ place shape => exact shape
    · intro shape
      cases place with
      | identifier id => exact .identifier v id shape
      | member place => exact .member v place shape
  rw [shape, ← expression_exact v below]
  simp only [Node.target, ok_bind_iff]
  constructor
  · rintro ⟨e, read, found⟩
    split at found
    · rename_i named
      obtain rfl := (pure_ok_iff _ _).mp found
      exact (target_eq_some_iff e _).mp named ▸ read
    · contradiction
  · intro read
    refine ⟨place.toExpression, read, ?_⟩
    rw [(target_eq_some_iff _ place).mpr rfl]
    rfl

theorem for_init_exact (init : ForInit) : v.node.forInit = .ok init ↔ ForInitShape v init := by
  simp only [Node.forInit, node_value, ok_bind_iff, kind_ok_iff]
  constructor
  · rintro ⟨kind, tagged, found⟩
    split at found
    · rename_i same
      subst same
      obtain ⟨declarations, read, built⟩ := (ok_bind_iff _ _ _).mp found
      obtain rfl := (pure_ok_iff _ _).mp built
      exact .variables v declarations tagged
        ((variables_exact v below declarations).mp ((record_of_kind v _ _ _ _ tagged).trans read))
    · rename_i other
      obtain ⟨e, read, built⟩ := (ok_bind_iff _ _ _).mp found
      obtain rfl := (pure_ok_iff _ _).mp built
      exact .expression v e (fun tagged' => other (kind_unique v kind _ tagged tagged'))
        ((expression_exact v below e).mp read)
  · intro shape
    cases shape with
    | «variables» declarations tagged shape =>
        refine ⟨_, tagged, ?_⟩
        have read := (variables_exact v below declarations).mpr shape
        exact (ok_bind_iff _ _ _).mpr ⟨_, (record_of_kind v _ _ _ _ tagged).symm.trans read, rfl⟩
    | expression e other shape =>
        have read := (expression_exact v below e).mpr shape
        obtain ⟨_, _, tagged, _⟩ := shape
        refine ⟨_, tagged, ?_⟩
        rw [if_neg fun same : e.kind = "VariableStatement" => other (same ▸ tagged), read]
        rfl

theorem statement_exact (s : Statement) : v.node.statement = .ok s ↔ StatementShape v s := by
  simp only [Node.statement, node_value, ok_bind_iff, kind_ok_iff]
  constructor
  · rintro ⟨kind, tagged, found⟩
    split at found
    case h_1 =>
      obtain ⟨body, read, built⟩ := (ok_bind_iff _ _ _).mp found
      obtain rfl := (pure_ok_iff _ _).mp built
      exact .tagged v _ tagged (.block v body ((body_exact v below _ body).mp read))
    case h_2 =>
      obtain rfl := (pure_ok_iff _ _).mp found
      exact .tagged v _ tagged (.empty v)
    case h_3 =>
      obtain ⟨_, rfl, record⟩ := (expression_statement_exact v below s).mp
        ((record_of_kind v _ _ _ _ tagged).trans found)
      exact .tagged v _ tagged record
    case h_4 =>
      obtain ⟨declarations, read, built⟩ := (ok_bind_iff _ _ _).mp found
      obtain rfl := (pure_ok_iff _ _).mp built
      exact .tagged v _ tagged (.variables v declarations
        ((variables_exact v below declarations).mp ((record_of_kind v _ _ _ _ tagged).trans read)))
    case h_5 =>
      obtain ⟨_, _, _, rfl, record⟩ := (conditional_exact v below s).mp ((record_of_kind v _ _ _ _ tagged).trans found)
      exact .tagged v _ tagged record
    case h_6 =>
      obtain ⟨_, _, rfl, record⟩ := (while_loop_exact v below s).mp ((record_of_kind v _ _ _ _ tagged).trans found)
      exact .tagged v _ tagged record
    case h_7 =>
      obtain ⟨_, _, rfl, record⟩ := (do_while_loop_exact v below s).mp
        ((record_of_kind v _ _ _ _ tagged).trans found)
      exact .tagged v _ tagged record
    case h_8 =>
      obtain ⟨_, _, _, _, rfl, record⟩ := (for_loop_exact v below s).mp
        ((record_of_kind v _ _ _ _ tagged).trans found)
      exact .tagged v _ tagged record
    case h_9 =>
      obtain ⟨_, _, _, rfl, record⟩ := (function_exact v below s).mp ((record_of_kind v _ _ _ _ tagged).trans found)
      exact .tagged v _ tagged record
    case h_10 =>
      obtain ⟨_, rfl, record⟩ := (returning_exact v below s).mp ((record_of_kind v _ _ _ _ tagged).trans found)
      exact .tagged v _ tagged record
    case h_11 =>
      obtain ⟨_, _, _, rfl, record⟩ := (class_exact v below s).mp found
      exact .tagged v _ tagged record
    case h_12 => contradiction
  · rintro ⟨_, _, tagged, record⟩
    refine ⟨s.kind, tagged, ?_⟩
    cases id record with
    | block _ body shape => exact (ok_bind_iff _ _ _).mpr ⟨body, (body_exact v below _ body).mpr shape, rfl⟩
    | empty => rfl
    | expression =>
        have read := (expression_statement_exact v below _).mpr ⟨_, rfl, record⟩
        exact (record_of_kind v _ _ _ _ tagged).symm.trans read
    | «variables» _ declarations shape =>
        have read := (variables_exact v below declarations).mpr shape
        exact (ok_bind_iff _ _ _).mpr ⟨_, (record_of_kind v _ _ _ _ tagged).symm.trans read, rfl⟩
    | conditional =>
        have read := (conditional_exact v below _).mpr ⟨_, _, _, rfl, record⟩
        exact (record_of_kind v _ _ _ _ tagged).symm.trans read
    | whileLoop =>
        have read := (while_loop_exact v below _).mpr ⟨_, _, rfl, record⟩
        exact (record_of_kind v _ _ _ _ tagged).symm.trans read
    | doWhileLoop =>
        have read := (do_while_loop_exact v below _).mpr ⟨_, _, rfl, record⟩
        exact (record_of_kind v _ _ _ _ tagged).symm.trans read
    | forLoop =>
        have read := (for_loop_exact v below _).mpr ⟨_, _, _, _, rfl, record⟩
        exact (record_of_kind v _ _ _ _ tagged).symm.trans read
    | function =>
        have read := (function_exact v below _).mpr ⟨_, _, _, rfl, record⟩
        exact (record_of_kind v _ _ _ _ tagged).symm.trans read
    | returning =>
        have read := (returning_exact v below _).mpr ⟨_, rfl, record⟩
        exact (record_of_kind v _ _ _ _ tagged).symm.trans read
    | classDeclaration => exact (class_exact v below _).mpr ⟨_, _, _, rfl, record⟩

theorem part_exact : v.PartExact where
  statement s := reading_eq v ▸ statement_exact v below s
  expression e := reading_eq v ▸ expression_exact v below e
  forInit init := reading_eq v ▸ for_init_exact v below init
  target place := reading_eq v ▸ target_exact v below place
  identifier id := reading_eq v ▸ identifier_exact v id
  declaration d := reading_eq v ▸ declaration_exact v below d
  block body := reading_eq v ▸ body_exact v below _ body
  statements list := reading_eq v ▸ list_ok_iff v (statements_agree below) list
  expressions list := reading_eq v ▸ list_ok_iff v (expressions_agree below) list
  identifiers list := reading_eq v ▸ list_ok_iff v (identifiers_agree below) list
  declarations list := reading_eq v ▸ list_ok_iff v (fun part inside => (below part inside).declaration) list

end Sums

theorem part_smaller (part v : Json) (inside : part.PartOf v) : sizeOf part < sizeOf v := by
  cases inside with
  | member members m member =>
      have smaller := List.sizeOf_lt_of_mem member
      obtain ⟨name, value⟩ := m
      simp only [Prod.mk.sizeOf_spec, Json.object.sizeOf_spec] at smaller ⊢
      omega
  | item items part member =>
      have smaller := List.sizeOf_lt_of_mem member
      simp only [Json.array.sizeOf_spec]
      omega

theorem every_part_exact (v : Json) : v.PartExact :=
  part_exact v fun part _ => every_part_exact part
termination_by sizeOf v
decreasing_by exact part_smaller part v ‹part.PartOf v›

-- Whatever a value is read as, that succeeds exactly if the value has the shape for it, and gives what the
-- shape names.
structure Json.ReadExactly (v : Json) : Prop where
  statement : ∀ s, v.node.statement = .ok s ↔ StatementShape v s
  expression : ∀ e, v.node.expression = .ok e ↔ ExpressionShape v e
  literal : ∀ l, v.node.literal = .ok l ↔ LiteralShape v l
  forInit : ∀ init, v.node.forInit = .ok init ↔ ForInitShape v init
  target : ∀ place, v.node.target = .ok place ↔ TargetShape v place
  member : ∀ place, v.node.member = .ok place ↔ MemberShape v place
  identifier : ∀ id, v.node.identifier = .ok id ↔ IdentifierShape v id
  declaration : ∀ d, v.node.declaration = .ok d ↔ DeclarationShape v d
  variableStatement : ∀ declarations, v.node.variablesRecord = .ok declarations ↔ VariablesShape v declarations
  block : ∀ body, v.node.block = .ok body ↔ BodyShape v body
  program : ∀ body, v.node.program = .ok ⟨body⟩ ↔ BodyShape v body
  expressionStatement : ∀ s, v.node.expressionStatementRecord = .ok s ↔ ∃ e, s = .expression e ∧ StatementRecord v s
  conditional : ∀ s, v.node.conditionalRecord = .ok s ↔
    ∃ test consequent alternate, s = .conditional test consequent alternate ∧ StatementRecord v s
  whileLoop : ∀ s, v.node.whileLoopRecord = .ok s ↔ ∃ test body, s = .whileLoop test body ∧ StatementRecord v s
  doWhileLoop : ∀ s, v.node.doWhileLoopRecord = .ok s ↔ ∃ body test, s = .doWhileLoop body test ∧ StatementRecord v s
  forLoop : ∀ s, v.node.forLoopRecord = .ok s ↔
    ∃ init test update body, s = .forLoop init test update body ∧ StatementRecord v s
  function : ∀ s, v.node.functionRecord = .ok s ↔
    ∃ name params body, s = .function name params body ∧ StatementRecord v s
  returning : ∀ s, v.node.returningRecord = .ok s ↔ ∃ argument, s = .returning argument ∧ StatementRecord v s
  classDeclaration : ∀ s, v.node.classDeclaration = .ok s ↔
    ∃ id superClass body, s = .classDeclaration id superClass body ∧ StatementRecord v s
  application : ∀ name callee arguments,
    v.node.applicationRecord name = .ok (callee, arguments) ↔ ApplicationShape v callee arguments
  assignment : ∀ e, v.node.assignmentRecord = .ok e ↔
    ∃ operator left right, e = .assignment operator left right ∧ ExpressionRecord v e
  binary : ∀ e, v.node.operationRecord "BinaryExpression" .binary = .ok e ↔
    ∃ operator left right, e = .binary operator left right ∧ ExpressionRecord v e
  logical : ∀ e, v.node.operationRecord "LogicalExpression" .logical = .ok e ↔
    ∃ operator left right, e = .logical operator left right ∧ ExpressionRecord v e
  unary : ∀ e, v.node.unaryRecord = .ok e ↔ ∃ operator argument, e = .unary operator argument ∧ ExpressionRecord v e
  word : ∀ (ω : Type) [Spelled ω] (word : ω), v.asWord = .ok word ↔ WordShape v word

-- The readers accept the values of these shapes and no others, as what the shapes say.
theorem reads_shapes_exactly (v : Json) : v.ReadExactly := by
  have below : ∀ part : Json, part.PartOf v → part.PartExact := fun part _ => every_part_exact part
  exact {
    statement := statement_exact v below
    expression := expression_exact v below
    literal := literal_exact v
    forInit := for_init_exact v below
    target := target_exact v below
    member := member_exact v below
    identifier := identifier_exact v
    declaration := declaration_exact v below
    variableStatement := variables_exact v below
    block := body_exact v below "BlockStatement"
    program := fun body => by
      rw [Node.program, ok_map_iff, ← body_exact v below "Program"]
      simp
    expressionStatement := expression_statement_exact v below
    conditional := conditional_exact v below
    whileLoop := while_loop_exact v below
    doWhileLoop := do_while_loop_exact v below
    forLoop := for_loop_exact v below
    function := function_exact v below
    returning := returning_exact v below
    classDeclaration := class_exact v below
    application := application_exact v below
    assignment := assignment_exact v below
    binary := binary_exact v below
    logical := logical_exact v below
    unary := unary_exact v below
    word := fun _ => as_word_ok_iff v
  }

end ScriptFront
