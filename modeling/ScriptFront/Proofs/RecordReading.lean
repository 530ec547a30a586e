import ScriptFront.Proofs.PartReading

set_option autoImplicit false

/-! Reading records. A value whose parts are read exactly is read exactly as each kind of record, as an object
and as an array. -/

namespace ScriptFront

-- A value is read as what stands in another one exactly if it has the shape for that.
structure Json.PartExact (v : Json) : Prop where
  statement : ∀ s, v.reading.statement = .ok s ↔ StatementShape v s
  expression : ∀ e, v.reading.expression = .ok e ↔ ExpressionShape v e
  forInit : ∀ init, v.reading.forInit = .ok init ↔ ForInitShape v init
  target : ∀ place, v.reading.target = .ok place ↔ TargetShape v place
  identifier : ∀ id, v.reading.identifier = .ok id ↔ IdentifierShape v id
  declaration : ∀ d, v.reading.declaration = .ok d ↔ DeclarationShape v d
  block : ∀ body, v.reading.block = .ok body ↔ BodyShape v body
  statements : ∀ list, v.reading.statements = .ok list ↔ Listed StatementShape v list
  expressions : ∀ list, v.reading.expressions = .ok list ↔ Listed ExpressionShape v list
  identifiers : ∀ list, v.reading.identifiers = .ok list ↔ Listed IdentifierShape v list
  declarations : ∀ list, v.reading.declarations = .ok list ↔ Listed DeclarationShape v list

-- Parts without parts are always read exactly.

theorem texts_agree (v : Json) : AgreesBelow v Reading.text TextShape := by
  intro part _ a
  rw [Reading.text, reading_value]
  constructor
  · intro found
    cases part with
    | string text => exact (Except.ok.inj found) ▸ .text text
    | _ => contradiction
  · rintro ⟨text⟩
    rfl

theorem booleans_agree (v : Json) : AgreesBelow v Reading.boolean BooleanShape := by
  intro part _ a
  rw [Reading.boolean, reading_value]
  constructor
  · intro found
    cases part with
    | boolean value => exact (Except.ok.inj found) ▸ .boolean value
    | _ => contradiction
  · rintro ⟨value⟩
    rfl

theorem numbers_agree (v : Json) : AgreesBelow v Reading.number NumberShape := by
  intro part _ a
  rw [Reading.number, reading_value]
  constructor
  · intro found
    cases part with
    | integer value => exact (Except.ok.inj found) ▸ .integer value
    | float value => exact (Except.ok.inj found) ▸ .float value
    | _ => contradiction
  · intro number
    cases number with
    | integer value => rfl
    | float value => rfl

theorem only_member_iff (members : List (String × Json)) (name : String) (value : Json) :
    Json.onlyMember? members = some (name, value) ↔ (∀ m ∈ members, m.1 = name) ∧ lastOf name members = some value := by
  cases members with
  | nil => simp [Json.onlyMember?, lastOf]
  | cons m rest =>
      obtain ⟨first, given⟩ := m
      have all : (∀ m ∈ (first, given) :: rest, m.1 = name) ↔ first = name ∧ rest.all (·.1 == name) = true := by
        simp
      rw [Json.onlyMember?, all]
      split
      · rename_i same
        simp only [Option.map_eq_some_iff, Prod.mk.injEq]
        constructor
        · rintro ⟨found, last, rfl, rfl⟩
          exact ⟨⟨rfl, same⟩, last⟩
        · rintro ⟨⟨rfl, _⟩, last⟩
          exact ⟨value, last, rfl, rfl⟩
      · rename_i other
        constructor
        · intro found
          contradiction
        · rintro ⟨⟨rfl, same⟩, _⟩
          exact absurd same other

theorem named_ok_iff {ω : Type} [Spelled ω] (text : String) (word : ω) :
    Json.named text = .ok word ↔ Spelled.spelling word = text := by
  rw [← Spelled.of_spelling_eq_some_iff, Json.named]
  cases (Spelled.ofSpelling? text : Option ω) with
  | none => exact ⟨nofun, nofun⟩
  | some found => simp

theorem as_word_ok_iff {ω : Type} [Spelled ω] (v : Json) (word : ω) : v.asWord = .ok word ↔ WordShape v word := by
  cases v with
  | string text =>
      rw [Json.asWord, named_ok_iff]
      exact ⟨fun same => same ▸ .spelling word, fun | .spelling _ => rfl⟩
  | object members =>
      rw [Json.asWord]
      cases only : Json.onlyMember? members with
      | none =>
          refine ⟨nofun, fun shape => ?_⟩
          cases shape with
          | member _ _ same last =>
              rw [(only_member_iff members _ _).mpr ⟨same, last⟩] at only
              contradiction
      | some found =>
          obtain ⟨name, value⟩ := found
          obtain ⟨same, last⟩ := (only_member_iff members name value).mp only
          simp only [ok_bind_iff, named_ok_iff]
          constructor
          · rintro ⟨word', rfl, found⟩
            cases value with
            | null => exact (pure_ok_iff _ _).mp found ▸ .member members word' same last
            | _ => contradiction
          · intro shape
            cases shape with
            | member _ _ same' last' =>
                rw [(only_member_iff members _ _).mpr ⟨same', last'⟩] at only
                obtain ⟨rfl, rfl⟩ := Prod.mk.inj (Option.some.inj only)
                exact ⟨word, rfl, rfl⟩
  | _ => exact ⟨nofun, nofun⟩

theorem words_agree {ω : Type} [Spelled ω] (v : Json) : AgreesBelow v Reading.word (WordShape (ω := ω)) := by
  intro part _ word
  rw [Reading.word, reading_value]
  exact as_word_ok_iff part word

theorem kind_ok_iff (v : Json) (kind : String) : nodeKind v = .ok kind ↔ v.HasKind kind := by
  unfold nodeKind Json.HasKind
  cases (v.member? "type").bind Json.text? with
  | none => exact ⟨nofun, nofun⟩
  | some found => simp

-- What stands below a value.

section Below

variable {v : Json} (below : ∀ part : Json, part.PartOf v → part.PartExact)

include below

theorem statements_agree : AgreesBelow v Reading.statement StatementShape :=
  fun part inside => (below part inside).statement

theorem expressions_agree : AgreesBelow v Reading.expression ExpressionShape :=
  fun part inside => (below part inside).expression

theorem for_inits_agree : AgreesBelow v Reading.forInit ForInitShape :=
  fun part inside => (below part inside).forInit

theorem targets_agree : AgreesBelow v Reading.target TargetShape :=
  fun part inside => (below part inside).target

theorem identifiers_agree : AgreesBelow v Reading.identifier IdentifierShape :=
  fun part inside => (below part inside).identifier

theorem blocks_agree : AgreesBelow v Reading.block BodyShape :=
  fun part inside => (below part inside).block

theorem statement_lists_agree : AgreesBelow v Reading.statements (Listed StatementShape) :=
  fun part inside => (below part inside).statements

theorem expression_lists_agree : AgreesBelow v Reading.expressions (Listed ExpressionShape) :=
  fun part inside => (below part inside).expressions

theorem identifier_lists_agree : AgreesBelow v Reading.identifiers (Listed IdentifierShape) :=
  fun part inside => (below part inside).identifiers

theorem declaration_lists_agree : AgreesBelow v Reading.declarations (Listed DeclarationShape) :=
  fun part inside => (below part inside).declarations

end Below

section Records

variable (v : Json) (below : ∀ part : Json, part.PartOf v → part.PartExact)

theorem identifier_exact (id : Identifier) : v.node.identifier = .ok id ↔ IdentifierShape v id := by
  unfold Node.identifier
  refine (record_ok_iff v _ ["name"] _ _ (fun parts => Needed TextShape (parts "name") id.name) id ?_ ?_).trans ?_
  · rintro members rfl
    simp only [ok_bind_iff, required_ok_iff, field_ok_iff members _ (texts_agree _), pure_ok_iff]
    constructor
    · rintro ⟨_, first, name, rfl, rfl⟩
      exact first
    · intro first
      exact ⟨some id.name, first, id.name, rfl, rfl⟩
  · rintro items rfl
    simp only [ok_bind_iff, item_ok_iff items _ _ _ (texts_agree _), no_more_items_ok_iff, pure_ok_iff]
    grind [Identifier]
  · constructor
    · rintro ⟨parts, record, first⟩
      exact .record v parts id.name record first
    · rintro ⟨parts, name, record, first⟩
      exact ⟨parts, record, first⟩

include below

theorem body_exact (name : String) (body : List Statement) : v.node.bodyOf name = .ok body ↔ BodyShape v body := by
  unfold Node.bodyOf
  refine (record_ok_iff v _ ["body"] _ _ (fun parts => Needed (Listed StatementShape) (parts "body") body)
    body ?_ ?_).trans ?_
  · rintro members rfl
    simp only [ok_bind_iff, required_ok_iff, field_ok_iff members _ (statement_lists_agree below)]
    constructor
    · rintro ⟨_, first, rfl⟩
      exact first
    · intro first
      exact ⟨some body, first, rfl⟩
  · rintro items rfl
    simp only [ok_bind_iff, item_ok_iff items _ _ _ (statement_lists_agree below), no_more_items_ok_iff,
      pure_ok_iff]
    grind
  · constructor
    · rintro ⟨parts, record, first⟩
      exact .record v parts body record first
    · intro shape
      cases shape with
      | record _ parts _ record first => exact ⟨parts, record, first⟩

theorem declaration_exact (d : VariableDeclaration) : v.node.declaration = .ok d ↔ DeclarationShape v d := by
  unfold Node.declaration
  refine (record_ok_iff v _ ["id", "init"] _ _ (fun parts => Needed IdentifierShape (parts "id") d.id ∧
    Optional ExpressionShape (parts "init") d.init) d ?_ ?_).trans ?_
  · rintro members rfl
    simp only [ok_bind_iff, required_ok_iff, field_ok_iff members _ (identifiers_agree below),
      optional_field_ok_iff members _ (expressions_agree below), pure_ok_iff]
    constructor
    · rintro ⟨_, first, init, second, id, rfl, rfl⟩
      exact ⟨first, second⟩
    · rintro ⟨first, second⟩
      exact ⟨some d.id, first, d.init, second, d.id, rfl, rfl⟩
  · rintro items rfl
    simp only [ok_bind_iff, item_ok_iff items _ _ _ (identifiers_agree below),
      optional_item_ok_iff items _ _ _ (expressions_agree below), no_more_items_ok_iff, pure_ok_iff]
    grind [VariableDeclaration]
  · constructor
    · rintro ⟨parts, record, first, second⟩
      exact .record v parts d.id d.init record first second
    · rintro ⟨parts, id, init, record, first, second⟩
      exact ⟨parts, record, first, second⟩

theorem variables_exact (declarations : List VariableDeclaration) :
    v.node.variablesRecord = .ok declarations ↔ VariablesShape v declarations := by
  unfold Node.variablesRecord
  refine (record_ok_iff v _ ["declarations"] _ _ (fun parts =>
    Needed (Listed DeclarationShape) (parts "declarations") declarations) declarations ?_ ?_).trans ?_
  · rintro members rfl
    simp only [Node.variableList, ok_bind_iff, required_ok_iff,
      field_ok_iff members _ (declaration_lists_agree below)]
    constructor
    · rintro ⟨_, first, rfl⟩
      exact first
    · intro first
      exact ⟨some declarations, first, rfl⟩
  · rintro items rfl
    simp only [ok_bind_iff, item_ok_iff items _ _ _ (declaration_lists_agree below), no_more_items_ok_iff,
      pure_ok_iff]
    grind
  · constructor
    · rintro ⟨parts, record, first⟩
      exact .record v parts declarations record first
    · rintro ⟨parts, declarations, record, first⟩
      exact ⟨parts, record, first⟩

theorem application_exact (name : String) (callee : Expression) (arguments : List Expression) :
    v.node.applicationRecord name = .ok (callee, arguments) ↔ ApplicationShape v callee arguments := by
  unfold Node.applicationRecord
  refine (record_ok_iff v _ ["callee", "arguments"] _ _ (fun parts =>
    Needed ExpressionShape (parts "callee") callee ∧
    Needed (Listed ExpressionShape) (parts "arguments") arguments) (callee, arguments) ?_ ?_).trans ?_
  · rintro members rfl
    simp only [Node.application, ok_bind_iff, required_ok_iff,
      field_ok_iff members _ (expression_lists_agree below),
      field_ok_iff members _ (expressions_agree below), pure_ok_iff, Prod.mk.injEq]
    constructor
    · rintro ⟨_, second, _, first, callee, rfl, arguments, rfl, rfl, rfl⟩
      exact ⟨first, second⟩
    · rintro ⟨first, second⟩
      exact ⟨some arguments, second, some callee, first, callee, rfl, arguments, rfl, rfl, rfl⟩
  · rintro items rfl
    simp only [ok_bind_iff, item_ok_iff items _ _ _ (expressions_agree below),
      item_ok_iff items _ _ _ (expression_lists_agree below), no_more_items_ok_iff, pure_ok_iff]
    grind
  · constructor
    · rintro ⟨parts, record, first, second⟩
      exact .record v parts callee arguments record first second
    · intro shape
      cases shape with
      | record _ parts _ _ record first second => exact ⟨parts, record, first, second⟩

theorem assignment_exact (e : Expression) :
    v.node.assignmentRecord = .ok e ↔ ∃ operator left right, e = .assignment operator left right ∧
      ExpressionRecord v e := by
  unfold Node.assignmentRecord
  refine (record_ok_iff v _ ["operator", "left", "right"] _ _ (fun parts => ∃ operator left right,
    e = .assignment operator left right ∧ Needed WordShape (parts "operator") operator ∧
    Needed TargetShape (parts "left") left ∧ Needed ExpressionShape (parts "right") right) e ?_ ?_).trans ?_
  · rintro members rfl
    simp only [Node.assignment, ok_bind_iff, required_ok_iff, field_ok_iff members _ (targets_agree below),
      field_ok_iff members _ (words_agree _), field_ok_iff members _ (expressions_agree below), pure_ok_iff]
    constructor
    · rintro ⟨_, second, _, first, _, third, operator, rfl, left, rfl, right, rfl, rfl⟩
      exact ⟨operator, left, right, rfl, first, second, third⟩
    · rintro ⟨operator, left, right, rfl, first, second, third⟩
      exact ⟨some left, second, some operator, first, some right, third, operator, rfl, left, rfl, right, rfl, rfl⟩
  · rintro items rfl
    simp only [ok_bind_iff, item_ok_iff items _ _ _ (words_agree _),
      item_ok_iff items _ _ _ (targets_agree below), item_ok_iff items _ _ _ (expressions_agree below),
      no_more_items_ok_iff, pure_ok_iff]
    grind
  · constructor
    · rintro ⟨parts, record, operator, left, right, rfl, first, second, third⟩
      exact ⟨operator, left, right, rfl, .assignment v parts operator left right record first second third⟩
    · rintro ⟨operator, left, right, rfl, record⟩
      cases record with
      | assignment _ parts _ _ _ record first second third =>
        exact ⟨parts, record, operator, left, right, rfl, first, second, third⟩

theorem unary_exact (e : Expression) :
    v.node.unaryRecord = .ok e ↔ ∃ operator argument, e = .unary operator argument ∧ ExpressionRecord v e := by
  unfold Node.unaryRecord
  refine (record_ok_iff v _ ["operator", "argument"] _ _ (fun parts => ∃ operator argument,
    e = .unary operator argument ∧ Needed WordShape (parts "operator") operator ∧
    Needed ExpressionShape (parts "argument") argument) e ?_ ?_).trans ?_
  · rintro members rfl
    simp only [Node.unary, ok_bind_iff, required_ok_iff, field_ok_iff members _ (expressions_agree below),
      field_ok_iff members _ (words_agree _), pure_ok_iff]
    constructor
    · rintro ⟨_, second, _, first, operator, rfl, argument, rfl, rfl⟩
      exact ⟨operator, argument, rfl, first, second⟩
    · rintro ⟨operator, argument, rfl, first, second⟩
      exact ⟨some argument, second, some operator, first, operator, rfl, argument, rfl, rfl⟩
  · rintro items rfl
    simp only [ok_bind_iff, item_ok_iff items _ _ _ (words_agree _),
      item_ok_iff items _ _ _ (expressions_agree below), no_more_items_ok_iff, pure_ok_iff]
    grind
  · constructor
    · rintro ⟨parts, record, operator, argument, rfl, first, second⟩
      exact ⟨operator, argument, rfl, .unary v parts operator argument record first second⟩
    · rintro ⟨operator, argument, rfl, record⟩
      cases record with
      | unary _ parts _ _ record first second => exact ⟨parts, record, operator, argument, rfl, first, second⟩

theorem expression_statement_exact (s : Statement) :
    v.node.expressionStatementRecord = .ok s ↔ ∃ e, s = .expression e ∧ StatementRecord v s := by
  unfold Node.expressionStatementRecord
  refine (record_ok_iff v _ ["expression"] _ _ (fun parts => ∃ e, s = .expression e ∧
    Needed ExpressionShape (parts "expression") e) s ?_ ?_).trans ?_
  · rintro members rfl
    simp only [Node.expressionStatement, ok_bind_iff, required_ok_iff,
      field_ok_iff members _ (expressions_agree below), pure_ok_iff]
    constructor
    · rintro ⟨_, first, e, rfl, rfl⟩
      exact ⟨e, rfl, first⟩
    · rintro ⟨e, rfl, first⟩
      exact ⟨some e, first, e, rfl, rfl⟩
  · rintro items rfl
    simp only [ok_bind_iff, item_ok_iff items _ _ _ (expressions_agree below), no_more_items_ok_iff, pure_ok_iff]
    grind
  · constructor
    · rintro ⟨parts, record, e, rfl, first⟩
      exact ⟨e, rfl, .expression v parts e record first⟩
    · rintro ⟨e, rfl, record⟩
      cases record with
      | expression _ parts _ record first => exact ⟨parts, record, e, rfl, first⟩

theorem conditional_exact (s : Statement) :
    v.node.conditionalRecord = .ok s ↔ ∃ test consequent alternate, s = .conditional test consequent alternate ∧
      StatementRecord v s := by
  unfold Node.conditionalRecord
  refine (record_ok_iff v _ ["test", "consequent", "alternate"] _ _ (fun parts => ∃ test consequent alternate,
    s = .conditional test consequent alternate ∧ Needed ExpressionShape (parts "test") test ∧
    Needed StatementShape (parts "consequent") consequent ∧
    Optional StatementShape (parts "alternate") alternate) s ?_ ?_).trans ?_
  · rintro members rfl
    simp only [Node.conditional, ok_bind_iff, required_ok_iff,
      optional_field_ok_iff members _ (statements_agree below), field_ok_iff members _ (statements_agree below),
      field_ok_iff members _ (expressions_agree below), pure_ok_iff]
    constructor
    · rintro ⟨alternate, third, _, second, _, first, test, rfl, consequent, rfl, rfl⟩
      exact ⟨test, consequent, alternate, rfl, first, second, third⟩
    · rintro ⟨test, consequent, alternate, rfl, first, second, third⟩
      exact ⟨alternate, third, some consequent, second, some test, first, test, rfl, consequent, rfl, rfl⟩
  · rintro items rfl
    simp only [ok_bind_iff, item_ok_iff items _ _ _ (expressions_agree below),
      item_ok_iff items _ _ _ (statements_agree below), optional_item_ok_iff items _ _ _ (statements_agree below),
      no_more_items_ok_iff, pure_ok_iff]
    grind
  · constructor
    · rintro ⟨parts, record, test, consequent, alternate, rfl, first, second, third⟩
      exact ⟨test, consequent, alternate, rfl,
        .conditional v parts test consequent alternate record first second third⟩
    · rintro ⟨test, consequent, alternate, rfl, record⟩
      cases record with
      | conditional _ parts _ _ _ record first second third =>
        exact ⟨parts, record, test, consequent, alternate, rfl, first, second, third⟩

theorem while_loop_exact (s : Statement) :
    v.node.whileLoopRecord = .ok s ↔ ∃ test body, s = .whileLoop test body ∧ StatementRecord v s := by
  unfold Node.whileLoopRecord
  refine (record_ok_iff v _ ["test", "body"] _ _ (fun parts => ∃ test body, s = .whileLoop test body ∧
    Needed ExpressionShape (parts "test") test ∧ Needed StatementShape (parts "body") body) s ?_ ?_).trans ?_
  · rintro members rfl
    simp only [Node.whileLoop, ok_bind_iff, required_ok_iff, field_ok_iff members _ (statements_agree below),
      field_ok_iff members _ (expressions_agree below), pure_ok_iff]
    constructor
    · rintro ⟨_, second, _, first, test, rfl, body, rfl, rfl⟩
      exact ⟨test, body, rfl, first, second⟩
    · rintro ⟨test, body, rfl, first, second⟩
      exact ⟨some body, second, some test, first, test, rfl, body, rfl, rfl⟩
  · rintro items rfl
    simp only [ok_bind_iff, item_ok_iff items _ _ _ (expressions_agree below),
      item_ok_iff items _ _ _ (statements_agree below), no_more_items_ok_iff, pure_ok_iff]
    grind
  · constructor
    · rintro ⟨parts, record, test, body, rfl, first, second⟩
      exact ⟨test, body, rfl, .whileLoop v parts test body record first second⟩
    · rintro ⟨test, body, rfl, record⟩
      cases record with
      | whileLoop _ parts _ _ record first second => exact ⟨parts, record, test, body, rfl, first, second⟩

theorem do_while_loop_exact (s : Statement) :
    v.node.doWhileLoopRecord = .ok s ↔ ∃ body test, s = .doWhileLoop body test ∧ StatementRecord v s := by
  unfold Node.doWhileLoopRecord
  refine (record_ok_iff v _ ["body", "test"] _ _ (fun parts => ∃ body test, s = .doWhileLoop body test ∧
    Needed StatementShape (parts "body") body ∧ Needed ExpressionShape (parts "test") test) s ?_ ?_).trans ?_
  · rintro members rfl
    simp only [Node.doWhileLoop, ok_bind_iff, required_ok_iff, field_ok_iff members _ (statements_agree below),
      field_ok_iff members _ (expressions_agree below), pure_ok_iff]
    constructor
    · rintro ⟨_, first, _, second, body, rfl, test, rfl, rfl⟩
      exact ⟨body, test, rfl, first, second⟩
    · rintro ⟨body, test, rfl, first, second⟩
      exact ⟨some body, first, some test, second, body, rfl, test, rfl, rfl⟩
  · rintro items rfl
    simp only [ok_bind_iff, item_ok_iff items _ _ _ (statements_agree below),
      item_ok_iff items _ _ _ (expressions_agree below), no_more_items_ok_iff, pure_ok_iff]
    grind
  · constructor
    · rintro ⟨parts, record, body, test, rfl, first, second⟩
      exact ⟨body, test, rfl, .doWhileLoop v parts body test record first second⟩
    · rintro ⟨body, test, rfl, record⟩
      cases record with
      | doWhileLoop _ parts _ _ record first second => exact ⟨parts, record, body, test, rfl, first, second⟩

theorem for_loop_exact (s : Statement) :
    v.node.forLoopRecord = .ok s ↔ ∃ init test update body, s = .forLoop init test update body ∧
      StatementRecord v s := by
  unfold Node.forLoopRecord
  refine (record_ok_iff v _ ["init", "test", "update", "body"] _ _ (fun parts => ∃ init test update body,
    s = .forLoop init test update body ∧ Optional ForInitShape (parts "init") init ∧
    Optional ExpressionShape (parts "test") test ∧ Optional ExpressionShape (parts "update") update ∧
    Needed StatementShape (parts "body") body) s ?_ ?_).trans ?_
  · rintro members rfl
    simp only [Node.forLoop, ok_bind_iff, required_ok_iff, field_ok_iff members _ (statements_agree below),
      optional_field_ok_iff members _ (for_inits_agree below),
      optional_field_ok_iff members _ (expressions_agree below), pure_ok_iff]
    constructor
    · rintro ⟨_, fourth, init, first, test, second, update, third, body, rfl, rfl⟩
      exact ⟨init, test, update, body, rfl, first, second, third, fourth⟩
    · rintro ⟨init, test, update, body, rfl, first, second, third, fourth⟩
      exact ⟨some body, fourth, init, first, test, second, update, third, body, rfl, rfl⟩
  · rintro items rfl
    simp only [ok_bind_iff, optional_item_ok_iff items _ _ _ (for_inits_agree below),
      optional_item_ok_iff items _ _ _ (expressions_agree below),
      item_ok_iff items _ _ _ (statements_agree below), no_more_items_ok_iff, pure_ok_iff]
    grind
  · constructor
    · rintro ⟨parts, record, init, test, update, body, rfl, first, second, third, fourth⟩
      exact ⟨init, test, update, body, rfl, .forLoop v parts init test update body record first second third fourth⟩
    · rintro ⟨init, test, update, body, rfl, record⟩
      cases record with
      | forLoop _ parts _ _ _ _ record first second third fourth =>
        exact ⟨parts, record, init, test, update, body, rfl, first, second, third, fourth⟩

theorem function_exact (s : Statement) :
    v.node.functionRecord = .ok s ↔ ∃ name params body, s = .function name params body ∧ StatementRecord v s := by
  unfold Node.functionRecord
  refine (record_ok_iff v _ ["name", "params", "body"] _ _ (fun parts => ∃ name params body,
    s = .function name params body ∧ Needed IdentifierShape (parts "name") name ∧
    Needed (Listed IdentifierShape) (parts "params") params ∧
    Needed BodyShape (parts "body") body) s ?_ ?_).trans ?_
  · rintro members rfl
    simp only [Node.function, ok_bind_iff, required_ok_iff, field_ok_iff members _ (blocks_agree below),
      field_ok_iff members _ (identifiers_agree below), field_ok_iff members _ (identifier_lists_agree below),
      pure_ok_iff]
    constructor
    · rintro ⟨_, third, _, first, _, second, name, rfl, params, rfl, body, rfl, rfl⟩
      exact ⟨name, params, body, rfl, first, second, third⟩
    · rintro ⟨name, params, body, rfl, first, second, third⟩
      exact ⟨some body, third, some name, first, some params, second, name, rfl, params, rfl, body, rfl, rfl⟩
  · rintro items rfl
    simp only [ok_bind_iff, item_ok_iff items _ _ _ (identifiers_agree below),
      item_ok_iff items _ _ _ (identifier_lists_agree below), item_ok_iff items _ _ _ (blocks_agree below),
      no_more_items_ok_iff, pure_ok_iff]
    grind
  · constructor
    · rintro ⟨parts, record, name, params, body, rfl, first, second, third⟩
      exact ⟨name, params, body, rfl, .function v parts name params body record first second third⟩
    · rintro ⟨name, params, body, rfl, record⟩
      cases record with
      | function _ parts _ _ _ record first second third =>
        exact ⟨parts, record, name, params, body, rfl, first, second, third⟩

theorem returning_exact (s : Statement) :
    v.node.returningRecord = .ok s ↔ ∃ argument, s = .returning argument ∧ StatementRecord v s := by
  unfold Node.returningRecord
  refine (record_ok_iff v _ ["argument"] _ _ (fun parts => ∃ argument, s = .returning argument ∧
    Optional ExpressionShape (parts "argument") argument) s ?_ ?_).trans ?_
  · rintro members rfl
    simp only [Node.returning, ok_bind_iff, optional_field_ok_iff members _ (expressions_agree below), pure_ok_iff]
    constructor
    · rintro ⟨argument, first, rfl⟩
      exact ⟨argument, rfl, first⟩
    · rintro ⟨argument, rfl, first⟩
      exact ⟨argument, first, rfl⟩
  · rintro items rfl
    simp only [ok_bind_iff, optional_item_ok_iff items _ _ _ (expressions_agree below), no_more_items_ok_iff,
      pure_ok_iff]
    grind
  · constructor
    · rintro ⟨parts, record, argument, rfl, first⟩
      exact ⟨argument, rfl, .returning v parts argument record first⟩
    · rintro ⟨argument, rfl, record⟩
      cases record with
      | returning _ parts _ record first => exact ⟨parts, record, argument, rfl, first⟩

theorem class_exact (s : Statement) :
    v.node.classDeclaration = .ok s ↔ ∃ id superClass body, s = .classDeclaration id superClass body ∧
      StatementRecord v s := by
  unfold Node.classDeclaration
  refine (record_ok_iff v _ ["id", "superClass", "body"] _ _ (fun parts => ∃ id superClass body,
    s = .classDeclaration id superClass body ∧ Needed IdentifierShape (parts "id") id ∧
    Optional IdentifierShape (parts "superClass") superClass ∧
    Needed BodyShape (parts "body") body) s ?_ ?_).trans ?_
  · rintro members rfl
    simp only [ok_bind_iff, required_ok_iff, field_ok_iff members _ (blocks_agree below),
      field_ok_iff members _ (identifiers_agree below), optional_field_ok_iff members _ (identifiers_agree below),
      pure_ok_iff]
    constructor
    · rintro ⟨_, third, _, first, superClass, second, id, rfl, body, rfl, rfl⟩
      exact ⟨id, superClass, body, rfl, first, second, third⟩
    · rintro ⟨id, superClass, body, rfl, first, second, third⟩
      exact ⟨some body, third, some id, first, superClass, second, id, rfl, body, rfl, rfl⟩
  · rintro items rfl
    simp only [ok_bind_iff, item_ok_iff items _ _ _ (identifiers_agree below),
      optional_item_ok_iff items _ _ _ (identifiers_agree below), item_ok_iff items _ _ _ (blocks_agree below),
      no_more_items_ok_iff, pure_ok_iff]
    grind
  · constructor
    · rintro ⟨parts, record, id, superClass, body, rfl, first, second, third⟩
      exact ⟨id, superClass, body, rfl, .classDeclaration v parts id superClass body record first second third⟩
    · rintro ⟨id, superClass, body, rfl, record⟩
      cases record with
      | classDeclaration _ parts _ _ _ record first second third =>
        exact ⟨parts, record, id, superClass, body, rfl, first, second, third⟩

-- An operator with two operands, whichever kind of operator it is.
theorem operation_exact {ω : Type} [Spelled ω] (name : String) (build : ω → Expression → Expression → Expression)
    (e : Expression) :
    v.node.operationRecord name build = .ok e ↔ ∃ parts, RecordParts ["operator", "left", "right"] v parts ∧
      ∃ operator left right, e = build operator left right ∧ Needed WordShape (parts "operator") operator ∧
        Needed ExpressionShape (parts "left") left ∧ Needed ExpressionShape (parts "right") right := by
  unfold Node.operationRecord
  refine record_ok_iff v _ ["operator", "left", "right"] _ _ (fun parts => ∃ operator left right,
    e = build operator left right ∧ Needed WordShape (parts "operator") operator ∧
    Needed ExpressionShape (parts "left") left ∧ Needed ExpressionShape (parts "right") right) e ?_ ?_
  · rintro members rfl
    simp only [Node.operation, ok_bind_iff, required_ok_iff, field_ok_iff members _ (words_agree _),
      field_ok_iff members _ (expressions_agree below), pure_ok_iff]
    constructor
    · rintro ⟨_, second, _, first, _, third, operator, rfl, left, rfl, right, rfl, rfl⟩
      exact ⟨operator, left, right, rfl, first, second, third⟩
    · rintro ⟨operator, left, right, rfl, first, second, third⟩
      exact ⟨some left, second, some operator, first, some right, third, operator, rfl, left, rfl, right, rfl, rfl⟩
  · rintro items rfl
    simp only [ok_bind_iff, item_ok_iff items _ _ _ (words_agree _),
      item_ok_iff items _ _ _ (expressions_agree below), no_more_items_ok_iff, pure_ok_iff]
    grind

theorem binary_exact (e : Expression) :
    v.node.operationRecord "BinaryExpression" .binary = .ok e ↔
      ∃ operator left right, e = .binary operator left right ∧ ExpressionRecord v e := by
  rw [operation_exact v below]
  constructor
  · rintro ⟨parts, record, operator, left, right, rfl, first, second, third⟩
    exact ⟨operator, left, right, rfl, .binary v parts operator left right record first second third⟩
  · rintro ⟨operator, left, right, rfl, record⟩
    cases record with
    | binary _ parts _ _ _ record first second third =>
      exact ⟨parts, record, operator, left, right, rfl, first, second, third⟩

theorem logical_exact (e : Expression) :
    v.node.operationRecord "LogicalExpression" .logical = .ok e ↔
      ∃ operator left right, e = .logical operator left right ∧ ExpressionRecord v e := by
  rw [operation_exact v below]
  constructor
  · rintro ⟨parts, record, operator, left, right, rfl, first, second, third⟩
    exact ⟨operator, left, right, rfl, .logical v parts operator left right record first second third⟩
  · rintro ⟨operator, left, right, rfl, record⟩
    cases record with
    | logical _ parts _ _ _ record first second third =>
      exact ⟨parts, record, operator, left, right, rfl, first, second, third⟩

omit below in
theorem part_of_record (names : List String) (parts : String → Option Json) (record : RecordParts names v parts)
    (name : String) (part : Json) (found : parts name = some part) : part.PartOf v := by
  cases record with
  | members members =>
      obtain ⟨m, member, rfl⟩ := last_of_mem name members part found
      exact .member members m member
  | items items => exact .item items part (List.mem_of_getElem? found)

omit below in
theorem member_of_exact (object : Expression) (property : Json) (computed : Bool) (place : Member)
    (reads : property.PartExact) :
    Node.memberOf object property.reading computed = .ok place ↔
      (computed = true ∧ ∃ e, ExpressionShape property e ∧ place = .computed object e) ∨
        computed = false ∧ property.HasKind "Identifier" ∧
          ∃ id, IdentifierShape property id ∧ place = .named object id := by
  unfold Node.memberOf
  cases computed with
  | true =>
      simp only [if_true, ok_bind_iff, reads.expression, pure_ok_iff, eq_comm (a := place)]
      simp
  | false =>
      rw [reading_value]
      simp only [Bool.false_eq_true, if_false, ok_bind_iff, kind_ok_iff, false_and, false_or, true_and]
      constructor
      · rintro ⟨kind, tagged, found⟩
        split at found
        · rename_i same
          obtain ⟨id, read, built⟩ := (ok_bind_iff _ _ _).mp found
          exact ⟨same ▸ tagged, id, (reads.identifier id).mp read, ((pure_ok_iff _ _).mp built).symm⟩
        · contradiction
      · rintro ⟨tagged, id, shape, rfl⟩
        refine ⟨"Identifier", tagged, ?_⟩
        rw [if_pos rfl, (reads.identifier id).mpr shape]
        rfl

theorem member_exact (place : Member) : v.node.member = .ok place ↔ MemberShape v place := by
  have properties : AgreesBelow v Except.ok fun part r => r = part.reading :=
    fun part _ r => by simp [eq_comm]
  unfold Node.member
  refine (record_ok_iff v _ ["object", "property", "computed"] _ _ (fun parts => ∃ object property computed,
    Node.memberOf object property computed = .ok place ∧ Needed ExpressionShape (parts "object") object ∧
    Needed (fun part r => r = part.reading) (parts "property") property ∧
    Needed BooleanShape (parts "computed") computed) place ?_ ?_).trans ?_
  · rintro members rfl
    simp only [ok_bind_iff, required_ok_iff, field_ok_iff members _ (expressions_agree below),
      field_ok_iff members _ (booleans_agree _), field_ok_iff members _ properties]
    constructor
    · rintro ⟨_, third, _, first, _, second, object, rfl, property, rfl, computed, rfl, built⟩
      exact ⟨object, property, computed, built, first, second, third⟩
    · rintro ⟨object, property, computed, built, first, second, third⟩
      exact ⟨some computed, third, some object, first, some property, second, object, rfl, property, rfl,
        computed, rfl, built⟩
  · rintro items rfl
    simp only [ok_bind_iff, item_ok_iff items _ _ _ (expressions_agree below),
      item_ok_iff items _ _ _ (booleans_agree _), item_ok_iff items _ _ _ properties, no_more_items_ok_iff]
    grind
  · constructor
    · rintro ⟨parts, record, object, _, computed, built, first, second, third⟩
      cases named : parts "property" with
      | none => exact absurd (named ▸ second) (not_needed_none _)
      | some property =>
          obtain rfl := (needed_some_iff property _).mp (named ▸ second)
          have inside := part_of_record v _ parts record "property" property named
          rcases (member_of_exact object property computed place (below property inside)).mp built with
            ⟨rfl, e, shape, rfl⟩ | ⟨rfl, tagged, id, shape, rfl⟩
          · exact .computed v parts object e record first (named ▸ .given property e shape) third
          · exact .named v parts object property id record first named tagged shape third
    · intro shape
      cases shape with
      | named _ parts object property id record first named tagged shape third =>
          have inside := part_of_record v _ parts record "property" property named
          refine ⟨parts, record, object, property.reading, false, ?_, first, named ▸ .given property _ rfl, third⟩
          exact (member_of_exact object property false _ (below property inside)).mpr
            (.inr ⟨rfl, tagged, id, shape, rfl⟩)
      | computed _ parts object e record first second third =>
          cases named : parts "property" with
          | none => exact absurd (named ▸ second) (not_needed_none _)
          | some property =>
              have shape := (needed_some_iff property e).mp (named ▸ second)
              have inside := part_of_record v _ parts record "property" property named
              refine ⟨parts, record, object, property.reading, true, ?_, first, named ▸ .given property _ rfl, third⟩
              exact (member_of_exact object property true _ (below property inside)).mpr
                (.inl ⟨rfl, e, shape, rfl⟩)

end Records

end ScriptFront
