import ScriptFront.Proofs.WholeNumbers
import ScriptFront.Tree.Reader

set_option autoImplicit false

/-! The numeric literals of a tree. The readers give trees in which all of them are finite. -/

namespace ScriptFront

def optionNumbers {α : Type} (numbers : α → List Binary64) : Option α → List Binary64
  | none => []
  | some a => numbers a

def Literal.numbers : Literal → List Binary64
  | .number value => [value]
  | _ => []

mutual
def Expression.numbers : Expression → List Binary64
  | .literal value => value.numbers
  | .new callee arguments => callee.numbers ++ expressionsNumbers arguments
  | .call callee arguments => callee.numbers ++ expressionsNumbers arguments
  | .member place => place.numbers
  | .assignment _ target value => target.numbers ++ value.numbers
  | .binary _ left right => left.numbers ++ right.numbers
  | .logical _ left right => left.numbers ++ right.numbers
  | .unary _ argument => argument.numbers
  | _ => []

def Member.numbers : Member → List Binary64
  | .named object _ => object.numbers
  | .computed object property => object.numbers ++ property.numbers

def Target.numbers : Target → List Binary64
  | .identifier _ => []
  | .member place => place.numbers

def expressionsNumbers : List Expression → List Binary64
  | [] => []
  | e :: rest => e.numbers ++ expressionsNumbers rest
end

def VariableDeclaration.numbers (declaration : VariableDeclaration) : List Binary64 :=
  optionNumbers Expression.numbers declaration.init

def ForInit.numbers : ForInit → List Binary64
  | .variables declarations => declarations.flatMap VariableDeclaration.numbers
  | .expression value => value.numbers

mutual
def Statement.numbers : Statement → List Binary64
  | .block body => statementsNumbers body
  | .empty => []
  | .expression value => value.numbers
  | .variables declarations => declarations.flatMap VariableDeclaration.numbers
  | .conditional test consequent none => test.numbers ++ consequent.numbers
  | .conditional test consequent (some alternate) =>
      test.numbers ++ consequent.numbers ++ alternate.numbers
  | .whileLoop test body => test.numbers ++ body.numbers
  | .doWhileLoop body test => body.numbers ++ test.numbers
  | .forLoop init test update body =>
      optionNumbers ForInit.numbers init ++ optionNumbers Expression.numbers test ++
        optionNumbers Expression.numbers update ++ body.numbers
  | .function _ _ body => statementsNumbers body
  | .returning argument => optionNumbers Expression.numbers argument
  | .classDeclaration _ _ body => statementsNumbers body

def statementsNumbers : List Statement → List Binary64
  | [] => []
  | s :: rest => s.numbers ++ statementsNumbers rest
end

def Program.numbers (program : Program) : List Binary64 :=
  statementsNumbers program.body

def AllFinite (numbers : List Binary64) : Prop :=
  ∀ x ∈ numbers, x.isFinite = true

@[simp] theorem all_finite_nil : AllFinite [] := by
  simp [AllFinite]

@[simp] theorem all_finite_one (x : Binary64) : AllFinite [x] ↔ x.isFinite = true := by
  simp [AllFinite]

@[simp] theorem all_finite_append (a b : List Binary64) :
    AllFinite (a ++ b) ↔ AllFinite a ∧ AllFinite b := by
  simp [AllFinite, or_imp, forall_and]

@[simp] theorem all_finite_flat_map {α : Type} (numbers : α → List Binary64) (list : List α) :
    AllFinite (list.flatMap numbers) ↔ ∀ a ∈ list, AllFinite (numbers a) := by
  simp only [AllFinite, List.mem_flatMap, forall_exists_index, and_imp]
  constructor
  · intro all a member x found
    exact all x a member found
  · intro all x a member found
    exact all a member x found

theorem all_finite_expressions (list : List Expression) :
    AllFinite (expressionsNumbers list) ↔ ∀ e ∈ list, AllFinite e.numbers := by
  induction list with
  | nil => simp [expressionsNumbers]
  | cons e rest ih => simp [expressionsNumbers, ih]

theorem all_finite_statements (list : List Statement) :
    AllFinite (statementsNumbers list) ↔ ∀ s ∈ list, AllFinite s.numbers := by
  induction list with
  | nil => simp [statementsNumbers]
  | cons s rest ih => simp [statementsNumbers, ih]

theorem all_finite_option {α : Type} (numbers : α → List Binary64) (o : Option α) :
    AllFinite (optionNumbers numbers o) ↔ ∀ a ∈ o, AllFinite (numbers a) := by
  cases o <;> simp [optionNumbers]

theorem all_finite_conditional (test : Expression) (consequent : Statement) (alternate : Option Statement) :
    AllFinite (Statement.conditional test consequent alternate).numbers ↔
      AllFinite test.numbers ∧ AllFinite consequent.numbers ∧ ∀ s ∈ alternate, AllFinite s.numbers := by
  cases alternate with
  | none => simp [Statement.numbers]
  | some s => simp [Statement.numbers]

theorem numbers_of_target (e : Expression) (place : Target) (found : e.target? = some place) :
    e.numbers = place.numbers := by
  rw [(target_eq_some_iff e place).mp found]
  cases place <;> rfl

-- If a reading gives something, that has a property.
def Gives {α : Type} (property : α → Prop) : Except Fault α → Prop
  | .ok a => property a
  | .error _ => True

section Gives

variable {α β : Type} {property : α → Prop} {property' : β → Prop}

theorem gives_bind (result : Except Fault α) (next : α → Except Fault β) (first : Gives property result)
    (later : ∀ a, property a → Gives property' (next a)) : Gives property' (result >>= next) := by
  cases result with
  | ok a => exact later a first
  | error fault => trivial

-- A part of which nothing is to be known.
theorem gives_any (result : Except Fault α) (next : α → Except Fault β)
    (later : ∀ a, Gives property' (next a)) : Gives property' (result >>= next) := by
  cases result with
  | ok a => exact later a
  | error fault => trivial

theorem gives_map (result : Except Fault α) (f : α → β)
    (first : Gives (fun a => property' (f a)) result) : Gives property' (result.map f) := by
  cases result with
  | ok a => exact first
  | error fault => trivial

theorem gives_map_some (result : Except Fault α) (first : Gives property result) :
    Gives (fun o => ∀ a ∈ o, property a) (result.map some) := by
  cases result with
  | ok a =>
      intro b same
      injection same with same
      exact same ▸ first
  | error fault => trivial

theorem gives_required (name : String) (o : Option α) (fits : ∀ a ∈ o, property a) :
    Gives property (required name o) := by
  cases o with
  | none => trivial
  | some a => exact fits a rfl

theorem gives_map_list (read : β → Except Fault α) (list : List β)
    (each : ∀ r ∈ list, Gives property (read r)) :
    Gives (fun found => ∀ a ∈ found, property a) (list.mapM read) := by
  induction list with
  | nil => exact fun a member => absurd member List.not_mem_nil
  | cons r rest ih =>
      rw [List.mapM_cons]
      apply gives_bind _ _ (each r (by simp))
      intro a fits
      apply gives_bind _ _ (ih fun r' member => each r' (by simp [member]))
      intro found all
      exact List.forall_mem_cons.mpr ⟨fits, all⟩

end Gives

-- What a value reads as has finite numbers only, whatever it is read as.
structure Reading.Finite (r : Reading) : Prop where
  statement : Gives (fun s => AllFinite s.numbers) r.statement
  expression : Gives (fun e => AllFinite e.numbers) r.expression
  forInit : Gives (fun init => AllFinite init.numbers) r.forInit
  target : Gives (fun place => AllFinite place.numbers) r.target
  declaration : Gives (fun declaration => AllFinite declaration.numbers) r.declaration
  block : Gives (fun body => ∀ s ∈ body, AllFinite s.numbers) r.block
  statements : Gives (fun body => ∀ s ∈ body, AllFinite s.numbers) r.statements
  expressions : Gives (fun list => ∀ e ∈ list, AllFinite e.numbers) r.expressions
  declarations : Gives (fun list => ∀ d ∈ list, AllFinite d.numbers) r.declarations

structure Node.Finite (n : Node) : Prop where
  items : ∀ r ∈ n.items, r.Finite
  members : ∀ m ∈ n.members, m.2.Finite

theorem last_of_mem {α : Type} (name : String) (members : List (String × α)) (a : α)
    (found : lastOf name members = some a) : ∃ m ∈ members, m.2 = a := by
  induction members with
  | nil => contradiction
  | cons m rest ih =>
      rw [lastOf] at found
      split at found
      · rename_i later same
        injection found with same'
        obtain ⟨m', member, value⟩ := ih (same' ▸ same)
        exact ⟨m', by simp [member], value⟩
      · split at found
        · injection found with same
          exact ⟨m, by simp, same⟩
        · contradiction

namespace Reading

variable {α : Type} {property : α → Prop}

theorem gives_optional (read : Reading → Except Fault α) (r : Reading) (each : Gives property (read r)) :
    Gives (fun o => ∀ a ∈ o, property a) (optional read r) := by
  unfold optional
  split
  · exact fun a member => by contradiction
  · exact gives_map_some _ each

end Reading

namespace Node

section Parts

variable {α : Type} {property : α → Prop} (n : Node) (finite : n.Finite)

theorem gives_record (name : String) (ofMembers ofItems : Except Fault α)
    (members : Gives property ofMembers) (items : Gives property ofItems) :
    Gives property (n.record name ofMembers ofItems) := by
  unfold record
  split
  · exact members
  · exact items
  · trivial

include finite

theorem gives_field (name : String) (read : Reading → Except Fault α)
    (each : ∀ r : Reading, r.Finite → Gives property (read r)) :
    Gives (fun o => ∀ a ∈ o, property a) (n.field? name read) := by
  unfold field?
  cases found : lastOf name n.members with
  | none => exact fun a member => by contradiction
  | some r =>
      obtain ⟨m, member, same⟩ := last_of_mem name n.members r found
      exact gives_map_some _ (each r (same ▸ finite.members m member))

theorem gives_optional_field (name : String) (read : Reading → Except Fault α)
    (each : ∀ r : Reading, r.Finite → Gives property (read r)) :
    Gives (fun o => ∀ a ∈ o, property a) (n.optionalField name read) := by
  have field := gives_field n finite name _ fun r part => Reading.gives_optional read r (each r part)
  unfold optionalField
  cases found : n.field? name (Reading.optional read) with
  | error fault => trivial
  | ok o =>
      rw [found] at field
      cases o with
      | none => exact fun a member => by contradiction
      | some o' => exact field o' rfl

theorem gives_item (record : String) (fields index : Nat) (read : Reading → Except Fault α)
    (each : ∀ r : Reading, r.Finite → Gives property (read r)) :
    Gives property (n.item record fields index read) := by
  unfold item
  cases found : n.items[index]? with
  | none => trivial
  | some r => exact each r (finite.items r (List.mem_of_getElem? found))

theorem gives_list (read : Reading → Except Fault α)
    (each : ∀ r : Reading, r.Finite → Gives property (read r)) :
    Gives (fun list => ∀ a ∈ list, property a) (n.list read) := by
  unfold list
  split
  · exact gives_map_list read n.items fun r member => each r (finite.items r member)
  · trivial

end Parts

variable (n : Node) (finite : n.Finite)

include finite

theorem finite_body (name : String) : Gives (fun body => ∀ s ∈ body, AllFinite s.numbers) (n.bodyOf name) := by
  apply gives_record
  · apply gives_bind _ _ (gives_field n finite "body" _ fun _ part => part.statements)
    intro body all
    exact gives_required _ body all
  · apply gives_bind _ _ (gives_item n finite name 1 0 _ fun _ part => part.statements)
    intro body all
    apply gives_any
    intro _
    exact all

theorem finite_declaration : Gives (fun d => AllFinite d.numbers) n.declaration := by
  apply gives_record
  · apply gives_any
    intro id
    apply gives_bind _ _ (gives_optional_field n finite "init" _ fun _ part => part.expression)
    intro init all
    apply gives_any
    intro id
    exact (all_finite_option _ _).mpr all
  · apply gives_any
    intro id
    apply gives_bind _ _ (gives_item n finite _ 2 1 _ fun r part => r.gives_optional _ part.expression)
    intro init all
    apply gives_any
    intro _
    exact (all_finite_option _ _).mpr all

theorem finite_variables : Gives (fun list => ∀ d ∈ list, AllFinite d.numbers) n.variableList := by
  apply gives_bind _ _ (gives_field n finite "declarations" _ fun _ part => part.declarations)
  intro list all
  exact gives_required _ list all

theorem finite_number_value : Gives (fun x => x.isFinite = true) (n.literalValue Reading.number) := by
  have number : ∀ r : Reading, r.Finite → Gives (fun x => x.isFinite = true) r.number := by
    intro r _
    cases read : r.number with
    | ok x => exact Json.as_number_finite r.value x read
    | error fault => trivial
  apply gives_bind _ _ (gives_field n finite "value" _ number)
  intro o all
  exact gives_required _ o all

theorem finite_literal : Gives (fun l => AllFinite l.numbers) n.literal := by
  apply gives_any
  intro kind
  split
  · apply gives_bind _ _ (finite_number_value n finite)
    intro x finite
    exact (all_finite_one x).mpr finite
  · apply gives_any
    intro text
    exact all_finite_nil
  · apply gives_any
    intro value
    exact all_finite_nil
  · exact all_finite_nil
  · trivial

omit finite in
theorem finite_member_of (object : Expression) (property : Reading) (computed : Bool)
    (first : AllFinite object.numbers) (second : Gives (fun e => AllFinite e.numbers) property.expression) :
    Gives (fun m => AllFinite m.numbers) (memberOf object property computed) := by
  unfold memberOf
  split
  · apply gives_bind _ _ second
    intro e finite
    exact (all_finite_append _ _).mpr ⟨first, finite⟩
  · apply gives_any
    intro kind
    split
    · apply gives_any
      intro id
      exact first
    · trivial

theorem finite_member : Gives (fun m => AllFinite m.numbers) n.member := by
  have same : ∀ r : Reading, r.Finite → Gives Reading.Finite (Except.ok r) := fun r part => part
  apply gives_record
  · apply gives_any
    intro computed
    apply gives_bind _ _ (gives_field n finite "object" _ fun _ part => part.expression)
    intro object objectFinite
    apply gives_bind _ _ (gives_field n finite "property" _ same)
    intro property propertyFinite
    apply gives_bind _ _ (gives_required _ object objectFinite)
    intro object first
    apply gives_bind _ _ (gives_required _ property propertyFinite)
    intro property second
    apply gives_any
    intro computed
    exact finite_member_of object property computed first second.expression
  · apply gives_bind _ _ (gives_item n finite _ 3 0 _ fun _ part => part.expression)
    intro object first
    apply gives_bind _ _ (gives_item n finite _ 3 1 _ same)
    intro property second
    apply gives_any
    intro computed
    apply gives_any
    intro _
    exact finite_member_of object property computed first second.expression

theorem finite_application :
    Gives (fun found => AllFinite found.1.numbers ∧ ∀ e ∈ found.2, AllFinite e.numbers) n.application := by
  apply gives_bind _ _ (gives_field n finite "arguments" _ fun _ part => part.expressions)
  intro arguments second
  apply gives_bind _ _ (gives_field n finite "callee" _ fun _ part => part.expression)
  intro callee first
  apply gives_bind _ _ (gives_required _ callee first)
  intro callee first
  apply gives_bind _ _ (gives_required _ arguments second)
  intro arguments second
  exact ⟨first, second⟩

theorem finite_assignment : Gives (fun e => AllFinite e.numbers) n.assignment := by
  apply gives_bind _ _ (gives_field n finite "left" _ fun _ part => part.target)
  intro left first
  apply gives_any
  intro operator
  apply gives_bind _ _ (gives_field n finite "right" _ fun _ part => part.expression)
  intro right second
  apply gives_any
  intro operator
  apply gives_bind _ _ (gives_required _ left first)
  intro left first
  apply gives_bind _ _ (gives_required _ right second)
  intro right second
  exact (all_finite_append _ _).mpr ⟨first, second⟩

theorem finite_operation {ω : Type} [Spelled ω] (build : ω → Expression → Expression → Expression)
    (builds : ∀ operator left right, (build operator left right).numbers = left.numbers ++ right.numbers) :
    Gives (fun e => AllFinite e.numbers) (n.operation build) := by
  apply gives_bind _ _ (gives_field n finite "left" _ fun _ part => part.expression)
  intro left first
  apply gives_any
  intro operator
  apply gives_bind _ _ (gives_field n finite "right" _ fun _ part => part.expression)
  intro right second
  apply gives_any
  intro operator
  apply gives_bind _ _ (gives_required _ left first)
  intro left first
  apply gives_bind _ _ (gives_required _ right second)
  intro right second
  change AllFinite (build operator left right).numbers
  rw [builds]
  exact (all_finite_append _ _).mpr ⟨first, second⟩

theorem finite_unary : Gives (fun e => AllFinite e.numbers) n.unary := by
  apply gives_bind _ _ (gives_field n finite "argument" _ fun _ part => part.expression)
  intro argument first
  apply gives_any
  intro operator
  apply gives_any
  intro operator
  apply gives_bind _ _ (gives_required _ argument first)
  intro argument first
  exact first

theorem finite_expression : Gives (fun e => AllFinite e.numbers) n.expression := by
  have literal : Gives (fun e => AllFinite e.numbers) (do return Expression.literal (← n.literal)) := by
    apply gives_bind _ _ (finite_literal n finite)
    intro value all
    exact all
  apply gives_any
  intro kind
  split
  · apply gives_any
    intro id
    exact all_finite_nil
  · exact literal
  · exact literal
  · exact literal
  · exact literal
  · exact all_finite_nil
  · exact all_finite_nil
  · apply gives_bind _ _ (finite_application n finite)
    intro found all
    exact (all_finite_append _ _).mpr ⟨all.1, (all_finite_expressions _).mpr all.2⟩
  · apply gives_bind _ _ (finite_application n finite)
    intro found all
    exact (all_finite_append _ _).mpr ⟨all.1, (all_finite_expressions _).mpr all.2⟩
  · apply gives_bind _ _ (finite_member n finite)
    intro place all
    exact all
  · exact finite_assignment n finite
  · exact finite_operation n finite _ fun _ _ _ => rfl
  · exact finite_operation n finite _ fun _ _ _ => rfl
  · exact finite_unary n finite
  · trivial

theorem finite_target : Gives (fun place => AllFinite place.numbers) n.target := by
  apply gives_bind _ _ (finite_expression n finite)
  intro e all
  split
  · rename_i place found
    rw [numbers_of_target e place found] at all
    exact all
  · trivial

theorem finite_for_init : Gives (fun init => AllFinite init.numbers) n.forInit := by
  apply gives_any
  intro kind
  split
  · apply gives_bind _ _ (finite_variables n finite)
    intro list all
    exact (all_finite_flat_map _ _).mpr all
  · apply gives_bind _ _ (finite_expression n finite)
    intro e all
    exact all

theorem finite_conditional : Gives (fun s => AllFinite s.numbers) n.conditional := by
  apply gives_bind _ _ (gives_optional_field n finite "alternate" _ fun _ part => part.statement)
  intro alternate third
  apply gives_bind _ _ (gives_field n finite "consequent" _ fun _ part => part.statement)
  intro consequent second
  apply gives_bind _ _ (gives_field n finite "test" _ fun _ part => part.expression)
  intro test first
  apply gives_bind _ _ (gives_required _ test first)
  intro test first
  apply gives_bind _ _ (gives_required _ consequent second)
  intro consequent second
  exact (all_finite_conditional test consequent alternate).mpr ⟨first, second, third⟩

theorem finite_while_loop : Gives (fun s => AllFinite s.numbers) n.whileLoop := by
  apply gives_bind _ _ (gives_field n finite "body" _ fun _ part => part.statement)
  intro body second
  apply gives_bind _ _ (gives_field n finite "test" _ fun _ part => part.expression)
  intro test first
  apply gives_bind _ _ (gives_required _ test first)
  intro test first
  apply gives_bind _ _ (gives_required _ body second)
  intro body second
  exact (all_finite_append _ _).mpr ⟨first, second⟩

theorem finite_do_while_loop : Gives (fun s => AllFinite s.numbers) n.doWhileLoop := by
  apply gives_bind _ _ (gives_field n finite "body" _ fun _ part => part.statement)
  intro body first
  apply gives_bind _ _ (gives_field n finite "test" _ fun _ part => part.expression)
  intro test second
  apply gives_bind _ _ (gives_required _ body first)
  intro body first
  apply gives_bind _ _ (gives_required _ test second)
  intro test second
  exact (all_finite_append _ _).mpr ⟨first, second⟩

theorem finite_for_loop : Gives (fun s => AllFinite s.numbers) n.forLoop := by
  apply gives_bind _ _ (gives_field n finite "body" _ fun _ part => part.statement)
  intro body last
  apply gives_bind _ _ (gives_optional_field n finite "init" _ fun _ part => part.forInit)
  intro init first
  apply gives_bind _ _ (gives_optional_field n finite "test" _ fun _ part => part.expression)
  intro test second
  apply gives_bind _ _ (gives_optional_field n finite "update" _ fun _ part => part.expression)
  intro update third
  apply gives_bind _ _ (gives_required _ body last)
  intro body last
  change AllFinite (_ ++ _ ++ _ ++ _)
  rw [all_finite_append, all_finite_append, all_finite_append, all_finite_option, all_finite_option,
    all_finite_option]
  exact ⟨⟨⟨first, second⟩, third⟩, last⟩

theorem finite_function : Gives (fun s => AllFinite s.numbers) n.function := by
  apply gives_bind _ _ (gives_field n finite "body" _ fun _ part => part.block)
  intro body all
  apply gives_any
  intro name
  apply gives_any
  intro params
  apply gives_any
  intro name
  apply gives_any
  intro params
  apply gives_bind _ _ (gives_required _ body all)
  intro body all
  exact (all_finite_statements body).mpr all

theorem finite_class_declaration : Gives (fun s => AllFinite s.numbers) n.classDeclaration := by
  apply gives_record
  · apply gives_bind _ _ (gives_field n finite "body" _ fun _ part => part.block)
    intro body all
    apply gives_any
    intro id
    apply gives_any
    intro superClass
    apply gives_any
    intro id
    apply gives_bind _ _ (gives_required _ body all)
    intro body all
    exact (all_finite_statements body).mpr all
  · apply gives_any
    intro id
    apply gives_any
    intro superClass
    apply gives_bind _ _ (gives_item n finite _ 3 2 _ fun _ part => part.block)
    intro body all
    apply gives_any
    intro _
    exact (all_finite_statements body).mpr all

theorem finite_expression_statement : Gives (fun s => AllFinite s.numbers) n.expressionStatement := by
  apply gives_bind _ _ (gives_field n finite "expression" _ fun _ part => part.expression)
  intro value all
  apply gives_bind _ _ (gives_required _ value all)
  intro value all
  exact all

theorem finite_returning : Gives (fun s => AllFinite s.numbers) n.returning := by
  apply gives_bind _ _ (gives_optional_field n finite "argument" _ fun _ part => part.expression)
  intro argument all
  exact (all_finite_option _ _).mpr all

theorem finite_statement : Gives (fun s => AllFinite s.numbers) n.statement := by
  apply gives_any
  intro kind
  split
  · apply gives_bind _ _ (finite_body n finite _)
    intro body all
    exact (all_finite_statements body).mpr all
  · exact all_finite_nil
  · exact finite_expression_statement n finite
  · apply gives_bind _ _ (finite_variables n finite)
    intro list all
    exact (all_finite_flat_map _ _).mpr all
  · exact finite_conditional n finite
  · exact finite_while_loop n finite
  · exact finite_do_while_loop n finite
  · exact finite_for_loop n finite
  · exact finite_function n finite
  · exact finite_returning n finite
  · exact finite_class_declaration n finite
  · trivial

theorem finite_reading : n.reading.Finite where
  statement := finite_statement n finite
  expression := finite_expression n finite
  forInit := finite_for_init n finite
  target := finite_target n finite
  declaration := finite_declaration n finite
  block := finite_body n finite _
  statements := gives_list n finite _ fun _ part => part.statement
  expressions := gives_list n finite _ fun _ part => part.expression
  declarations := gives_list n finite _ fun _ part => part.declaration

end Node

mutual
theorem reading_finite (v : Json) : v.reading.Finite := by
  cases v with
  | array items => exact Node.finite_reading _ ⟨readings_finite items, by simp⟩
  | object members => exact Node.finite_reading _ ⟨by simp, member_readings_finite members⟩
  | _ => exact Node.finite_reading _ ⟨by simp, by simp⟩

theorem readings_finite (items : List Json) : ∀ r ∈ readings items, r.Finite := by
  cases items with
  | nil => simp [readings]
  | cons item rest =>
      rw [readings, List.forall_mem_cons]
      exact ⟨reading_finite item, readings_finite rest⟩

theorem member_readings_finite (members : List (String × Json)) :
    ∀ m ∈ memberReadings members, m.2.Finite := by
  cases members with
  | nil => simp [memberReadings]
  | cons m rest =>
      rw [memberReadings, List.forall_mem_cons]
      exact ⟨reading_finite m.2, member_readings_finite rest⟩
end

theorem node_finite (v : Json) : v.node.Finite := by
  cases v with
  | array items => exact ⟨readings_finite items, by simp [Json.node]⟩
  | object members => exact ⟨by simp [Json.node], member_readings_finite members⟩
  | _ => exact ⟨by simp [Json.node], by simp [Json.node]⟩

end ScriptFront
