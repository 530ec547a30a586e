import ScriptFront.Proofs.TreeRoundTrip

set_option autoImplicit false

/-! The JSON forms of trees: reading undoes writing, and writing keeps what was read. -/

namespace ScriptFront

-- The JSON form of a sort of trees. It covers the trees that it can write.
structure TreeFormat (α : Type) where
  write : α → Json
  read : Json → Except Fault α
  same : α → α → Bool
  numbers : α → List Binary64
  covers : α → Prop := fun _ => True

namespace TreeFormat

variable {α : Type} (format : TreeFormat α)

-- Every tree with finite numbers is read back from what is written, and every tree that is read has
-- finite numbers, so it is read back, too. Numbers are compared by value.
def RoundTrips : Prop :=
  (∀ a, format.covers a → AllFinite (format.numbers a) →
    ReadsAs format.same (format.read (format.write a)) a) ∧
  ∀ v a, format.read v = .ok a → format.covers a ∧ AllFinite (format.numbers a) ∧
    ReadsAs format.same (format.read (format.write a)) a

theorem round_trips_of_finite
    (written : ∀ a, format.covers a → AllFinite (format.numbers a) →
      ReadsAs format.same (format.read (format.write a)) a)
    (finite : ∀ v, Gives (fun a => format.covers a ∧ AllFinite (format.numbers a)) (format.read v)) :
    format.RoundTrips := by
  refine ⟨written, fun v a read => ?_⟩
  have known := finite v
  rw [read] at known
  exact ⟨known.1, known.2, written a known.1 known.2⟩

theorem round_trips_of_all (all : ∀ a, format.covers a)
    (written : ∀ a, AllFinite (format.numbers a) → ReadsAs format.same (format.read (format.write a)) a)
    (finite : ∀ v, Gives (fun a => AllFinite (format.numbers a)) (format.read v)) : format.RoundTrips := by
  apply round_trips_of_finite
  · intro a _
    exact written a
  · intro v
    have known := finite v
    cases read : format.read v with
    | ok a =>
        rw [read] at known
        exact ⟨all a, known⟩
    | error fault => trivial

end TreeFormat

theorem gives_both {α : Type} (first second : α → Prop) (result : Except Fault α)
    (one : Gives first result) (two : Gives second result) : Gives (fun a => first a ∧ second a) result := by
  cases result with
  | ok a => exact ⟨one, two⟩
  | error fault => trivial

def Literal.format : TreeFormat Literal where
  write := Literal.toJson
  read v := v.node.literal
  same := Literal.same
  numbers := Literal.numbers

def Expression.format : TreeFormat Expression where
  write := Expression.toJson
  read v := v.node.expression
  same := Expression.same
  numbers := Expression.numbers

def Member.format : TreeFormat Member where
  write := Member.toJson
  read v := v.node.member
  same := Member.same
  numbers := Member.numbers

def Target.format : TreeFormat Target where
  write := Target.toJson
  read v := v.node.target
  same := Target.same
  numbers := Target.numbers

def VariableDeclaration.format : TreeFormat VariableDeclaration where
  write := VariableDeclaration.toJson
  read v := v.node.declaration
  same := VariableDeclaration.same
  numbers := VariableDeclaration.numbers

def ForInit.format : TreeFormat ForInit where
  write := ForInit.toJson
  read v := v.node.forInit
  same := ForInit.same
  numbers := ForInit.numbers

def Statement.format : TreeFormat Statement where
  write := Statement.toJson
  read v := v.node.statement
  same := Statement.same
  numbers := Statement.numbers

namespace Statement

-- The statements of a block.
def blockFormat : TreeFormat (List Statement) where
  write body := (Statement.block body).toJson
  read v := v.node.block
  same := sameStatements
  numbers := statementsNumbers

def isClass : Statement → Bool
  | .classDeclaration _ _ _ => true
  | _ => false

def classFormat : TreeFormat Statement where
  write := Statement.toJson
  read v := v.node.classDeclaration
  same := Statement.same
  numbers := Statement.numbers
  covers s := s.isClass = true

end Statement

def Program.format : TreeFormat Program where
  write := Program.toJson
  read v := v.node.program
  same := Program.same
  numbers := Program.numbers

theorem literal_format_round_trips : Literal.format.RoundTrips := by
  apply TreeFormat.round_trips_of_all _ fun _ => trivial
  · intro l finite
    exact literal_written l finite
  · intro v
    exact Node.finite_literal v.node (node_finite v)

theorem expression_format_round_trips : Expression.format.RoundTrips := by
  apply TreeFormat.round_trips_of_all _ fun _ => trivial
  · intro e finite
    have written := expression_written e finite
    rw [reading_eq] at written
    exact written
  · intro v
    exact Node.finite_expression v.node (node_finite v)

theorem member_format_round_trips : Member.format.RoundTrips := by
  apply TreeFormat.round_trips_of_all _ fun _ => trivial
  · intro place finite
    exact member_written place finite
  · intro v
    exact Node.finite_member v.node (node_finite v)

theorem target_format_round_trips : Target.format.RoundTrips := by
  apply TreeFormat.round_trips_of_all _ fun _ => trivial
  · intro place finite
    have written := target_written place finite
    rw [reading_eq] at written
    exact written
  · intro v
    exact Node.finite_target v.node (node_finite v)

theorem declaration_format_round_trips : VariableDeclaration.format.RoundTrips := by
  apply TreeFormat.round_trips_of_all _ fun _ => trivial
  · intro declaration finite
    have written := declaration_written declaration finite
    rw [reading_eq] at written
    exact written
  · intro v
    exact Node.finite_declaration v.node (node_finite v)

theorem for_init_format_round_trips : ForInit.format.RoundTrips := by
  apply TreeFormat.round_trips_of_all _ fun _ => trivial
  · intro init finite
    have written := for_init_written init finite
    rw [reading_eq] at written
    exact written
  · intro v
    exact Node.finite_for_init v.node (node_finite v)

theorem statement_format_round_trips : Statement.format.RoundTrips := by
  apply TreeFormat.round_trips_of_all _ fun _ => trivial
  · intro s finite
    have written := statement_written s finite
    rw [reading_eq] at written
    exact written
  · intro v
    exact Node.finite_statement v.node (node_finite v)

theorem finite_statements (n : Node) (name : String) (finite : n.Finite) :
    Gives (fun body => AllFinite (statementsNumbers body)) (n.bodyOf name) := by
  have body := Node.finite_body n finite name
  cases found : n.bodyOf name with
  | ok list =>
      rw [found] at body
      exact (all_finite_statements list).mpr body
  | error fault => trivial

theorem block_format_round_trips : Statement.blockFormat.RoundTrips := by
  apply TreeFormat.round_trips_of_all _ fun _ => trivial
  · intro body finite
    obtain ⟨body', read, same⟩ := statements_list_written body
      (statements_written body ((all_finite_statements body).mp finite))
    exact ⟨body', body_written "BlockStatement" "BlockStatement" _ body' read, same⟩
  · intro v
    exact finite_statements v.node _ (node_finite v)

theorem class_format_round_trips : Statement.classFormat.RoundTrips := by
  apply TreeFormat.round_trips_of_finite
  · intro s isClass finite
    match s, isClass with
    | .classDeclaration id superClass body, _ =>
        obtain ⟨body', read, same⟩ := statements_list_written body
          (statements_written body ((all_finite_statements body).mp finite))
        refine ⟨.classDeclaration id superClass body', class_json_written id superClass _ body' read, ?_⟩
        change Statement.same (.classDeclaration id superClass body') _ = true
        simp [Statement.same, same]
  · intro v
    apply gives_both _ _ _ _ (Node.finite_class_declaration v.node (node_finite v))
    apply Node.gives_record
    · repeat (apply gives_any; intro _)
      rfl
    · repeat (apply gives_any; intro _)
      rfl

theorem program_format_round_trips : Program.format.RoundTrips := by
  apply TreeFormat.round_trips_of_all _ fun _ => trivial
  · intro p finite
    obtain ⟨body', read, same⟩ := statements_list_written p.body
      (statements_written p.body ((all_finite_statements p.body).mp finite))
    refine ⟨⟨body'⟩, ?_, same⟩
    exact congrArg (Except.map Program.mk) (body_written "Program" "Program" _ body' read)
  · intro v
    apply gives_map
    exact finite_statements v.node _ (node_finite v)

-- All JSON forms of trees.
theorem tree_formats_round_trip :
    Program.format.RoundTrips ∧ Statement.format.RoundTrips ∧ Expression.format.RoundTrips ∧
      Literal.format.RoundTrips ∧ ForInit.format.RoundTrips ∧ Member.format.RoundTrips ∧
      Target.format.RoundTrips ∧ Statement.blockFormat.RoundTrips ∧ VariableDeclaration.format.RoundTrips ∧
      Statement.classFormat.RoundTrips :=
  ⟨program_format_round_trips, statement_format_round_trips, expression_format_round_trips,
    literal_format_round_trips, for_init_format_round_trips, member_format_round_trips,
    target_format_round_trips, block_format_round_trips, declaration_format_round_trips,
    class_format_round_trips⟩

end ScriptFront
