import ScriptFront.Proofs.NestingBound

set_option autoImplicit false

/-! Chains of steps to the left, which are parsed whatever their length is. -/

namespace ScriptFront

open Parse Grammar

-- A step to the left: the node around an expression.
inductive Link where
  | binary (operator : BinaryOperator)
  | logical (operator : LogicalOperator)
  | member
  | computedMember
  | call

namespace Link

-- What a chain begins with, and the other part of each node.
def name : Identifier :=
  ⟨"a"⟩

def build : Link → Expression → Expression
  | .binary operator, e => .binary operator e (.identifier name)
  | .logical operator, e => .logical operator e (.identifier name)
  | .member, e => .member (.named e name)
  | .computedMember, e => .member (.computed e (.identifier name))
  | .call, e => .call e []

-- The tokens that stand behind the expression.
def tokens : Link → List Token
  | .binary operator => [operator.rung.kind.written (Spelled.spelling operator), name.token]
  | .logical operator => [operator.rung.kind.written (Spelled.spelling operator), name.token]
  | .member => [Mark.dot.token, name.token]
  | .computedMember => [Mark.leftBracket.token, name.token, Mark.rightBracket.token]
  | .call => [Mark.leftParen.token, Mark.rightParen.token]

variable (link : Link) (count : Nat)

def chain : Expression :=
  link.build^[count] (.identifier name)

def program : Program :=
  ⟨[.expression (link.chain count)]⟩

def chainTokens : List Token :=
  name.token :: (List.replicate count link.tokens).flatten

def programTokens : List Token :=
  link.chainTokens count ++ [Mark.semicolon.token]

def text : String :=
  " ".intercalate ((link.programTokens count).map Token.text)

theorem build_depth (e : Expression) : e.depth 1 1 + 1 ≤ (link.build e).depth 1 1 := by
  cases link <;> simp only [build, Expression.depth, Member.depth] <;> omega

theorem build_encoded_height (e : Expression) : e.encoded.height + 1 ≤ (link.build e).encoded.height := by
  cases link <;>
    simp only [build, Expression.encoded, Member.encoded, SExpr.height_form, SExpr.itemsHeight] <;> omega

-- What each link adds to comes to at least the length of a chain.
theorem length_le_chain (measure : Expression → Nat) (grows : ∀ e, measure e + 1 ≤ measure (link.build e)) :
    count ≤ measure (link.chain count) := by
  induction count with
  | zero => exact Nat.zero_le _
  | succ count ih =>
      rw [chain, Function.iterate_succ_apply']
      exact (Nat.succ_le_succ ih).trans (grows (link.chain count))

theorem name_spelled : name.token.wellSpelled = true := by
  decide

theorem tokens_spelled : WellSpelled link.tokens := by
  cases link <;> simp [tokens, name_spelled]

theorem program_tokens_spelled : WellSpelled (link.programTokens count) := by
  have later : WellSpelled (List.replicate count link.tokens).flatten := by
    intro t member
    obtain ⟨u, among, inside⟩ := List.mem_flatten.mp member
    exact link.tokens_spelled t (List.eq_of_mem_replicate among ▸ inside)
  simp [programTokens, chainTokens, name_spelled, later]

end Link

variable {σ : Type} [TokenSource σ] {deep : Prop} {limit : Nat}

-- What holds where a group of tokens comes and holds at the end holds before any number of such groups.
theorem ends_at_group (group : List Token) (follows : List Token → Prop) (again : ∀ rest, follows (group ++ rest))
    (rest : List Token) (ends : follows rest) (count : Nat) :
    follows ((List.replicate count group).flatten ++ rest) := by
  cases count with
  | zero => exact ends
  | succ count =>
      rw [List.replicate_succ, List.flatten_cons, List.append_assoc]
      exact again _

-- A loop takes equal groups of tokens, in one step each, up to what it does not go on with.
theorem takes_steps {α : Type} {goesOn : Option TokenKind → Bool} {step : α → Parse σ α}
    (atEnd : goesOn none = false) (lowers : ∀ a, Lowers (step a)) (group : List Token) (build : α → α)
    (follows : List Token → Prop) (again : ∀ rest, follows (group ++ rest))
    (goes : ∀ rest, goesOn (kindAhead (group ++ rest)) = true)
    (taken : ∀ a rest, follows rest →
      TakesUnless deep limit (step a) (group ++ rest) (leaving rest (· = build a)))
    (rest : List Token) (ends : follows rest) (stops : goesOn (kindAhead rest) = false) (count : Nat) (a : α) :
    TakesUnless deep limit (repeatWhile goesOn step a) ((List.replicate count group).flatten ++ rest)
      (leaving rest (· = build^[count] a)) := by
  induction count generalizing a with
  | zero => exact takes_loop_end stops ⟨rfl, rfl⟩
  | succ count ih =>
      rw [List.replicate_succ, List.flatten_cons, List.append_assoc]
      apply takes_loop_step atEnd lowers (goes _)
      apply takes_then (taken a _ (ends_at_group group follows again rest ends count))
      rintro _ rfl
      exact ih (build a)

section Links

variable {levels : Nat} {rest : List Token}

theorem takes_name (inner : Nested σ Program.actions) :
    TakesUnless deep limit (primary Program.actions inner) (Link.name.token :: rest)
      (leaving rest (· = .identifier Link.name)) := by
  apply takes_look
  rw [kind_ahead_cons]
  apply takes_assoc
  apply takes_expect rfl
  apply takes_pure_bind
  exact takes_pure ⟨rfl, rfl⟩

theorem takes_name_operand (inner : Nested σ Program.actions) (stops : continuesOperand (kindAhead rest) = false) :
    TakesUnless deep limit (unary Program.actions inner) (Link.name.token :: rest)
      (leaving rest (· = .identifier Link.name)) := by
  have members : startsMember (kindAhead rest) = false := (Bool.or_eq_false_iff.mp stops).1
  exact takes_member_alone .identifier rfl rfl stops (takes_primary_alone members (takes_name inner))

-- No operand of a level of operators goes on with these tokens, and no tighter level does.
def EndsOperand (rung : Rung) (tokens : List Token) : Prop :=
  continuesOperand (kindAhead tokens) = false ∧
    ∀ rung' : Rung, rung.height < rung'.height → kindAhead tokens ≠ some rung'.kind

theorem takes_name_level (inner : Nested σ Program.actions) (rung : Rung) (ends : EndsOperand rung rest) :
    TakesUnless deep limit (level inner rung.tighter) (Link.name.token :: rest)
      (leaving rest (· = .identifier Link.name)) :=
  takes_tighter_alone rung ends.2 (takes_name_operand inner ends.1)

variable (stops : continuesExpression (kindAhead rest) = false)

include stops

theorem takes_operators_chained (rung : Rung) (text : String) (build : Expression → Expression → Expression)
    (built : rung.build? Program.actions text = some build) (count : Nat) :
    TakesUnless deep limit (assignment Program.actions (trees σ limit levels))
      (Link.name.token :: ((List.replicate count [rung.kind.written text, Link.name.token]).flatten ++ rest))
      (leaving rest (· = (fun left => build left (.identifier Link.name))^[count] (.identifier Link.name))) := by
  have apart (rung : Rung) := rung_not_ahead rung _ stops
  have sound : (trees σ limit levels).Sound := nested_sound limit levels
  obtain ⟨ω, _, make, builds, same⟩ := level_eq (trees σ limit levels) rung
  rw [builds] at built
  obtain ⟨known, spelled, rfl⟩ := Option.map_eq_some_iff.mp built
  have again (rest : List Token) : EndsOperand rung ([rung.kind.written text, Link.name.token] ++ rest) :=
    ⟨continues_operand_rung rung, tighter_not_ahead rung text _⟩
  have ends : EndsOperand rung rest := ⟨operand_stops _ stops, fun rung' _ => apart rung'⟩
  apply takes_logical_alone stops
  apply takes_looser_alone rung apart
  rw [same]
  apply takes_then (takes_name_level _ rung (ends_at_group _ _ again rest ends count))
  rintro _ rfl
  apply takes_steps (by simp) (lowers_operator_step rung.kind make (yields_level sound rung.tighter)) _ _
    (EndsOperand rung) again (fun _ => by simp) _ rest ends (by simpa using apart rung)
  intro left rest next
  apply takes_expect rfl
  apply takes_operator spelled
  apply takes_then (takes_name_level _ rung next)
  rintro _ rfl
  exact takes_pure ⟨rfl, rfl⟩

theorem takes_members_chained (group : List Token) (build : Expression → Expression)
    (goes : ∀ rest, startsMember (kindAhead (group ++ rest)) = true)
    (taken : ∀ object rest, TakesUnless deep limit (memberStep Program.actions (trees σ limit levels) object)
      (group ++ rest) (leaving rest (· = build object))) (count : Nat) :
    TakesUnless deep limit (assignment Program.actions (trees σ limit levels))
      (Link.name.token :: ((List.replicate count group).flatten ++ rest))
      (leaving rest (· = build^[count] (.identifier Link.name))) := by
  have sound : (trees σ limit levels).Sound := nested_sound limit levels
  have last := operand_stops _ stops
  have members : startsMember (kindAhead rest) = false := (Bool.or_eq_false_iff.mp last).1
  apply takes_unary_alone stops
  apply takes_member_alone .identifier rfl rfl last
  apply takes_then (takes_name _)
  rintro _ rfl
  exact takes_steps rfl (lowers_member_step sound) group build (fun _ => True) (fun _ => trivial) goes
    (fun object rest _ => taken object rest) rest trivial members count _

theorem takes_name_expression (level : Nat) :
    TakesUnless deep limit (trees σ limit (level + 1)).expression (Link.name.token :: rest)
      (leaving rest (· = .identifier Link.name)) :=
  takes_deeper (takes_unary_alone stops (takes_name_operand _ (operand_stops _ stops)))

theorem takes_calls_chained (count : Nat) :
    TakesUnless deep limit (assignment Program.actions (trees σ limit levels))
      (Link.name.token :: ((List.replicate count Link.call.tokens).flatten ++ rest))
      (leaving rest (· = Link.call.chain count)) := by
  have sound : (trees σ limit levels).Sound := nested_sound limit levels
  have last := operand_stops _ stops
  cases count with
  | zero => exact takes_unary_alone stops (takes_name_operand _ last)
  | succ count =>
      have called (callee : Expression) (rest : List Token) :
          TakesUnless deep limit (callStep Program.actions (trees σ limit levels) callee)
            (Link.call.tokens ++ rest) (leaving rest (· = Link.call.build callee)) := by
        have listed : TakesUnless deep limit (arguments Program.actions (trees σ limit levels))
            (Link.call.tokens ++ rest) (leaving rest (· = [])) := by
          apply takes_expect rfl
          apply takes_ahead
          apply takes_pure_bind
          apply takes_expect rfl
          exact takes_pure ⟨rfl, rfl⟩
        apply takes_then listed
        rintro _ rfl
        exact takes_pure ⟨rfl, rfl⟩
      rw [List.replicate_succ, List.flatten_cons, List.append_assoc]
      apply takes_unary_alone stops
      apply unary_eq _ _ .identifier _ rfl rfl
      apply takes_ahead
      apply takes_then (takes_primary_alone rfl (takes_name _))
      rintro _ rfl
      apply takes_ahead
      apply takes_then (called _ _)
      rintro _ rfl
      have ends := (Bool.or_eq_false_iff.mp last).2
      exact takes_steps rfl (lowers_call_step sound) Link.call.tokens Link.call.build (fun _ => True)
        (fun _ => trivial) (fun _ => rfl) (fun callee rest _ => called callee rest) rest trivial ends count _

-- No link opens a level for what stands to its left.
theorem takes_chain_of (link : Link) (count : Nat) :
    TakesUnless deep limit (assignment Program.actions (trees σ limit (levels + 1)))
      (link.chainTokens count ++ rest) (leaving rest (· = link.chain count)) := by
  cases link with
  | binary operator =>
      refine takes_operators_chained stops operator.rung _ (Expression.binary operator) ?_ count
      cases operator <;> rfl
  | logical operator =>
      refine takes_operators_chained stops operator.rung _ (Expression.logical operator) ?_ count
      cases operator <;> rfl
  | member =>
      refine takes_members_chained stops _ Link.member.build (fun _ => rfl) (fun object rest => ?_) count
      apply takes_ahead
      apply takes_expect rfl
      apply takes_assoc
      apply takes_expect rfl
      apply takes_pure_bind
      exact takes_pure ⟨rfl, rfl⟩
  | computedMember =>
      refine takes_members_chained stops _ Link.computedMember.build (fun _ => rfl) (fun object rest => ?_) count
      apply takes_ahead
      apply takes_expect rfl
      apply takes_then (takes_name_expression rfl levels)
      rintro _ rfl
      apply takes_expect rfl
      exact takes_pure ⟨rfl, rfl⟩
  | call => exact takes_calls_chained stops count

end Links

-- A chain of any length needs three levels.
theorem takes_program (link : Link) (count levels : Nat) :
    TakesUnless deep limit (statements Program.actions (trees σ limit (levels + 3)) none) (link.programTokens count)
      (leaving [] (· = (link.program count).body)) := by
  have sound : (trees σ limit (levels + 3)).Sound := nested_sound limit (levels + 3)
  have statement : TakesUnless deep limit (trees σ limit (levels + 3)).statement (link.programTokens count)
      (leaving [] (· = Statement.expression (link.chain count))) := by
    apply takes_deeper
    apply takes_expression_statement _ _ .identifier _ rfl rfl
    apply takes_then (takes_deeper (takes_chain_of rfl link count))
    rintro _ rfl
    apply takes_expect rfl
    exact takes_pure ⟨rfl, rfl⟩
  have only : TakesUnless deep limit
      (repeatWhile (fun kind => kind.isSome && kind != none)
        (fun done => do return (← (trees σ limit (levels + 3)).statement) :: done) [])
      (link.programTokens count) (leaving [] (· = [Statement.expression (link.chain count)])) := by
    apply takes_loop_step rfl (lowers_statement_step sound) rfl
    apply takes_assoc
    apply takes_then statement
    rintro _ rfl
    apply takes_pure_bind
    exact takes_loop_end rfl ⟨rfl, rfl⟩
  apply takes_then only
  rintro _ rfl
  exact takes_pure ⟨rfl, rfl⟩

theorem chain_parsed (link : Link) (count : Nat) :
    parse Program.actions (link.text count) = .ok (link.program count) := by
  apply parse_written_ok Program.actions _ (link.program_tokens_spelled count)
  obtain ⟨begun, filled, offers⟩ := offers_list (link.programTokens count)
  have taken : TakesUnless False maxNesting
      (statements Program.actions (trees (List Token) maxNesting maxNesting) none) (link.programTokens count)
      (leaving [] (· = (link.program count).body)) := takes_program link count 61
  rcases parse_from_taken maxNesting _ begun _ filled offers _ taken with ⟨_, parsed, rfl⟩ | ⟨stopped, _⟩
  · exact parsed
  · exact stopped.elim

-- Whatever the link is, a chain goes as deep as it is long.
theorem chain_beyond_nesting (link : Link) (count : Nat) :
    parse Program.actions (link.text count) = .ok (link.program count) ∧
      parse SExpr.actions (link.text count) = .ok (link.program count).encoded ∧
      count < (link.program count).height ∧ count < (link.program count).encoded.height := by
  have parsed := chain_parsed link count
  have tree := link.length_le_chain count _ link.build_depth
  have lists := link.length_le_chain count _ link.build_encoded_height
  refine ⟨parsed, encoded_of_parsed _ _ parsed, ?_, ?_⟩
  · simp only [Program.height, Program.depth, Link.program, statementsDepth, Statement.depth]
    omega
  · simp only [Program.encoded, Link.program, encodedStatements, Statement.encoded, SExpr.height_form,
      SExpr.itemsHeight]
    omega

-- The levels bound all steps down a tree but those to the left, so that a tree and its S-expression are
-- as high as these, up to a constant.
theorem height_of_left_steps (source : String) (program : Program)
    (parsed : parse Program.actions source = .ok program) :
    parse SExpr.actions source = .ok program.encoded ∧ program.nesting ≤ 8 * maxNesting + 1 ∧
      (program.leftSteps ≤ program.height ∧ program.height ≤ program.leftSteps + (8 * maxNesting + 1)) ∧
      program.leftSteps ≤ program.encoded.height ∧
      program.encoded.height ≤ program.leftSteps + (8 * maxNesting + 2) := by
  have within := nesting_within source program parsed
  have tree := program.height_bounds
  have lists := program.encoded_bounds
  exact ⟨encoded_of_parsed source program parsed, within, by omega, by omega⟩

-- A statement, its expression and the two left operands of that are open at once.
theorem height_of_left_steps_at_sum :
    ∃ program, parse Program.actions "a + a + a ;" = .ok program ∧
      parse SExpr.actions "a + a + a ;" = .ok program.encoded ∧ program.nesting = 3 ∧ program.leftSteps = 2 ∧
      program.height = 4 ∧ program.encoded.height = 3 ∧
      program.height ≤ program.leftSteps + (8 * maxNesting + 1) ∧
      program.encoded.height ≤ program.leftSteps + (8 * maxNesting + 2) := by
  have parsed := chain_parsed (.binary .add) 2
  rw [show (Link.binary .add).text 2 = "a + a + a ;" by decide +kernel] at parsed
  obtain ⟨encoded, _, tree, lists⟩ := height_of_left_steps _ _ parsed
  exact ⟨_, parsed, encoded, by decide +kernel, by decide +kernel, by decide +kernel, by decide +kernel,
    tree.2, lists.2⟩

-- Of the steps to the left there can be any number, so that no height bounds all trees, in either form.
theorem heights_unbounded :
    (¬ ∃ bound, ∀ source program, parse Program.actions source = .ok program → program.height ≤ bound) ∧
      ¬ ∃ bound, ∀ source tree, parse SExpr.actions source = .ok tree → SExpr.height tree ≤ bound := by
  constructor
  · rintro ⟨bound, small⟩
    obtain ⟨parsed, _, higher, _⟩ := chain_beyond_nesting (.binary .add) bound
    exact absurd (small _ _ parsed) (Nat.not_le.mpr higher)
  · rintro ⟨bound, small⟩
    obtain ⟨_, parsed, _, higher⟩ := chain_beyond_nesting (.binary .add) bound
    exact absurd (small _ _ parsed) (Nat.not_le.mpr higher)

end ScriptFront
