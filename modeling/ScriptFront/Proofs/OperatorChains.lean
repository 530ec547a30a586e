import ScriptFront.Proofs.LevelLoops
import ScriptFront.Proofs.PrintedPrograms

set_option autoImplicit false

/-! Operators in a row are grouped by their levels: the parser gives the one grouping of every row, and a prefix
operator has all that is behind it for its operand. -/

namespace ScriptFront

open Parse Grammar

variable {σ : Type} [TokenSource σ] {act : Actions} {limit : Nat}

namespace Grouped

-- A row is parsed to its one grouping.
theorem expression_of_laid (u : List Token) (row : Row act.Expression) (n : Nat)
    (leads : ∃ kind, kindAhead u = some kind ∧ startsExpression kind = true)
    (laid : Laid σ act limit continuesExpression u (row.reading act).1 (row.reading act).2 n) :
    ExpressionMet σ act limit u (row.expression act) n where
  leads := leads
  met levels rest stops := by
    obtain ⟨reads, ordered⟩ := (Grouping.grouping_iff (row.grouping act) (row.reading act)).mpr rfl
    obtain ⟨first, others⟩ := Prod.mk.inj reads
    rw [← first, ← others] at laid
    have apart (rung : Rung) := rung_not_ahead rung _ stops
    have goes := grouping_goes_on (row.grouping act) ordered continuesExpression u n laid .or
      (fun _ _ => Nat.zero_le _) levels rest stops fun rung _ => apart rung
    have met := meets_of_goes_on goes fun fits => level_loop_ends _ .or _ rest _ (apart .or) fits
    exact takes_logical_alone stops met

structure ChainMet (σ : Type) [TokenSource σ] (act : Actions) (limit : Nat) (assigns : Bool) (u : List Token)
    (row : Row act.Expression) (n : Nat) : Prop where
  met : ExpressionMet σ act limit u (row.expression act) n
  laid : assigns = false → Laid σ act limit continuesExpression u (row.reading act).1 (row.reading act).2 n

theorem chain_of_laid (assigns : Bool) (u : List Token) (row : Row act.Expression) (n : Nat)
    (leads : ∃ kind, kindAhead u = some kind ∧ startsExpression kind = true)
    (laid : Laid σ act limit continuesExpression u (row.reading act).1 (row.reading act).2 n) :
    ChainMet σ act limit assigns u row n :=
  ⟨expression_of_laid u row n leads laid, fun _ => laid⟩

theorem operand_laid (u : List Token) (e : act.Expression) (n : Nat)
    (operand : UnaryMet σ act limit continuesOperand u e n) : Laid σ act limit continuesExpression u e [] n := by
  refine .last u e n ⟨operand.leads, fun levels rest stops => ?_⟩
  exact operand.met levels rest (operand_stops _ stops)

theorem prefixed_laid (op : Token) (v : List Token) (operator : UnaryOperator) (e : act.Expression) (n : Nat)
    (kind : op.kind = .additive ∨ op.kind = .logicalNot) (spelled : Spelled.ofSpelling? op.text = some operator)
    (inside : ExpressionMet σ act limit v e n) :
    Laid σ act limit continuesExpression (op :: v) (act.unary operator e) [] (n + 1) := by
  refine .last _ _ _ ⟨⟨op.kind, rfl, prefix_starts_expression op.kind kind⟩, fun levels rest stops => ?_⟩
  apply takes_prefixed _ op (v ++ rest) operator _ kind spelled
  apply takes_weaken (expression_meets v e n inside levels rest stops)
  rintro _ left ⟨rfl, enough, rfl⟩
  exact ⟨rfl, enough, rfl⟩

theorem assignment_met (u v : List Token) (op : Token) (operator : AssignmentOperator) (left value : act.Expression)
    (place : act.Target) (m n : Nat) (operand : UnaryMet σ act limit continuesOperand u left m)
    (target : act.target? left = some place) (assigns : op.kind.isAssignment = true)
    (spelled : Spelled.ofSpelling? op.text = some operator) (inside : ExpressionMet σ act limit v value n) :
    ExpressionMet σ act limit (u ++ op :: v) (act.assignment operator place value) (max m (n + 1)) where
  leads := leads_append u _ operand.leads
  met levels rest stops := by
    have apart (rung : Rung) : kindAhead (op :: (v ++ rest)) ≠ some rung.kind := by
      intro same
      rw [kind_ahead_cons, Option.some.injEq] at same
      rw [same] at assigns
      cases rung <;> contradiction
    have first := takes_operand_alone .or (apart .or) (takes_tighter_alone .or (fun rung _ => apart rung)
      (operand.met levels (op :: (v ++ rest)) (continues_operand_assignment _ assigns)))
    rw [List.append_assoc, List.cons_append]
    apply meets_then first (by omega)
    rintro left' enough rfl
    have assigned : Meets limit (max m (n + 1) ≤ levels)
        (assignTo act (nested (σ := σ) act limit levels) op.kind left') (op :: (v ++ rest)) rest
        (· = act.assignment operator place value) := by
      unfold assignTo
      rw [target]
      apply takes_expect rfl
      apply takes_operator spelled
      apply meets_then (expression_meets v value n inside levels rest stops) (by omega)
      rintro _ enough' rfl
      exact meets_pure (by omega) rfl
    apply takes_look
    rw [kind_ahead_cons]
    cases kind : op.kind <;> rw [kind] at assigned assigns <;> first | exact assigned | contradiction

mutual
theorem chain_met (assigns : Bool) (u : List Token) (row : Row act.Expression) (n : Nat)
    (chain : Chain act assigns u row n) : ChainMet σ act limit assigns u row n := by
  match assigns, u, row, n, chain with
  | _, _, _, _, .last assigns u e n operand =>
      have met := operand_met u e n operand
      exact chain_of_laid assigns u (.last e) n met.leads (operand_laid u e n met)
  | _, _, _, _, .prefixed assigns op v operator row n kind spelled later =>
      have laid := prefixed_laid op v operator _ n kind spelled (chain_met true v row n later).met
      have leads : ∃ kind, kindAhead (op :: v) = some kind ∧ startsExpression kind = true :=
        ⟨op.kind, rfl, prefix_starts_expression op.kind kind⟩
      exact chain_of_laid assigns (op :: v) (.prefixed operator row) (n + 1) leads laid
  | _, _, _, _, .followed assigns u v op operator e row m n operand written later =>
      have met := operand_met u e m operand
      have laid := Laid.more u v op operator e _ _ m n met written ((chain_met false v row n later).laid rfl)
      exact chain_of_laid assigns (u ++ op :: v) (.followed e operator row) (max m n)
        (leads_append u _ met.leads) laid
  | _, _, _, _, .assign u v op operator left place row m n operand target isAssignment spelled later =>
      refine ⟨?_, by simp⟩
      exact assignment_met u v op operator left _ place m n (operand_met u left m operand) target isAssignment spelled
        (chain_met true v row n later).met

theorem operand_met (u : List Token) (e : act.Expression) (n : Nat) (operand : Operand act u e n) :
    UnaryMet σ act limit continuesOperand u e n := by
  match u, e, n, operand with
  | _, _, _, .member u e n member => exact operand_of_member u e n (member_met u e n member)
  | _, _, _, .calls u e n calls => exact operand_of_calls u e n (calls_met u e n calls)

theorem calls_met (u : List Token) (e : act.Expression) (n : Nat) (calls : Calls act u e n) :
    CallsMet σ act limit u e n := by
  match u, e, n, calls with
  | _, _, _, .super word v found n kind list =>
      exact calls_of_super word v found n kind (arguments_met v found n list)
  | _, _, _, .member u v callee found m n member list =>
      exact calls_of_member u v callee found m n (member_met u callee m member) (arguments_met v found n list)
  | _, _, _, .more u v callee found m n calls list =>
      exact calls_of_calls u v callee found m n (calls_met u callee m calls) (arguments_met v found n list)

theorem member_met (u : List Token) (e : act.Expression) (n : Nat) (member : Member act u e n) :
    MemberMet σ act limit u e n := by
  match u, e, n, member with
  | _, _, _, .primary u e n primary => exact member_of_primary u e n (primary_met u e n primary)
  | _, _, _, .named u dot id object n member isDot kind =>
      exact member_of_name u dot id object n (member_met u object n member) isDot kind
  | _, _, _, .computed u v open_ close object row m n member opens inside closes =>
      exact member_of_index u v open_ close object _ m n (member_met u object m member) opens
        (chain_met true v row n inside).met closes

theorem primary_met (u : List Token) (e : act.Expression) (n : Nat) (primary : Primary act u e n) :
    PrimaryMet σ act limit u e n := by
  match u, e, n, primary with
  | _, _, _, .number t value kind digits =>
      exact primary_of_token t _ (by rw [kind]; rfl) fun _ rest => takes_number_token t rest value kind digits
  | _, _, _, .string t kind =>
      exact primary_of_token t _ (by rw [kind]; rfl) fun _ rest => takes_string_token t rest kind
  | _, _, _, .true t kind => exact primary_of_word t _ _ kind .true
  | _, _, _, .false t kind => exact primary_of_word t _ _ kind .false
  | _, _, _, .null t kind => exact primary_of_word t _ _ kind .null
  | _, _, _, .parenthesized u open_ close row n opens inside closes =>
      exact primary_of_parentheses u open_ close _ n opens (chain_met true u row n inside).met closes
  | _, _, _, .identifier t kind =>
      exact primary_of_token t _ (by rw [kind]; rfl) fun _ rest => takes_name_token t rest kind
  | _, _, _, .this t kind => exact primary_of_word t _ _ kind .this
  | _, _, _, .new word u v callee found m n kind member list =>
      exact primary_of_new word u v callee found m n kind (member_met u callee m member)
        (arguments_met v found n list)

theorem arguments_met (u : List Token) (found : List act.Expression) (n : Nat) (list : Arguments act u found n) :
    ArgumentsMet σ act limit u found n := by
  match u, found, n, list with
  | _, _, _, .none open_ close opens closes => exact arguments_of_none open_ close opens closes
  | _, _, _, .some u open_ close found n opens list closes =>
      exact arguments_of_list u open_ close found n opens (argument_list_met u found n list) closes

theorem argument_list_met (u : List Token) (found : List act.Expression) (n : Nat)
    (list : ArgumentList act u found n) : ArgumentListMet σ act limit u found n := by
  match u, found, n, list with
  | _, _, _, .one u row n inside => exact list_of_one u _ n (chain_met true u row n inside).met
  | _, _, _, .more u v comma row rest m n inside isComma list =>
      exact list_of_more u v comma _ rest m n (chain_met true u row m inside).met isComma
        (argument_list_met v rest n list)
end

-- An expression as the only statement of a program.
theorem statement_met (u : List Token) (stop : Token) (e : act.Expression) (n : Nat)
    (inside : ExpressionMet σ act limit u e n) (ends : stop.kind = .mark .semicolon) (levels : Nat) :
    Meets limit (n + 2 ≤ levels) (nested (σ := σ) act limit levels).statement (u ++ [stop]) []
      (· = act.expressionStatement e) := by
  cases levels with
  | zero => exact takes_until_too_deep (by omega)
  | succ levels =>
      obtain ⟨kind, ahead, starts⟩ := inside.leads
      have stops : continuesExpression (kindAhead [stop]) = false := by
        rw [kind_ahead_cons, ends]
        rfl
      apply takes_deeper
      apply takes_expression_statement _ _ kind _ (kind_ahead_append u [stop] kind ahead) starts
      apply meets_then (expression_meets u e n inside levels [stop] stops) (by omega)
      rintro _ enough rfl
      apply takes_expect ends
      exact meets_pure (by omega) rfl

theorem program_met (u : List Token) (stop : Token) (e : act.Expression) (n : Nat)
    (inside : ExpressionMet σ act limit u e n) (ends : stop.kind = .mark .semicolon) (levels : Nat) :
    Meets limit (n + 2 ≤ levels) (statements act (nested (σ := σ) act limit levels) none) (u ++ [stop]) []
      (· = [act.expressionStatement e]) := by
  have sound : (nested (σ := σ) act limit levels).Sound := nested_sound limit levels
  obtain ⟨kind, ahead, _⟩ := inside.leads
  have only : Meets limit (n + 2 ≤ levels)
      (repeatWhile (fun kind => kind.isSome && kind != none)
        (fun done => do return (← (nested (σ := σ) act limit levels).statement) :: done) [])
      (u ++ [stop]) [] (· = [act.expressionStatement e]) := by
    apply takes_loop_step rfl (lowers_statement_step sound) (by simp [kind_ahead_append u [stop] kind ahead])
    apply takes_assoc
    apply meets_then (statement_met u stop e n inside ends levels) id
    rintro _ enough rfl
    apply takes_pure_bind
    exact takes_loop_end rfl ⟨rfl, enough, rfl⟩
  apply meets_then only id
  rintro _ enough rfl
  exact meets_pure enough rfl

theorem parse_of_expression (u : List Token) (stop : Token) (e : act.Expression) (n : Nat)
    (inside : ExpressionMet Tokenizer act maxNesting u e n) (ends : stop.kind = .mark .semicolon) (source : String)
    (found : tokenize source = .ok (u ++ [stop])) :
    parse act source =
      if n + 2 ≤ maxNesting then .ok (act.program [act.expressionStatement e])
      else .error (.grammar (.nestingTooDeep maxNesting)) := by
  obtain ⟨begun, filled, offers⟩ := offers_of_tokenize source _ found
  have taken := program_met u stop e n inside ends maxNesting
  rcases parse_from_taken maxNesting _ begun _ filled offers _ taken with ⟨_, parsed, enough, rfl⟩ | ⟨short, stopped⟩
  · rw [if_pos enough]
    exact parsed
  · rw [if_neg short]
    exact stopped

end Grouped

-- A row has one grouping in which an operator to the left below another one is at least as tight, and one to the
-- right tighter. The parser makes this grouping of the row wherever an expression is parsed, exactly if the limit
-- allows for its levels of nesting, and so for a source that is the row and a semicolon.
theorem rows_grouped (act : Actions) :
    (∀ (row : Row act.Expression) (g : Grouping InfixOperator act.Expression),
      g.reading = row.reading act ∧ g.Ordered InfixOperator.height ↔ g = row.grouping act) ∧
    ∀ (u : List Token) (row : Row act.Expression) (n : Nat), Grouped.Chain act false u row n →
      (∀ (σ : Type) [TokenSource σ] (limit levels : Nat) (rest : List Token),
        continuesExpression (kindAhead rest) = false →
          Meets limit (n + 1 ≤ levels) (nested (σ := σ) act limit levels).expression (u ++ rest) rest
            (· = (row.grouping act).expression act)) ∧
      ∀ (source : String) (stop : Token), tokenize source = .ok (u ++ [stop]) → stop.kind = .mark .semicolon →
        parse act source =
          if n + 2 ≤ maxNesting then .ok (act.program [act.expressionStatement ((row.grouping act).expression act)])
          else .error (.grammar (.nestingTooDeep maxNesting)) := by
  refine ⟨fun row g => Grouping.grouping_iff g (row.reading act), fun u row n chain => ⟨?_, ?_⟩⟩
  · intro σ _ limit levels rest stops
    exact Grouped.expression_meets u _ n (Grouped.chain_met false u row n chain).met levels rest stops
  · intro source stop found ends
    exact Grouped.parse_of_expression u stop _ n (Grouped.chain_met false u row n chain).met ends source found

-- `a - b * !c || d`, where the row of the prefix operator is `c || d`.
theorem rows_grouped_at_prefix :
    ∃ (u : List Token) (stop : Token) (row : Row Expression),
      Grouped.Chain Program.actions false u row 1 ∧ tokenize "a - b * !c || d;" = .ok (u ++ [stop]) ∧
      (∀ g : Grouping InfixOperator Expression,
        g.reading = row.reading Program.actions ∧ g.Ordered InfixOperator.height ↔ g = row.grouping Program.actions) ∧
      row.grouping Program.actions = .node (.binary .subtract) (.operand (.identifier ⟨"a"⟩))
        (.node (.binary .multiply) (.operand (.identifier ⟨"b"⟩))
          (.operand (.unary .not (.logical .or (.identifier ⟨"c"⟩) (.identifier ⟨"d"⟩))))) ∧
      Meets maxNesting (1 + 1 ≤ maxNesting) (nested (σ := List Token) Program.actions maxNesting maxNesting).expression
        (u ++ []) [] (· = (row.grouping Program.actions).expression Program.actions) ∧
      parse Program.actions "a - b * !c || d;" =
        .ok ⟨[.expression (.binary .subtract (.identifier ⟨"a"⟩) (.binary .multiply (.identifier ⟨"b"⟩)
          (.unary .not (.logical .or (.identifier ⟨"c"⟩) (.identifier ⟨"d"⟩)))))]⟩ := by
  have operand (t : Token) (kind : t.kind = .identifier) :
      Grouped.Operand Program.actions [t] (.identifier ⟨t.text⟩) 0 :=
    .member _ _ _ (.primary _ _ _ (.identifier t kind))
  let a : Token := ⟨.identifier, "a", ⟨0, 1⟩⟩
  let minus : Token := ⟨.additive, "-", ⟨2, 3⟩⟩
  let b : Token := ⟨.identifier, "b", ⟨4, 5⟩⟩
  let times : Token := ⟨.multiplicative, "*", ⟨6, 7⟩⟩
  let bang : Token := ⟨.logicalNot, "!", ⟨8, 9⟩⟩
  let c : Token := ⟨.identifier, "c", ⟨9, 10⟩⟩
  let bars : Token := ⟨.logicalOr, "||", ⟨11, 13⟩⟩
  let d : Token := ⟨.identifier, "d", ⟨14, 15⟩⟩
  let stop : Token := ⟨.mark .semicolon, ";", ⟨15, 16⟩⟩
  have inside : Grouped.Chain Program.actions true ([c] ++ bars :: [d]) _ 0 :=
    .followed true _ _ bars (.logical .or) _ _ 0 0 (operand c rfl) ⟨rfl, rfl⟩ (.last false _ _ 0 (operand d rfl))
  have negated : Grouped.Chain Program.actions false (bang :: ([c] ++ bars :: [d])) _ 1 :=
    .prefixed false bang _ .not _ 0 (.inr rfl) rfl inside
  have product : Grouped.Chain Program.actions false ([b] ++ times :: _) _ 1 :=
    .followed false _ _ times (.binary .multiply) _ _ 0 1 (operand b rfl) ⟨rfl, rfl⟩ negated
  have chain : Grouped.Chain Program.actions false ([a] ++ minus :: _) _ 1 :=
    .followed false _ _ minus (.binary .subtract) _ _ 0 1 (operand a rfl) ⟨rfl, rfl⟩ product
  have found : tokenize "a - b * !c || d;" =
      .ok (([a] ++ minus :: ([b] ++ times :: bang :: ([c] ++ bars :: [d]))) ++ [stop]) := by
    decide +kernel
  obtain ⟨groupings, rows⟩ := rows_grouped Program.actions
  obtain ⟨taken, parsed⟩ := rows _ _ 1 chain
  exact ⟨_, stop, _, chain, found, groupings _, rfl, taken (List Token) maxNesting maxNesting [] rfl,
    parsed _ stop found rfl⟩

end ScriptFront
