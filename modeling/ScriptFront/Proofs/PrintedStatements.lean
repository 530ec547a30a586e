import ScriptFront.Proofs.PrintedExpressions
import ScriptFront.Proofs.StatementsTaken

set_option autoImplicit false

/-! The tokens of a statement are parsed to the statement, if enough levels of nesting are left and no
`else` follows that the statement waits for. -/

namespace ScriptFront

open Parse Grammar

variable {σ : Type} [TokenSource σ] {limit : Nat} {fenced : Bool}

theorem deepest_le_iff {α : Type} (levels : α → Nat) (list : List α) (count : Nat) :
    deepest levels list ≤ count ↔ ∀ a ∈ list, levels a ≤ count := by
  induction list with
  | nil => simp [deepest]
  | cons a rest ih => rw [deepest, Nat.max_le, ih, List.forall_mem_cons]

section Parts

theorem meets_whole_expression (e : Expression) (proper : e.isProper Binary64.isSafeNatural = true) (levels : Nat)
    (rest : List Token) (stops : continuesExpression (kindAhead rest) = false) :
    Meets limit (e.wholeLevels fenced ≤ levels) (trees σ limit levels).expression (e.wholeTokens fenced ++ rest)
      rest fun e' => e'.same e = true := by
  have parsed : ExpressionParsed σ limit e := expression_parsed e proper
  cases fenced with
  | false => exact meets_nested_expression _ _ _ _ (fun levels => parsed.parsed levels rest stops) levels
  | true => exact meets_operand_expression (operand_of_proper e proper parsed) levels rest stops

theorem expression_lead (e : Expression) (proper : e.isProper Binary64.isSafeNatural = true) :
    ∃ kind, kindAhead (e.wholeTokens fenced) = some kind ∧ startsExpression kind = true := by
  have parsed : ExpressionParsed (List Token) 0 e := expression_parsed e proper
  cases fenced with
  | false => exact parsed.leads
  | true =>
      obtain ⟨kind, ahead, starts⟩ := (operand_of_proper e proper parsed).leads
      exact ⟨kind, ahead, expression_of_primary_start kind starts⟩

theorem meets_condition (test : Expression) (proper : test.isProper Binary64.isSafeNatural = true)
    (levels : Nat) (rest : List Token) :
    Meets limit (test.wholeLevels fenced ≤ levels) (condition Program.actions (trees σ limit levels))
      (parenthesized (test.wholeTokens fenced) ++ rest) rest fun e' => e'.same test = true := by
  rw [parenthesized, List.cons_append, List.append_assoc, List.singleton_append]
  apply takes_expect rfl
  apply meets_then (meets_whole_expression test proper levels _ rfl) id
  intro e' enough same
  apply takes_expect rfl
  exact meets_pure enough same

theorem meets_optional_expression (part : Option Expression)
    (proper : part.all (Expression.isProper Binary64.isSafeNatural) = true) (follower : Mark)
    (ends : closes (.mark follower) = true) (levels : Nat) (rest : List Token)
    (ahead : kindAhead rest = some (.mark follower)) :
    Meets limit (part.elim 0 (Expression.wholeLevels fenced) ≤ levels)
      (optionalExpression Program.actions (trees σ limit levels) follower)
      (part.elim [] (Expression.wholeTokens fenced) ++ rest) rest fun part' => sameOption Expression.same part' part = true := by
  apply takes_ahead
  cases part with
  | none =>
      rw [Option.elim_none, Option.elim_none, List.nil_append, ahead, beq_self_eq_true]
      exact meets_pure (Nat.zero_le _) rfl
  | some e =>
      obtain ⟨kind, first, starts⟩ := expression_lead e proper
      have apart : startsExpression (.mark follower) = false := by
        cases follower <;> first | rfl | contradiction
      rw [Option.elim_some, Option.elim_some, not_ahead _ rest kind _ first starts apart]
      apply meets_then (meets_whole_expression e proper levels rest (closes_stops _ _ ahead ends)) id
      intro e' enough same
      exact meets_pure enough same

theorem meets_declaration (declaration : VariableDeclaration)
    (proper : declaration.isProper Binary64.isSafeNatural = true) (levels : Nat) (rest : List Token)
    (ahead : kindAhead rest = some (.mark .comma) ∨ kindAhead rest = some (.mark .semicolon)) :
    Meets limit (declaration.levels fenced ≤ levels) (variableDeclaration Program.actions (trees σ limit levels))
      (declaration.tokens fenced ++ rest) rest fun found => found.same declaration = true := by
  obtain ⟨name, init⟩ := declaration
  simp only [VariableDeclaration.isProper, Bool.and_eq_true] at proper
  apply takes_assoc
  rw [VariableDeclaration.tokens, List.cons_append]
  apply takes_expect rfl
  apply takes_pure_bind
  apply takes_ahead
  apply takes_ahead
  cases init with
  | none =>
      have ends : (kindAhead rest == some (.mark .semicolon) ||
          kindAhead rest == some (.mark .comma)) = true := by
        rcases ahead with ahead | ahead <;> rw [ahead] <;> rfl
      rw [Option.elim_none, List.nil_append, if_pos ends]
      exact meets_pure (Nat.zero_le _) (by simp [VariableDeclaration.same, Identifier.token, sameOption])
  | some value =>
      have stops : continuesExpression (kindAhead rest) = false := by
        rcases ahead with ahead | ahead
        · exact closes_stops rest _ ahead rfl
        · exact closes_stops rest _ ahead rfl
      rw [Option.elim_some, List.cons_append, kind_ahead_cons]
      apply takes_expect rfl
      apply meets_then (meets_whole_expression value proper.2 levels rest stops) id
      intro value' enough same
      exact meets_pure enough (by simp [VariableDeclaration.same, Identifier.token, sameOption, same])

theorem meets_variables (declarations : List VariableDeclaration)
    (proper : properVariables Binary64.isSafeNatural declarations = true) (levels : Nat) (rest : List Token)
    (ahead : kindAhead rest = some (.mark .semicolon)) :
    Meets limit (deepest (VariableDeclaration.levels fenced) declarations ≤ levels)
      (variableDeclarations Program.actions (trees σ limit levels)) (variableTokens fenced declarations ++ rest) rest
      fun found => sameList VariableDeclaration.same found declarations = true := by
  have sound : (trees σ limit levels).Sound := nested_sound limit levels
  simp only [properVariables, Bool.and_eq_true, List.all_eq_true] at proper
  rw [variableTokens, List.cons_append]
  apply takes_expect rfl
  cases declarations with
  | nil => simp at proper
  | cons first items =>
      have found := meets_comma_list limit _ _ (yields_variable_declaration sound)
        (VariableDeclaration.tokens fenced) (fun declaration => declaration.levels fenced ≤ levels)
        VariableDeclaration.same rest (by simp [ahead]) first items (by
          intro declaration member after next
          apply meets_declaration declaration (proper.2 declaration member)
          rcases next with next | rfl
          · exact .inl next
          · exact .inr ahead)
      exact meets_weaken found (deepest_le_iff _ _ _).symm fun _ right => right

theorem meets_for_init (init : Option ForInit)
    (proper : init.all (ForInit.isProper Binary64.isSafeNatural) = true) (levels : Nat) (rest : List Token)
    (ahead : kindAhead rest = some (.mark .semicolon)) :
    Meets limit (init.elim 0 (ForInit.levels fenced) ≤ levels) (forInit Program.actions (trees σ limit levels))
      (init.elim [] (ForInit.tokens fenced) ++ rest) rest fun init' => sameOption ForInit.same init' init = true := by
  apply takes_ahead
  match init with
  | none =>
      rw [Option.elim_none, Option.elim_none, List.nil_append, ahead, beq_self_eq_true]
      exact meets_pure (Nat.zero_le _) rfl
  | some (.variables declarations) =>
      have first : kindAhead ((some (ForInit.variables declarations)).elim [] (ForInit.tokens fenced) ++ rest) =
          some (.keyword .letWord) := rfl
      rw [first]
      apply takes_ahead
      rw [first]
      apply meets_then (meets_variables declarations proper levels rest ahead) id
      intro found enough same
      exact meets_pure enough same
  | some (.expression e) =>
      obtain ⟨kind, first, starts⟩ := expression_lead e proper
      rw [Option.elim_some, Option.elim_some, ForInit.tokens, not_ahead _ rest kind _ first starts rfl]
      apply takes_ahead
      rw [not_ahead _ rest kind _ first starts rfl]
      apply meets_then (meets_whole_expression e proper levels rest (closes_stops _ _ ahead rfl)) id
      intro e' enough same
      exact meets_pure enough same

theorem eq_of_same_list {α : Type} [BEq α] [LawfulBEq α] (a b : List α) (same : sameList (· == ·) a b = true) :
    a = b := by
  induction a generalizing b with
  | nil =>
      cases b with
      | nil => rfl
      | cons y b => simp [sameList] at same
  | cons x a ih =>
      cases b with
      | nil => simp [sameList] at same
      | cons y b =>
          simp only [sameList, Bool.and_eq_true, beq_iff_eq] at same
          rw [same.1, ih b same.2]

theorem meets_names (first : Identifier) (items : List Identifier) (rest : List Token)
    (apart : kindAhead rest ≠ some (.mark .comma)) :
    Meets limit True (commaList (identifier (σ := σ) Program.actions))
      (commas ((first :: items).map fun id => [id.token]) ++ rest) rest fun found => found = first :: items := by
  have found := meets_comma_list limit (identifier (σ := σ) Program.actions) _ yields_identifier
    (fun id => [id.token]) (fun _ => True) (· == ·) rest apart first items (by
      intro id _ after _
      apply takes_expect rfl
      exact meets_pure trivial (beq_self_eq_true id))
  exact meets_weaken found (by simp) fun names same => eq_of_same_list _ _ same

theorem meets_parent (parent : Option Identifier) (rest : List Token)
    (apart : kindAhead rest ≠ some (.keyword .extendsWord)) :
    Meets limit True (superClass (σ := σ) Program.actions)
      (parent.elim [] (fun parent => [Keyword.extendsWord.token, parent.token]) ++ rest) rest
      fun found => found = parent := by
  apply takes_ahead
  cases parent with
  | none =>
      have absent : (kindAhead rest == some (.keyword .extendsWord)) = false := by simpa using apart
      rw [Option.elim_none, List.nil_append, absent]
      exact meets_pure trivial rfl
  | some id =>
      change Meets limit _ _ (Keyword.extendsWord.token :: id.token :: rest) _ _
      apply takes_expect rfl
      apply takes_assoc
      apply takes_expect rfl
      apply takes_pure_bind
      exact meets_pure trivial rfl

end Parts

section Sorts

variable (σ) (limit : Nat) (fenced : Bool)

-- A statement is parsed where no `else` follows that belongs to it.
structure StatementParsed (s : Statement) : Prop where
  leads : ∃ kind, kindAhead (s.tokens fenced) = some kind ∧ startsStatement kind = true
  parsed : ∀ levels rest, (s.waitsForElse = true → kindAhead rest ≠ some (.keyword .elseWord)) →
    Meets limit (s.levels fenced ≤ levels) (statement Program.actions (trees σ limit levels)) (s.tokens fenced ++ rest)
      rest fun s' => s'.same s = true

end Sorts

theorem meets_nested_statement (s : Statement) (parsed : StatementParsed σ limit fenced s) (levels : Nat)
    (rest : List Token) (apart : s.waitsForElse = true → kindAhead rest ≠ some (.keyword .elseWord)) :
    Meets limit (s.levels fenced + 1 ≤ levels) (trees σ limit levels).statement (s.tokens fenced ++ rest) rest
      fun s' => s'.same s = true := by
  cases levels with
  | zero => exact takes_until_too_deep (by omega)
  | succ levels =>
      exact takes_deeper (meets_weaken (parsed.parsed levels rest apart) (by omega) fun _ right => right)

section Bodies

variable (list : List Statement) (each : ∀ s ∈ list, StatementParsed σ limit fenced s) (levels : Nat)
  (rest : List Token)

include each

-- The first token behind a statement in a list is no `else`.
theorem statements_lead (plain : kindAhead rest ≠ some (.keyword .elseWord)) :
    kindAhead (statementTokens fenced list ++ rest) ≠ some (.keyword .elseWord) := by
  cases list with
  | nil => exact plain
  | cons s rest' =>
      obtain ⟨kind, ahead, starts⟩ := (each s List.mem_cons_self).leads
      rw [statementTokens, List.append_assoc, kind_ahead_append _ _ kind ahead]
      rintro same
      injection same with same
      rw [same] at starts
      contradiction

theorem meets_statement_items (stop : Option TokenKind)
    (ends : stop = none ∨ stop = some (.mark .rightBrace)) (ahead : kindAhead rest = stop)
    (done : List Statement) :
    Meets limit (statementLevels fenced list ≤ levels)
      (repeatWhile (fun kind => kind.isSome && kind != stop)
        (fun done => do return (← (trees σ limit levels).statement) :: done) done)
      (statementTokens fenced list ++ rest) rest
      fun found => ∃ body, found = body.reverse ++ done ∧ sameStatements body list = true := by
  have sound : (trees σ limit levels).Sound := nested_sound limit levels
  induction list generalizing done with
  | nil =>
      apply takes_loop_end (by simp [statementTokens, ahead])
      exact ⟨rfl, Nat.zero_le _, [], rfl, by simp [sameStatements]⟩
  | cons s list ih =>
      have later : ∀ s ∈ list, StatementParsed σ limit fenced s := fun s member =>
        each s (List.mem_cons_of_mem _ member)
      obtain ⟨kind, begins, starts⟩ := (each s List.mem_cons_self).leads
      have goes : (kindAhead (s.tokens fenced ++ (statementTokens fenced list ++ rest))).isSome &&
          kindAhead (s.tokens fenced ++ (statementTokens fenced list ++ rest)) != stop := by
        rw [kind_ahead_append _ _ kind begins]
        rcases ends with rfl | rfl
        · rfl
        · have apart : kind ≠ .mark .rightBrace := by rintro rfl; contradiction
          simpa using apart
      have plain : kindAhead rest ≠ some (.keyword .elseWord) := by
        rw [ahead]
        rcases ends with rfl | rfl <;> simp
      rw [statementTokens, statementLevels, List.append_assoc]
      apply takes_loop_step (by simp) (lowers_statement_step sound) goes
      apply takes_assoc
      apply meets_then (meets_nested_statement s (each s List.mem_cons_self) levels _
        fun _ => statements_lead list later rest plain) (by omega)
      intro s' enough same
      apply takes_pure_bind
      apply meets_weaken (ih later (s' :: done)) (by omega)
      rintro _ ⟨body, rfl, same'⟩
      exact ⟨s' :: body, by simp, by simp [sameStatements, same, same']⟩

theorem meets_statements (stop : Option TokenKind) (ends : stop = none ∨ stop = some (.mark .rightBrace))
    (ahead : kindAhead rest = stop) :
    Meets limit (statementLevels fenced list ≤ levels) (statements Program.actions (trees σ limit levels) stop)
      (statementTokens fenced list ++ rest) rest fun body => sameStatements body list = true := by
  apply meets_then (meets_statement_items list each levels rest stop ends ahead []) id
  rintro _ enough ⟨body, rfl, same⟩
  exact meets_pure enough (by simpa using same)

theorem meets_block :
    Meets limit (statementLevels fenced list ≤ levels) (block Program.actions (trees σ limit levels))
      (braced (statementTokens fenced list) ++ rest) rest fun body => sameStatements body list = true := by
  rw [braced, List.cons_append, List.append_assoc, List.singleton_append]
  apply takes_expect rfl
  apply meets_then (meets_statements list each levels (Mark.rightBrace.token :: rest) _ (.inr rfl) rfl) id
  intro body enough same
  apply takes_expect rfl
  exact meets_pure enough same

end Bodies

attribute [local simp] Statement.same Statement.tokens Statement.levels

section Simple

theorem empty_parsed : StatementParsed σ limit fenced .empty where
  leads := ⟨_, rfl, rfl⟩
  parsed levels rest _ := by
    apply takes_look
    apply takes_expect rfl
    exact meets_pure (Nat.zero_le _) (by simp)

theorem expression_statement_parsed (e : Expression) (proper : e.isProper Binary64.isSafeNatural = true) :
    StatementParsed σ limit fenced (.expression e) := by
  obtain ⟨kind, ahead, starts⟩ := expression_lead e proper
  refine ⟨⟨kind, kind_ahead_append _ _ kind ahead, starts_statement kind starts⟩, fun levels rest _ => ?_⟩
  rw [Statement.tokens, Statement.levels, List.append_assoc, List.singleton_append]
  apply takes_expression_statement _ _ kind _ (kind_ahead_append _ _ kind ahead) starts
  apply meets_then (meets_whole_expression e proper levels _ rfl) id
  intro e' enough same
  apply takes_expect rfl
  exact meets_pure enough (by simpa using same)

theorem variables_parsed (declarations : List VariableDeclaration)
    (proper : properVariables Binary64.isSafeNatural declarations = true) :
    StatementParsed σ limit fenced (.variables declarations) where
  leads := ⟨_, rfl, rfl⟩
  parsed levels rest _ := by
    have first : kindAhead (variableTokens fenced declarations ++ Mark.semicolon.token :: rest) =
        some (.keyword .letWord) := rfl
    rw [Statement.tokens, Statement.levels, List.append_assoc, List.singleton_append]
    apply takes_look
    rw [first]
    apply meets_then (meets_variables declarations proper levels _ rfl) id
    intro found enough same
    apply takes_expect rfl
    exact meets_pure enough (by simpa using same)

theorem returning_parsed (argument : Option Expression)
    (proper : argument.all (Expression.isProper Binary64.isSafeNatural) = true) :
    StatementParsed σ limit fenced (.returning argument) where
  leads := ⟨_, rfl, rfl⟩
  parsed levels rest _ := by
    rw [Statement.tokens, Statement.levels, List.cons_append, List.append_assoc, List.singleton_append]
    apply takes_look
    rw [kind_ahead_cons]
    apply takes_expect rfl
    apply meets_then (meets_optional_expression argument proper .semicolon rfl levels _ rfl) id
    intro found enough same
    apply takes_expect rfl
    exact meets_pure enough (by simpa using same)

end Simple

section Bodied

variable (body : List Statement) (each : ∀ s ∈ body, StatementParsed σ limit fenced s)

include each

theorem block_parsed : StatementParsed σ limit fenced (.block body) where
  leads := ⟨_, rfl, rfl⟩
  parsed levels rest _ := by
    have first : kindAhead (braced (statementTokens fenced body) ++ rest) = some (.mark .leftBrace) := rfl
    rw [Statement.tokens, Statement.levels]
    apply takes_look
    rw [first]
    apply meets_then (meets_block body each levels rest) id
    intro found enough same
    exact meets_pure enough (by simpa using same)

theorem class_parsed (id : Identifier) (parent : Option Identifier) :
    StatementParsed σ limit fenced (.classDeclaration id parent body) where
  leads := ⟨_, rfl, rfl⟩
  parsed levels rest _ := by
    rw [Statement.tokens, Statement.levels, List.cons_append, List.cons_append, List.append_assoc]
    apply takes_look
    rw [kind_ahead_cons]
    apply takes_expect rfl
    apply takes_assoc
    apply takes_expect rfl
    apply takes_pure_bind
    have plain : kindAhead (braced (statementTokens fenced body) ++ rest) ≠ some (.keyword .extendsWord) := nofun
    apply meets_then (meets_parent parent _ plain) fun _ => trivial
    rintro _ _ rfl
    apply meets_then (meets_block body each levels rest) fun enough => enough
    intro found enough same
    exact meets_pure enough (by simp [Identifier.token, same])

theorem function_parsed (name : Identifier) (params : List Identifier) :
    StatementParsed σ limit fenced (.function name params body) where
  leads := ⟨_, rfl, rfl⟩
  parsed levels rest _ := by
    have split : (Statement.function name params body).tokens fenced ++ rest =
        Keyword.defWord.token :: name.token :: Mark.leftParen.token ::
          (commas (params.map fun id => [id.token]) ++ Mark.rightParen.token ::
            (braced (statementTokens fenced body) ++ rest)) := by
      simp [parenthesized]
    rw [split, Statement.levels]
    apply takes_look
    rw [kind_ahead_cons]
    apply takes_expect rfl
    apply takes_assoc
    apply takes_expect rfl
    apply takes_pure_bind
    apply takes_expect rfl
    have parsed (params' : List Identifier) (same : params' = params) :
        Meets limit (statementLevels fenced body ≤ levels)
          (do
            let _ ← expect (.mark .rightParen)
            let body ← block Program.actions (trees σ limit levels)
            return Program.actions.functionDeclaration (.mk name.name) params' body)
          (Mark.rightParen.token :: (braced (statementTokens fenced body) ++ rest)) rest
          fun s => s.same (.function name params body) = true := by
      apply takes_expect rfl
      apply meets_then (meets_block body each levels rest) fun enough => enough
      intro found enough same'
      exact meets_pure enough (by simp [same, same'])
    cases params with
    | nil =>
        apply takes_ahead
        apply takes_pure_bind
        exact parsed [] rfl
    | cons first items =>
        have ahead : kindAhead (commas ((first :: items).map fun id => [id.token])) = some .identifier :=
          commas_ahead _ _ _ rfl
        apply takes_ahead
        rw [kind_ahead_append _ _ _ ahead]
        apply meets_then (meets_names first items _ (by simp)) fun _ => trivial
        intro params' _ same
        exact parsed params' same

end Bodied

section Nested

variable (body : Statement) (parsed : StatementParsed σ limit fenced body)

include parsed

theorem while_parsed (test : Expression) (proper : test.isProper Binary64.isSafeNatural = true) :
    StatementParsed σ limit fenced (.whileLoop test body) where
  leads := ⟨_, rfl, rfl⟩
  parsed levels rest apart := by
    rw [Statement.tokens, Statement.levels, List.cons_append, List.append_assoc]
    apply takes_look
    rw [kind_ahead_cons]
    apply takes_expect rfl
    apply meets_then (meets_condition test proper levels _) (by omega)
    intro test' enough same
    apply meets_then (meets_nested_statement body parsed levels rest apart) (by omega)
    intro body' enough' same'
    exact meets_pure (by omega) (by simp [same, same'])

theorem do_while_parsed (test : Expression) (proper : test.isProper Binary64.isSafeNatural = true) :
    StatementParsed σ limit fenced (.doWhileLoop body test) where
  leads := ⟨_, rfl, rfl⟩
  parsed levels rest _ := by
    have split : (Statement.doWhileLoop body test).tokens fenced ++ rest = Keyword.doWord.token ::
        (body.tokens fenced ++ Keyword.whileWord.token ::
          (parenthesized (test.wholeTokens fenced) ++ Mark.semicolon.token :: rest)) := by
      simp
    rw [split, Statement.levels]
    apply takes_look
    rw [kind_ahead_cons]
    apply takes_expect rfl
    apply meets_then (meets_nested_statement body parsed levels _ fun _ => by simp) (by omega)
    intro body' enough same
    apply takes_expect rfl
    apply meets_then (meets_condition test proper levels _) (by omega)
    intro test' enough' same'
    apply takes_expect rfl
    exact meets_pure (by omega) (by simp [same, same'])

theorem for_parsed (init : Option ForInit) (test update : Option Expression)
    (proper : init.all (ForInit.isProper Binary64.isSafeNatural) = true)
    (proper' : test.all (Expression.isProper Binary64.isSafeNatural) = true)
    (proper'' : update.all (Expression.isProper Binary64.isSafeNatural) = true) :
    StatementParsed σ limit fenced (.forLoop init test update body) where
  leads := ⟨_, rfl, rfl⟩
  parsed levels rest apart := by
    have split : (Statement.forLoop init test update body).tokens fenced ++ rest =
        Keyword.forWord.token :: Mark.leftParen.token ::
          (init.elim [] (ForInit.tokens fenced) ++ Mark.semicolon.token ::
            (test.elim [] (Expression.wholeTokens fenced) ++ Mark.semicolon.token ::
              (update.elim [] (Expression.wholeTokens fenced) ++ Mark.rightParen.token ::
                (body.tokens fenced ++ rest)))) := by
      simp
    rw [split, Statement.levels]
    apply takes_look
    rw [kind_ahead_cons]
    apply takes_expect rfl
    apply takes_expect rfl
    apply meets_then (meets_for_init init proper levels _ rfl) (by omega)
    intro init' enough same
    apply takes_expect rfl
    apply meets_then (meets_optional_expression test proper' .semicolon rfl levels _ rfl) (by omega)
    intro test' enough' same'
    apply takes_expect rfl
    apply meets_then (meets_optional_expression update proper'' .rightParen rfl levels _ rfl) (by omega)
    intro update' enough'' same''
    apply takes_expect rfl
    apply meets_then (meets_nested_statement body parsed levels rest apart) (by omega)
    intro body' deep same'''
    exact meets_pure (by omega) (by simp [same, same', same'', same'''])

theorem conditional_parsed (test : Expression) (proper : test.isProper Binary64.isSafeNatural = true) :
    StatementParsed σ limit fenced (.conditional test body none) where
  leads := ⟨_, rfl, rfl⟩
  parsed levels rest apart := by
    have plain : kindAhead rest ≠ some (.keyword .elseWord) := apart rfl
    have absent : (kindAhead rest == some (.keyword .elseWord)) = false := by simpa using plain
    rw [Statement.tokens, Statement.levels, List.cons_append, List.append_assoc]
    apply takes_look
    rw [kind_ahead_cons]
    apply takes_expect rfl
    apply meets_then (meets_condition test proper levels _) (by omega)
    intro test' enough same
    apply meets_then (meets_nested_statement body parsed levels rest fun _ => plain) (by omega)
    intro body' enough' same'
    apply takes_ahead
    rw [absent]
    exact meets_pure (by omega) (by simp [same, same'])

theorem alternative_parsed (test : Expression) (alternate : Statement)
    (proper : test.isProper Binary64.isSafeNatural = true) (closed : body.waitsForElse = false)
    (parsed' : StatementParsed σ limit fenced alternate) :
    StatementParsed σ limit fenced (.conditional test body (some alternate)) where
  leads := ⟨_, rfl, rfl⟩
  parsed levels rest apart := by
    have split : (Statement.conditional test body (some alternate)).tokens fenced ++ rest =
        Keyword.ifWord.token :: (parenthesized (test.wholeTokens fenced) ++
          (body.tokens fenced ++ Keyword.elseWord.token :: (alternate.tokens fenced ++ rest))) := by
      simp
    rw [split, Statement.levels]
    apply takes_look
    rw [kind_ahead_cons]
    apply takes_expect rfl
    apply meets_then (meets_condition test proper levels _) (by omega)
    intro test' enough same
    apply meets_then (meets_nested_statement body parsed levels _ fun waits => by simp [closed] at waits)
      (by omega)
    intro body' enough' same'
    apply takes_ahead
    rw [kind_ahead_cons]
    apply takes_expect rfl
    apply meets_then (meets_nested_statement alternate parsed' levels rest apart) (by omega)
    intro alternate' enough'' same''
    exact meets_pure (by omega) (by simp [same, same', same''])

end Nested

mutual
theorem statement_parsed (s : Statement) (proper : s.isProper Binary64.isSafeNatural = true)
    (nearest : s.elseNearest = true) : StatementParsed σ limit fenced s := by
  match s with
  | .block body => exact block_parsed body (statements_parsed body proper nearest)
  | .empty => exact empty_parsed
  | .expression e => exact expression_statement_parsed e proper
  | .variables declarations => exact variables_parsed declarations proper
  | .conditional test consequent none =>
      simp only [Statement.isProper, Bool.and_eq_true] at proper
      exact conditional_parsed consequent (statement_parsed consequent proper.2 nearest) test proper.1
  | .conditional test consequent (some alternate) =>
      simp only [Statement.isProper, Bool.and_eq_true] at proper
      simp only [Statement.elseNearest, Bool.and_eq_true, Bool.not_eq_true'] at nearest
      exact alternative_parsed consequent (statement_parsed consequent proper.1.2 nearest.1.1) test alternate
        proper.1.1 nearest.1.2 (statement_parsed alternate proper.2 nearest.2)
  | .whileLoop test body =>
      simp only [Statement.isProper, Bool.and_eq_true] at proper
      exact while_parsed body (statement_parsed body proper.2 nearest) test proper.1
  | .doWhileLoop body test =>
      simp only [Statement.isProper, Bool.and_eq_true] at proper
      exact do_while_parsed body (statement_parsed body proper.1 nearest) test proper.2
  | .forLoop init test update body =>
      simp only [Statement.isProper, Bool.and_eq_true] at proper
      exact for_parsed body (statement_parsed body proper.2 nearest) init test update proper.1.1.1 proper.1.1.2
        proper.1.2
  | .function name params body =>
      simp only [Statement.isProper, Bool.and_eq_true] at proper
      exact function_parsed body (statements_parsed body proper.2 nearest) name params
  | .returning argument => exact returning_parsed argument proper
  | .classDeclaration id superClass body =>
      simp only [Statement.isProper, Bool.and_eq_true] at proper
      exact class_parsed body (statements_parsed body proper.2 nearest) id superClass

theorem statements_parsed (list : List Statement) (proper : properStatements Binary64.isSafeNatural list = true)
    (nearest : elsesNearest list = true) : ∀ s ∈ list, StatementParsed σ limit fenced s := by
  match list with
  | [] => simp
  | s :: rest =>
      simp only [properStatements, Bool.and_eq_true] at proper
      simp only [elsesNearest, Bool.and_eq_true] at nearest
      exact List.forall_mem_cons.mpr
        ⟨statement_parsed s proper.1 nearest.1, statements_parsed rest proper.2 nearest.2⟩
end

end ScriptFront
