import ScriptFront.Proofs.PrintedPrograms
import ScriptFront.Proofs.TokensFirst
import ScriptFront.Proofs.TreeDepth

set_option autoImplicit false

/-! How deep the tree of an accepted source can go. The nesting limit bounds every step down the tree but
those to the left operand of an operator, to the object of a member and to the callee of a call. The parser
builds these in a loop, in which no level is opened, so a chain of them can have any length. -/

namespace ScriptFront

open Parse

variable {σ : Type} [TokenSource σ]

-- No value of the nested productions is nested deeper than `n`.
structure Nested.Within (inner : Nested σ Program.actions) (n : Nat) : Prop where
  statement : Yields inner.statement fun _ s => Statement.depth 0 1 s ≤ n
  expression : Yields inner.expression fun _ e => Expression.depth 0 1 e ≤ n
  construction : Yields inner.construction fun _ e => Expression.depth 0 1 e ≤ n

theorem comma_list_within {α : Type} (depth : α → Nat) (n : Nat) (u : List Token) (list : List α)
    (derived : Phrase.CommaList (fun _ a => depth a ≤ n) u list) : ∀ a ∈ list, depth a ≤ n := by
  induction derived with
  | one u a first => simpa using first
  | more u v comma a rest first _ _ ih => simpa using ⟨first, ih⟩

theorem deepest_within {α : Type} (depth : α → Nat) (n : Nat) (list : List α) (each : ∀ a ∈ list, depth a ≤ n) :
    deepest (fun a => depth a + 1) list ≤ n + 1 :=
  (deepest_le_iff _ list _).mpr fun a member => Nat.succ_le_succ (each a member)

theorem expressions_within (n : Nat) (list : List Expression) (each : ∀ e ∈ list, e.depth 0 1 ≤ n) :
    expressionsDepth 0 1 list ≤ n + 1 :=
  expressions_depth_eq 0 1 list ▸ deepest_within _ n list each

theorem statements_within (n : Nat) (list : List Statement) (each : ∀ s ∈ list, s.depth 0 1 ≤ n) :
    statementsDepth 0 1 list ≤ n + 1 :=
  statements_depth_eq 0 1 list ▸ deepest_within _ n list each

namespace Grammar

section Productions

variable {inner : Nested σ Program.actions} {n : Nat} (within : inner.Within n)

theorem number_within (n : Nat) :
    Yields (σ := σ) (numberLiteral Program.actions) fun _ e => Expression.depth 0 1 e ≤ n := by
  refine yields_bind (yields_expect _) fun _ t _ => ?_
  split
  · exact yields_pure (Nat.zero_le _)
  · exact yields_fail _ _

theorem keyword_within (n : Nat) (keyword : Keyword) (e : Expression) (leaf : e.depth 0 1 = 0) :
    Yields (σ := σ) (keywordExpression Program.actions keyword e) fun _ e => Expression.depth 0 1 e ≤ n := by
  refine yields_bind (yields_expect _) fun _ t _ => ?_
  exact yields_pure (leaf.trans_le (Nat.zero_le _))

include within

theorem primary_within : Yields (primary Program.actions inner) fun _ e => Expression.depth 0 1 e ≤ n := by
  refine yields_look fun kind => ?_
  split
  · exact number_within n
  · exact yields_bind (yields_expect _) fun _ _ _ => yields_pure (Nat.zero_le _)
  · exact keyword_within n _ _ rfl
  · exact keyword_within n _ _ rfl
  · exact keyword_within n _ _ rfl
  · refine yields_bind (yields_expect _) fun _ _ _ => ?_
    refine yields_bind within.expression fun _ e found => ?_
    exact yields_bind (yields_expect _) fun _ _ _ => yields_pure found
  · exact yields_bind yields_identifier fun _ _ _ => yields_pure (Nat.zero_le _)
  · exact keyword_within n _ _ rfl
  · exact within.construction
  · intro s e s' run
    cases run

theorem arguments_within :
    Yields (arguments Program.actions inner) fun _ list => expressionsDepth 0 1 list ≤ n + 1 := by
  refine yields_bind (yields_expect _) fun _ _ _ => ?_
  refine yields_ahead fun empty => ?_
  split
  · refine yields_pure_bind ?_
    exact yields_bind (yields_expect _) fun _ _ _ => yields_pure (Nat.zero_le _)
  · refine yields_bind (yields_comma_list _ _ within.expression) fun u list found => ?_
    have each := comma_list_within _ n u list found
    exact yields_bind (yields_expect _) fun _ _ _ => yields_pure (expressions_within n list each)

-- The steps of the loops put what they have to the left.
theorem member_step_within (object : Expression) (small : object.depth 0 1 ≤ n + 1) :
    Yields (memberStep Program.actions inner object) fun _ e => Expression.depth 0 1 e ≤ n + 1 := by
  refine yields_ahead fun named => ?_
  split
  · refine yields_bind (yields_expect _) fun _ _ _ => ?_
    refine yields_bind yields_identifier fun _ _ _ => yields_pure ?_
    simp only [Expression.depth, Member.depth]
    omega
  · refine yields_bind (yields_expect _) fun _ _ _ => ?_
    refine yields_bind within.expression fun _ property found => ?_
    refine yields_bind (yields_expect _) fun _ _ _ => yields_pure ?_
    simp only [Expression.depth, Member.depth]
    omega

theorem member_within :
    Yields (memberExpression Program.actions inner) fun _ e => Expression.depth 0 1 e ≤ n + 1 := by
  refine yields_bind (primary_within within) fun u object found => ?_
  exact yields_repeat_while (fun _ e => Expression.depth 0 1 e ≤ n + 1)
    (fun _ a small => member_step_within within a small) u object (Nat.le_succ_of_le found)

theorem call_step_within (callee : Expression) (small : callee.depth 0 1 ≤ n + 1) :
    Yields (callStep Program.actions inner callee) fun _ e => Expression.depth 0 1 e ≤ n + 1 := by
  refine yields_bind (arguments_within within) fun _ list found => yields_pure ?_
  simp only [Expression.depth]
  omega

theorem calls_within (callee : Expression) (small : callee.depth 0 1 ≤ n + 1) :
    Yields (calls Program.actions inner callee) fun _ e => Expression.depth 0 1 e ≤ n + 1 := by
  refine yields_bind (call_step_within within callee small) fun u first found => ?_
  exact yields_repeat_while (fun _ e => Expression.depth 0 1 e ≤ n + 1)
    (fun _ a small => call_step_within within a small) u first found

theorem call_within :
    Yields (callExpression Program.actions inner) fun _ e => Expression.depth 0 1 e ≤ n + 1 := by
  refine yields_ahead fun isSuper => ?_
  split
  · exact yields_bind (yields_expect _) fun _ _ _ => calls_within within .super (Nat.zero_le _)
  · refine yields_bind (member_within within) fun _ e found => ?_
    refine yields_ahead fun called => ?_
    split
    · exact calls_within within e found
    · exact yields_pure found

theorem prefixed_within (kind : TokenKind) :
    Yields (prefixed Program.actions inner kind) fun _ e => Expression.depth 0 1 e ≤ n + 1 := by
  refine yields_bind (yields_expect _) fun _ op _ => ?_
  refine yields_bind (yields_operator op) fun _ operator _ => ?_
  exact yields_bind within.expression fun _ e found => yields_pure (Nat.succ_le_succ found)

theorem unary_within : Yields (unary Program.actions inner) fun _ e => Expression.depth 0 1 e ≤ n + 1 := by
  refine yields_look fun kind => ?_
  split
  · exact prefixed_within within _
  · exact prefixed_within within _
  · exact call_within within

omit within in
-- A level adds one to the right and nothing to the left, however many operators there are.
theorem operator_chain_within {ω : Type} [Spelled ω] (build : ω → Expression → Expression → Expression)
    (built : ∀ operator left right,
      (build operator left right).depth 0 1 = max (left.depth 0 1) (right.depth 0 1 + 1))
    (kind : TokenKind) (operand : Parse σ Expression) (m : Nat)
    (each : Yields operand fun _ e => e.depth 0 1 ≤ m) :
    Yields (operatorChain Program.actions build kind operand) fun _ e => Expression.depth 0 1 e ≤ m + 1 := by
  refine yields_bind each fun u first found => ?_
  refine yields_repeat_while (fun _ e => Expression.depth 0 1 e ≤ m + 1) (fun _ left small => ?_) u first
    (Nat.le_succ_of_le found)
  refine yields_bind (yields_expect _) fun _ op _ => ?_
  refine yields_bind (yields_operator op) fun _ operator _ => ?_
  refine yields_bind each fun _ right found' => yields_pure ?_
  rw [built]
  omega

theorem logical_or_within :
    Yields (logicalOr Program.actions inner) fun _ e => Expression.depth 0 1 e ≤ n + 7 := by
  have binary (operator : BinaryOperator) (left right : Expression) :
      (Expression.binary operator left right).depth 0 1 = max (left.depth 0 1) (right.depth 0 1 + 1) := by
    simp [Expression.depth]
  have logical (operator : LogicalOperator) (left right : Expression) :
      (Expression.logical operator left right).depth 0 1 = max (left.depth 0 1) (right.depth 0 1 + 1) := by
    simp [Expression.depth]
  have first := operator_chain_within Expression.binary binary .multiplicative _ (n + 1) (unary_within within)
  have second := operator_chain_within Expression.binary binary .additive _ (n + 2) first
  have third := operator_chain_within Expression.binary binary .relational _ (n + 3) second
  have fourth := operator_chain_within Expression.binary binary .equality _ (n + 4) third
  have fifth := operator_chain_within Expression.logical logical .logicalAnd _ (n + 5) fourth
  exact operator_chain_within Expression.logical logical .logicalOr _ (n + 6) fifth

omit within in
theorem target_depth (e : Expression) (target : Target) (found : e.target? = some target) :
    target.depth 0 1 = e.depth 0 1 := by
  obtain rfl := (target_eq_some_iff e target).mp found
  cases target <;> rfl

theorem assign_to_within (kind : TokenKind) (left : Expression) (small : left.depth 0 1 ≤ n + 7) :
    Yields (assignTo Program.actions inner kind left) fun _ e => Expression.depth 0 1 e ≤ n + 8 := by
  unfold assignTo
  split
  · exact yields_fail _ _
  · rename_i target found
    have same := target_depth left target found
    refine yields_bind (yields_expect _) fun _ op _ => ?_
    refine yields_bind (yields_operator op) fun _ operator _ => ?_
    refine yields_bind within.expression fun _ value found => yields_pure ?_
    simp only [Expression.depth]
    omega

theorem assignment_within :
    Yields (assignment Program.actions inner) fun _ e => Expression.depth 0 1 e ≤ n + 8 := by
  refine yields_bind (logical_or_within within) fun _ left found => ?_
  refine yields_look fun kind => ?_
  split
  · exact assign_to_within within _ left found
  · exact assign_to_within within _ left found
  · exact yields_pure (Nat.le_succ_of_le found)

theorem construction_within :
    Yields (construction Program.actions inner) fun _ e => Expression.depth 0 1 e ≤ n + 8 := by
  refine yields_bind (yields_expect _) fun _ _ _ => ?_
  refine yields_bind (member_within within) fun _ callee found => ?_
  refine yields_bind (arguments_within within) fun _ list found' => yields_pure ?_
  simp only [Expression.depth]
  omega

theorem body_within (stop : Option TokenKind) :
    Yields (statements Program.actions inner stop) fun _ body => statementsDepth 0 1 body ≤ n + 1 := by
  refine yields_bind (yields_repeat_while (fun _ done => ∀ s ∈ done, Statement.depth 0 1 s ≤ n)
    (fun _ done small => ?_) [] [] nofun) fun _ done small => ?_
  · refine yields_bind within.statement fun _ s found => yields_pure ?_
    simpa using ⟨found, small⟩
  · exact yields_pure (statements_within n _ (by simpa using small))

theorem block_within :
    Yields (block Program.actions inner) fun _ body => statementsDepth 0 1 body ≤ n + 1 := by
  refine yields_bind (yields_expect _) fun _ _ _ => ?_
  refine yields_bind (body_within within _) fun _ body found => ?_
  exact yields_bind (yields_expect _) fun _ _ _ => yields_pure found

theorem variable_declaration_within :
    Yields (variableDeclaration Program.actions inner) fun _ d => VariableDeclaration.depth 0 1 d ≤ n + 1 := by
  refine yields_bind yields_identifier fun _ _ _ => ?_
  refine yields_ahead fun first => ?_
  refine yields_ahead fun second => ?_
  split
  · exact yields_pure (by simp [VariableDeclaration.depth, partDepth])
  · refine yields_bind (yields_expect _) fun _ _ _ => ?_
    refine yields_bind within.expression fun _ e found => yields_pure ?_
    simp only [VariableDeclaration.depth, partDepth, Option.elim]
    omega

theorem variable_declarations_within :
    Yields (variableDeclarations Program.actions inner) fun _ list => declarationsDepth 0 1 list ≤ n + 2 := by
  refine yields_bind (yields_expect _) fun _ _ _ => ?_
  refine yields_weaken (yields_comma_list _ _ (variable_declaration_within within)) fun u list found => ?_
  exact deepest_within _ (n + 1) list (comma_list_within _ (n + 1) u list found)

theorem optional_expression_within (follower : Mark) :
    Yields (optionalExpression Program.actions inner follower) fun _ e =>
      partDepth 1 (Expression.depth 0 1) e ≤ n + 1 := by
  refine yields_ahead fun absent => ?_
  split
  · exact yields_pure (Nat.zero_le _)
  · exact yields_bind within.expression fun _ e found => yields_pure (Nat.succ_le_succ found)

theorem condition_within : Yields (condition Program.actions inner) fun _ e => Expression.depth 0 1 e ≤ n := by
  refine yields_bind (yields_expect _) fun _ _ _ => ?_
  refine yields_bind within.expression fun _ e found => ?_
  exact yields_bind (yields_expect _) fun _ _ _ => yields_pure found

theorem if_within : Yields (ifStatement Program.actions inner) fun _ s => Statement.depth 0 1 s ≤ n + 8 := by
  refine yields_bind (yields_expect _) fun _ _ _ => ?_
  refine yields_bind (condition_within within) fun _ test found => ?_
  refine yields_bind within.statement fun _ consequent found' => ?_
  refine yields_ahead fun otherwise => ?_
  split
  · refine yields_bind (yields_expect _) fun _ _ _ => ?_
    refine yields_bind within.statement fun _ alternate found'' => yields_pure ?_
    simp only [Statement.depth]
    omega
  · refine yields_pure ?_
    simp only [Statement.depth]
    omega

theorem while_within : Yields (whileStatement Program.actions inner) fun _ s => Statement.depth 0 1 s ≤ n + 8 := by
  refine yields_bind (yields_expect _) fun _ _ _ => ?_
  refine yields_bind (condition_within within) fun _ test found => ?_
  refine yields_bind within.statement fun _ body found' => yields_pure ?_
  simp only [Statement.depth]
  omega

theorem do_while_within :
    Yields (doWhileStatement Program.actions inner) fun _ s => Statement.depth 0 1 s ≤ n + 8 := by
  refine yields_bind (yields_expect _) fun _ _ _ => ?_
  refine yields_bind within.statement fun _ body found => ?_
  refine yields_bind (yields_expect _) fun _ _ _ => ?_
  refine yields_bind (condition_within within) fun _ test found' => ?_
  refine yields_bind (yields_expect _) fun _ _ _ => yields_pure ?_
  simp only [Statement.depth]
  omega

theorem for_init_within :
    Yields (forInit Program.actions inner) fun _ init => partDepth 1 (ForInit.depth 0 1) init ≤ n + 3 := by
  refine yields_ahead fun absent => ?_
  split
  · exact yields_pure (Nat.zero_le _)
  · refine yields_ahead fun declares => ?_
    split
    · exact yields_bind (variable_declarations_within within) fun _ _ found => yields_pure (Nat.succ_le_succ found)
    · refine yields_bind within.expression fun _ e found => yields_pure ?_
      simp only [partDepth, Option.elim, ForInit.depth]
      omega

theorem for_within : Yields (forStatement Program.actions inner) fun _ s => Statement.depth 0 1 s ≤ n + 8 := by
  refine yields_bind (yields_expect _) fun _ _ _ => ?_
  refine yields_bind (yields_expect _) fun _ _ _ => ?_
  refine yields_bind (for_init_within within) fun _ init first => ?_
  refine yields_bind (yields_expect _) fun _ _ _ => ?_
  refine yields_bind (optional_expression_within within _) fun _ test second => ?_
  refine yields_bind (yields_expect _) fun _ _ _ => ?_
  refine yields_bind (optional_expression_within within _) fun _ update third => ?_
  refine yields_bind (yields_expect _) fun _ _ _ => ?_
  refine yields_bind within.statement fun _ body last => yields_pure ?_
  simp only [Statement.depth]
  omega

theorem function_within :
    Yields (functionDeclaration Program.actions inner) fun _ s => Statement.depth 0 1 s ≤ n + 8 := by
  refine yields_bind (yields_expect _) fun _ _ _ => ?_
  refine yields_bind yields_identifier fun _ _ _ => ?_
  refine yields_bind (yields_expect _) fun _ _ _ => ?_
  have last (name : Identifier) (params : List Identifier) :
      Yields (block Program.actions inner >>= fun body => pure (Statement.function name params body)) fun _ s =>
        Statement.depth 0 1 s ≤ n + 8 := by
    refine yields_bind (block_within within) fun _ body found => yields_pure ?_
    simp only [Statement.depth]
    omega
  refine yields_ahead fun empty => ?_
  split
  · refine yields_pure_bind ?_
    exact yields_bind (yields_expect _) fun _ _ _ => last _ _
  · refine yields_bind (yields_comma_list _ _ yields_identifier) fun _ _ _ => ?_
    exact yields_bind (yields_expect _) fun _ _ _ => last _ _

theorem return_within :
    Yields (returnStatement Program.actions inner) fun _ s => Statement.depth 0 1 s ≤ n + 8 := by
  refine yields_bind (yields_expect _) fun _ _ _ => ?_
  refine yields_bind (optional_expression_within within _) fun _ argument found => ?_
  refine yields_bind (yields_expect _) fun _ _ _ => yields_pure ?_
  simp only [Statement.depth]
  omega

theorem class_within :
    Yields (classDeclaration Program.actions inner) fun _ s => Statement.depth 0 1 s ≤ n + 8 := by
  refine yields_bind (yields_expect _) fun _ _ _ => ?_
  refine yields_bind yields_identifier fun _ _ _ => ?_
  refine yields_bind yields_super_class fun _ _ _ => ?_
  refine yields_bind (block_within within) fun _ body found => yields_pure ?_
  simp only [Statement.depth]
  omega

theorem statement_within : Yields (statement Program.actions inner) fun _ s => Statement.depth 0 1 s ≤ n + 8 := by
  refine yields_look fun kind => ?_
  split
  · exact yields_bind (yields_expect _) fun _ _ _ => yields_pure (Nat.zero_le _)
  · refine yields_bind (block_within within) fun _ body found => yields_pure ?_
    simp only [Statement.depth]
    omega
  · refine yields_bind (variable_declarations_within within) fun _ list found => ?_
    refine yields_bind (yields_expect _) fun _ _ _ => yields_pure ?_
    simp only [Statement.depth]
    omega
  · exact function_within within
  · exact class_within within
  · exact return_within within
  · exact if_within within
  · exact while_within within
  · exact do_while_within within
  · exact for_within within
  · refine yields_bind within.expression fun _ e found => ?_
    refine yields_bind (yields_expect _) fun _ _ _ => yields_pure ?_
    simp only [Statement.depth]
    omega

end Productions

theorem nested_within (limit levels : Nat) :
    (nested (σ := σ) Program.actions limit levels).Within (8 * levels) := by
  induction levels with
  | zero => exact ⟨yields_fail _ _, yields_fail _ _, yields_fail _ _⟩
  | succ levels ih =>
      exact ⟨yields_deeper (statement_within ih), yields_deeper (assignment_within ih),
        yields_deeper (construction_within ih)⟩

end Grammar

theorem nesting_within (source : String) (program : Program) (parsed : parse Program.actions source = .ok program) :
    program.nesting ≤ 8 * maxNesting + 1 := by
  obtain ⟨next, behind, body, s', _, built, run⟩ := statements_of_parse Program.actions source program parsed
  obtain ⟨_, small, _⟩ := Grammar.body_within (Grammar.nested_within maxNesting maxNesting) none _ body s' run
  rw [built]
  exact small

end ScriptFront
