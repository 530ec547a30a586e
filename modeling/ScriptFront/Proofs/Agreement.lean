import ScriptFront.Parse
import ScriptFront.Proofs.Simulation

set_option autoImplicit false

/-! Every production agrees with itself over another source and with related actions. -/

namespace ScriptFront

open Parse

variable {σ τ : Type} [TokenSource σ] [TokenSource τ] {act act' : Actions}

section Comparing

variable {taken : Token → Prop}

-- The nested productions agree, and each takes phrases of the grammar.
structure Nested.Agree (c : Comparison σ τ taken) (rel : Actions.Relation taken act act')
    (inner : Nested σ act) (inner' : Nested τ act') : Prop where
  statement : c.Agree rel.Statement inner.statement inner'.statement
  expression : c.Agree rel.Expression inner.expression inner'.expression
  construction : c.Agree rel.Expression inner.construction inner'.construction
  sound : inner.Sound
  sound' : inner'.Sound

variable {c c' : Comparison σ τ taken}

namespace Grammar

theorem agree_comma_list {α β : Type} (values : α → β → Prop) (p : Parse σ α) (q : Parse τ β)
    (phrase : List Token → α → Prop) (phrase' : List Token → β → Prop) (yields : Yields p phrase)
    (yields' : Yields q phrase') (each : c.Agree values p q) :
    c.Agree (List.Forall₂ values) (commaList p) (commaList q) := by
  refine c.agree_bind each fun a b first => ?_
  refine c.agree_bind (?_ : c.Agree (List.Forall₂ values) _ _) fun as bs list => ?_
  · refine c.agree_repeat_while rfl (lowers_comma_step p phrase yields)
      (lowers_comma_step q phrase' yields') ?_ (.cons first .nil)
    intro as bs list
    refine c.agree_bind (c.agree_expect _) fun _ _ _ => ?_
    refine c.agree_bind each fun a b next => ?_
    exact c.agree_pure (.cons next list)
  · exact c.agree_pure (List.rel_reverse list)

variable (rel : Actions.Relation taken act act')

theorem agree_identifier : c.Agree rel.Identifier (identifier act) (identifier act') := by
  refine c.agree_bind (c.agree_expect _) fun t _ ⟨same, taken, kind⟩ => ?_
  exact c.agree_pure (same ▸ rel.identifier t taken kind)

theorem agree_super_class :
    c.Agree (Option.Rel rel.Identifier) (superClass act) (superClass act') := by
  refine c.agree_ahead fun extended => ?_
  split
  · refine c.agree_bind (c.agree_expect _) fun _ _ _ => ?_
    refine c.agree_bind (agree_identifier rel) fun _ _ id => ?_
    exact c.agree_pure (.some id)
  · exact c.agree_pure .none

theorem agree_number_literal : c.Agree rel.Expression (numberLiteral act) (numberLiteral act') := by
  refine c.agree_bind (c.agree_expect _) fun t _ ⟨same, _⟩ => ?_
  rw [← same]
  cases digitsValue? t.text.toList with
  | none => exact c.agree_fail _ _ rfl
  | some value => exact c.agree_pure (rel.number value)

theorem agree_keyword_expression (keyword : Keyword) (e : act.Expression) (e' : act'.Expression)
    (same : rel.Expression e e') :
    c.Agree rel.Expression (keywordExpression act keyword e) (keywordExpression act' keyword e') := by
  refine c.agree_bind (c.agree_expect _) fun _ _ _ => ?_
  exact c.agree_pure same

section Productions

-- Before a production takes a token it can only open the nested productions that its own hypotheses
-- name; behind the token it can open all of them.
variable {rel} {inner : Nested σ act} {inner' : Nested τ act'} (leads : c.Leads c')
  (agree : inner.Agree c' rel inner')

include leads agree

theorem agree_parenthesized :
    c.Agree rel.Expression (parenthesized act inner) (parenthesized act' inner') := by
  refine leads _ fun _ _ _ => ?_
  refine c'.agree_bind agree.expression fun _ _ same => ?_
  refine c'.agree_bind (c'.agree_expect _) fun _ _ _ => ?_
  exact c'.agree_pure same

theorem agree_arguments :
    c.Agree (List.Forall₂ rel.Expression) (arguments act inner) (arguments act' inner') := by
  refine leads _ fun _ _ _ => ?_
  refine c'.agree_ahead fun empty => ?_
  split
  · refine c'.agree_pure_bind ?_
    refine c'.agree_bind (c'.agree_expect _) fun _ _ _ => ?_
    exact c'.agree_pure .nil
  · refine c'.agree_bind (agree_comma_list _ _ _ _ _ agree.sound.expression
      agree.sound'.expression agree.expression) fun _ _ same => ?_
    refine c'.agree_bind (c'.agree_expect _) fun _ _ _ => ?_
    exact c'.agree_pure same

theorem agree_member_step (a : act.Expression) (b : act'.Expression) (same : rel.Expression a b) :
    c.Agree rel.Expression (memberStep act inner a) (memberStep act' inner' b) := by
  refine c.agree_ahead fun named => ?_
  split
  · refine leads _ fun _ _ _ => ?_
    refine c'.agree_bind (agree_identifier rel) fun _ _ property => ?_
    exact c'.agree_pure (rel.member _ _ _ _ same property)
  · refine leads _ fun _ _ _ => ?_
    refine c'.agree_bind agree.expression fun _ _ property => ?_
    refine c'.agree_bind (c'.agree_expect _) fun _ _ _ => ?_
    exact c'.agree_pure (rel.computedMember _ _ _ _ same property)

theorem agree_call_step (a : act.Expression) (b : act'.Expression) (same : rel.Expression a b) :
    c.Agree rel.Expression (callStep act inner a) (callStep act' inner' b) := by
  refine c.agree_bind (agree_arguments leads agree) fun _ _ found => ?_
  exact c.agree_pure (rel.call _ _ _ _ same found)

theorem agree_calls (a : act.Expression) (b : act'.Expression) (same : rel.Expression a b) :
    c.Agree rel.Expression (calls act inner a) (calls act' inner' b) := by
  refine c.agree_bind (agree_call_step leads agree a b same) fun _ _ same => ?_
  exact c.agree_repeat_while rfl (lowers_call_step agree.sound) (lowers_call_step agree.sound')
    (agree_call_step leads agree) same

theorem agree_prefixed (kind : TokenKind) :
    c.Agree rel.Expression (prefixed act inner kind) (prefixed act' inner' kind) := by
  refine leads _ fun op op' ⟨spelled, _⟩ => ?_
  refine c'.agree_bind (c'.agree_operator op op' spelled) fun operator _ same => ?_
  subst same
  refine c'.agree_bind agree.expression fun _ _ found => ?_
  exact c'.agree_pure (rel.unary operator _ _ found)

theorem agree_assign_to (kind : TokenKind) (a : act.Expression) (b : act'.Expression)
    (same : rel.Expression a b) :
    c.Agree rel.Expression (assignTo act inner kind a) (assignTo act' inner' kind b) := by
  unfold assignTo
  have targets := rel.target a b same
  cases left : act.target? a with
  | none =>
      rw [left] at targets
      cases right : act'.target? b with
      | none => exact c.agree_fail _ _ rfl
      | some place => rw [right] at targets; cases targets
  | some place =>
      rw [left] at targets
      cases right : act'.target? b with
      | none => rw [right] at targets; cases targets
      | some place' =>
          rw [right] at targets
          cases targets with
          | some target =>
              refine leads _ fun op op' ⟨spelled, _⟩ => ?_
              refine c'.agree_bind (c'.agree_operator op op' spelled) fun operator _ equal => ?_
              subst equal
              refine c'.agree_bind agree.expression fun _ _ value => ?_
              exact c'.agree_pure (rel.assignment operator _ _ _ _ target value)

section Operands

variable (new : c.Agree rel.Expression inner.construction inner'.construction)

include new

theorem agree_primary : c.Agree rel.Expression (primary act inner) (primary act' inner') := by
  refine c.agree_look fun kind => ?_
  split
  · exact agree_number_literal rel
  · refine c.agree_bind (c.agree_expect _) fun t _ ⟨same, _⟩ => ?_
    exact c.agree_pure (same ▸ rel.string _)
  · exact agree_keyword_expression rel _ _ _ (rel.boolean true)
  · exact agree_keyword_expression rel _ _ _ (rel.boolean false)
  · exact agree_keyword_expression rel _ _ _ rel.null
  · exact agree_parenthesized leads agree
  · refine c.agree_bind (agree_identifier rel) fun _ _ same => ?_
    exact c.agree_pure (rel.identifierExpression _ _ same)
  · exact agree_keyword_expression rel _ _ _ rel.this
  · exact new
  · exact c.agree_unexpected_primary _

theorem agree_member_expression :
    c.Agree rel.Expression (memberExpression act inner) (memberExpression act' inner') := by
  refine c.agree_bind (agree_primary leads agree new) fun _ _ same => ?_
  exact c.agree_repeat_while rfl (lowers_member_step agree.sound) (lowers_member_step agree.sound')
    (agree_member_step leads agree) same

theorem agree_call_expression :
    c.Agree rel.Expression (callExpression act inner) (callExpression act' inner') := by
  refine c.agree_ahead fun isSuper => ?_
  split
  · refine leads _ fun _ _ _ => ?_
    exact agree_calls c'.leads_self agree _ _ rel.super
  · refine c.agree_bind (agree_member_expression leads agree new) fun _ _ same => ?_
    refine c.agree_ahead fun called => ?_
    split
    · exact agree_calls leads agree _ _ same
    · exact c.agree_pure same

theorem agree_unary : c.Agree rel.Expression (unary act inner) (unary act' inner') := by
  refine c.agree_look fun kind => ?_
  split
  · exact agree_prefixed leads agree _
  · exact agree_prefixed leads agree _
  · exact agree_call_expression leads agree new

omit leads agree new in
-- The operands are phrases of the next level, so every operator step takes tokens.
theorem agree_operator_chain {ω : Type} [Spelled ω] (rung : Rung)
    (build : ω → act.Expression → act.Expression → act.Expression)
    (build' : ω → act'.Expression → act'.Expression → act'.Expression)
    (builds : ∀ operator a b e f, rel.Expression a b → rel.Expression e f →
      rel.Expression (build operator a e) (build' operator b f))
    (p : Parse σ act.Expression) (q : Parse τ act'.Expression)
    (yields : Yields p (Phrase.Ladder act rung.tighter))
    (yields' : Yields q (Phrase.Ladder act' rung.tighter)) (each : c.Agree rel.Expression p q) :
    c.Agree rel.Expression (operatorChain act build rung.kind p) (operatorChain act' build' rung.kind q) := by
  refine c.agree_bind each fun _ _ same => ?_
  refine c.agree_repeat_while (by cases rung <;> rfl) (lowers_operator_step rung.kind build yields)
    (lowers_operator_step rung.kind build' yields') ?_ same
  intro a b same
  refine c.agree_bind (c.agree_expect _) fun op op' ⟨spelled, _⟩ => ?_
  refine c.agree_bind (c.agree_operator op op' spelled) fun operator _ equal => ?_
  subst equal
  refine c.agree_bind each fun _ _ right => ?_
  exact c.agree_pure (builds operator _ _ _ _ same right)

theorem agree_multiplicative :
    c.Agree rel.Expression (multiplicative act inner) (multiplicative act' inner') :=
  agree_operator_chain .multiplicative _ _ rel.binary _ _ (yields_unary agree.sound)
    (yields_unary agree.sound') (agree_unary leads agree new)

theorem agree_additive : c.Agree rel.Expression (additive act inner) (additive act' inner') :=
  agree_operator_chain .additive _ _ rel.binary _ _ (yields_multiplicative agree.sound)
    (yields_multiplicative agree.sound') (agree_multiplicative leads agree new)

theorem agree_relational : c.Agree rel.Expression (relational act inner) (relational act' inner') :=
  agree_operator_chain .relational _ _ rel.binary _ _ (yields_additive agree.sound)
    (yields_additive agree.sound') (agree_additive leads agree new)

theorem agree_equality : c.Agree rel.Expression (equality act inner) (equality act' inner') :=
  agree_operator_chain .equality _ _ rel.binary _ _ (yields_relational agree.sound)
    (yields_relational agree.sound') (agree_relational leads agree new)

theorem agree_logical_and : c.Agree rel.Expression (logicalAnd act inner) (logicalAnd act' inner') :=
  agree_operator_chain .and _ _ rel.logical _ _ (yields_equality agree.sound)
    (yields_equality agree.sound') (agree_equality leads agree new)

theorem agree_logical_or : c.Agree rel.Expression (logicalOr act inner) (logicalOr act' inner') :=
  agree_operator_chain .or _ _ rel.logical _ _ (yields_logical_and agree.sound)
    (yields_logical_and agree.sound') (agree_logical_and leads agree new)

theorem agree_assignment : c.Agree rel.Expression (assignment act inner) (assignment act' inner') := by
  refine c.agree_bind (agree_logical_or leads agree new) fun _ _ same => ?_
  refine c.agree_look fun kind => ?_
  split
  · exact agree_assign_to leads agree _ _ _ same
  · exact agree_assign_to leads agree _ _ _ same
  · exact c.agree_pure same

end Operands

theorem agree_construction :
    c.Agree rel.Expression (construction act inner) (construction act' inner') := by
  refine leads _ fun _ _ _ => ?_
  refine c'.agree_bind (agree_member_expression c'.leads_self agree agree.construction) fun _ _ callee => ?_
  refine c'.agree_bind (agree_arguments c'.leads_self agree) fun _ _ found => ?_
  exact c'.agree_pure (rel.new _ _ _ _ callee found)

omit leads agree in
theorem agree_statements (agree : inner.Agree c rel inner') (stop : Option TokenKind) :
    c.Agree (List.Forall₂ rel.Statement) (statements act inner stop) (statements act' inner' stop) := by
  refine c.agree_bind (?_ : c.Agree (List.Forall₂ rel.Statement) _ _) fun _ _ list => ?_
  · refine c.agree_repeat_while rfl (lowers_statement_step agree.sound)
      (lowers_statement_step agree.sound') ?_ .nil
    intro _ _ list
    refine c.agree_bind agree.statement fun _ _ same => ?_
    exact c.agree_pure (.cons same list)
  · exact c.agree_pure (List.rel_reverse list)

theorem agree_block : c.Agree rel.Block (block act inner) (block act' inner') := by
  refine leads _ fun _ _ _ => ?_
  refine c'.agree_bind (agree_statements agree _) fun _ _ body => ?_
  refine c'.agree_bind (c'.agree_expect _) fun _ _ _ => ?_
  exact c'.agree_pure (rel.block _ _ body)

omit leads agree in
theorem agree_variable_declaration (agree : inner.Agree c rel inner') :
    c.Agree rel.Declaration (variableDeclaration act inner) (variableDeclaration act' inner') := by
  refine c.agree_bind (agree_identifier rel) fun _ _ id => ?_
  refine c.agree_ahead fun first => ?_
  refine c.agree_ahead fun second => ?_
  split
  · exact c.agree_pure (rel.declaration _ _ _ _ id .none)
  · refine c.agree_bind (c.agree_expect _) fun _ _ _ => ?_
    refine c.agree_bind agree.expression fun _ _ init => ?_
    exact c.agree_pure (rel.declaration _ _ _ _ id (.some init))

theorem agree_variable_declarations :
    c.Agree (List.Forall₂ rel.Declaration) (variableDeclarations act inner)
      (variableDeclarations act' inner') := by
  refine leads _ fun _ _ _ => ?_
  exact agree_comma_list _ _ _ _ _ (yields_variable_declaration agree.sound)
    (yields_variable_declaration agree.sound') (agree_variable_declaration agree)

theorem agree_variable_statement :
    c.Agree rel.Statement (variableStatement act inner) (variableStatement act' inner') := by
  refine c.agree_bind (agree_variable_declarations leads agree) fun _ _ list => ?_
  refine c.agree_bind (c.agree_expect _) fun _ _ _ => ?_
  exact c.agree_pure (rel.variableStatement _ _ list)

omit leads agree in
theorem agree_optional_expression (agree : inner.Agree c rel inner') (follower : Mark) :
    c.Agree (Option.Rel rel.Expression) (optionalExpression act inner follower)
      (optionalExpression act' inner' follower) := by
  refine c.agree_ahead fun absent => ?_
  split
  · exact c.agree_pure .none
  · refine c.agree_bind agree.expression fun _ _ same => ?_
    exact c.agree_pure (.some same)

omit leads agree in
theorem agree_condition (agree : inner.Agree c rel inner') :
    c.Agree rel.Expression (condition act inner) (condition act' inner') := by
  refine c.agree_bind (c.agree_expect _) fun _ _ _ => ?_
  refine c.agree_bind agree.expression fun _ _ same => ?_
  refine c.agree_bind (c.agree_expect _) fun _ _ _ => ?_
  exact c.agree_pure same

theorem agree_if_statement : c.Agree rel.Statement (ifStatement act inner) (ifStatement act' inner') := by
  refine leads _ fun _ _ _ => ?_
  refine c'.agree_bind (agree_condition agree) fun _ _ test => ?_
  refine c'.agree_bind agree.statement fun _ _ consequent => ?_
  refine c'.agree_ahead fun otherwise => ?_
  split
  · refine c'.agree_bind (c'.agree_expect _) fun _ _ _ => ?_
    refine c'.agree_bind agree.statement fun _ _ alternate => ?_
    exact c'.agree_pure (rel.ifStatement _ _ _ _ _ _ test consequent (.some alternate))
  · exact c'.agree_pure (rel.ifStatement _ _ _ _ _ _ test consequent .none)

theorem agree_while_statement :
    c.Agree rel.Statement (whileStatement act inner) (whileStatement act' inner') := by
  refine leads _ fun _ _ _ => ?_
  refine c'.agree_bind (agree_condition agree) fun _ _ test => ?_
  refine c'.agree_bind agree.statement fun _ _ body => ?_
  exact c'.agree_pure (rel.whileStatement _ _ _ _ test body)

theorem agree_do_while_statement :
    c.Agree rel.Statement (doWhileStatement act inner) (doWhileStatement act' inner') := by
  refine leads _ fun _ _ _ => ?_
  refine c'.agree_bind agree.statement fun _ _ body => ?_
  refine c'.agree_bind (c'.agree_expect _) fun _ _ _ => ?_
  refine c'.agree_bind (agree_condition agree) fun _ _ test => ?_
  refine c'.agree_bind (c'.agree_expect _) fun _ _ _ => ?_
  exact c'.agree_pure (rel.doWhileStatement _ _ _ _ test body)

omit leads agree in
theorem agree_for_init (agree : inner.Agree c rel inner') :
    c.Agree (Option.Rel rel.ForInit) (forInit act inner) (forInit act' inner') := by
  refine c.agree_ahead fun absent => ?_
  split
  · exact c.agree_pure .none
  · refine c.agree_ahead fun declares => ?_
    split
    · refine c.agree_bind (agree_variable_declarations c.leads_self agree) fun _ _ list => ?_
      exact c.agree_pure (.some (rel.forVariables _ _ list))
    · refine c.agree_bind agree.expression fun _ _ same => ?_
      exact c.agree_pure (.some (rel.forExpression _ _ same))

theorem agree_for_statement :
    c.Agree rel.Statement (forStatement act inner) (forStatement act' inner') := by
  refine leads _ fun _ _ _ => ?_
  refine c'.agree_bind (c'.agree_expect _) fun _ _ _ => ?_
  refine c'.agree_bind (agree_for_init agree) fun _ _ init => ?_
  refine c'.agree_bind (c'.agree_expect _) fun _ _ _ => ?_
  refine c'.agree_bind (agree_optional_expression agree _) fun _ _ test => ?_
  refine c'.agree_bind (c'.agree_expect _) fun _ _ _ => ?_
  refine c'.agree_bind (agree_optional_expression agree _) fun _ _ update => ?_
  refine c'.agree_bind (c'.agree_expect _) fun _ _ _ => ?_
  refine c'.agree_bind agree.statement fun _ _ body => ?_
  exact c'.agree_pure (rel.forStatement _ _ _ _ _ _ _ _ init test update body)

theorem agree_function_declaration :
    c.Agree rel.Statement (functionDeclaration act inner) (functionDeclaration act' inner') := by
  refine leads _ fun _ _ _ => ?_
  refine c'.agree_bind (agree_identifier rel) fun _ _ name => ?_
  refine c'.agree_bind (c'.agree_expect _) fun _ _ _ => ?_
  refine c'.agree_ahead fun empty => ?_
  split
  · refine c'.agree_pure_bind ?_
    refine c'.agree_bind (c'.agree_expect _) fun _ _ _ => ?_
    refine c'.agree_bind (agree_block c'.leads_self agree) fun _ _ body => ?_
    exact c'.agree_pure (rel.functionDeclaration _ _ _ _ _ _ name .nil body)
  · refine c'.agree_bind (agree_comma_list _ _ _ _ _ yields_identifier yields_identifier
      (agree_identifier rel)) fun _ _ params => ?_
    refine c'.agree_bind (c'.agree_expect _) fun _ _ _ => ?_
    refine c'.agree_bind (agree_block c'.leads_self agree) fun _ _ body => ?_
    exact c'.agree_pure (rel.functionDeclaration _ _ _ _ _ _ name params body)

theorem agree_return_statement :
    c.Agree rel.Statement (returnStatement act inner) (returnStatement act' inner') := by
  refine leads _ fun _ _ _ => ?_
  refine c'.agree_bind (agree_optional_expression agree _) fun _ _ argument => ?_
  refine c'.agree_bind (c'.agree_expect _) fun _ _ _ => ?_
  exact c'.agree_pure (rel.returnStatement _ _ argument)

theorem agree_class_declaration :
    c.Agree rel.Statement (classDeclaration act inner) (classDeclaration act' inner') := by
  refine leads _ fun _ _ _ => ?_
  refine c'.agree_bind (agree_identifier rel) fun _ _ id => ?_
  refine c'.agree_bind (agree_super_class rel) fun _ _ parent => ?_
  refine c'.agree_bind (agree_block c'.leads_self agree) fun _ _ body => ?_
  exact c'.agree_pure (rel.classDeclaration _ _ _ _ _ _ id parent body)

theorem agree_statement (whole : c.Agree rel.Expression inner.expression inner'.expression) :
    c.Agree rel.Statement (statement act inner) (statement act' inner') := by
  refine c.agree_look fun kind => ?_
  split
  · refine c.agree_bind (c.agree_expect _) fun _ _ _ => ?_
    exact c.agree_pure rel.emptyStatement
  · refine c.agree_bind (agree_block leads agree) fun _ _ body => ?_
    exact c.agree_pure (rel.blockStatement _ _ body)
  · exact agree_variable_statement leads agree
  · exact agree_function_declaration leads agree
  · exact agree_class_declaration leads agree
  · exact agree_return_statement leads agree
  · exact agree_if_statement leads agree
  · exact agree_while_statement leads agree
  · exact agree_do_while_statement leads agree
  · exact agree_for_statement leads agree
  · refine c.agree_bind whole fun _ _ same => ?_
    refine c.agree_bind (c.agree_expect _) fun _ _ _ => ?_
    exact c.agree_pure (rel.expressionStatement _ _ same)

end Productions

theorem nested_agree (c : LevelComparison σ τ taken) (limit levels : Nat) :
    (nested act limit levels).Agree c.toComparison rel (nested act' limit levels) := by
  induction levels with
  | zero =>
      exact ⟨c.agree_too_deep _ limit, c.agree_too_deep _ limit, c.agree_too_deep _ limit,
        nested_sound _ _, nested_sound _ _⟩
  | succ levels ih =>
      have leads := c.toComparison.leads_self
      exact ⟨c.agree_deeper (agree_statement leads ih ih.expression),
        c.agree_deeper (agree_assignment leads ih ih.construction),
        c.agree_deeper (agree_construction leads ih), nested_sound _ _, nested_sound _ _⟩

end Grammar

end Comparing

section Coupled

variable {c : StartingCoupling σ τ}

theorem Grammar.agree_program (rel : Actions.Relation c.taken act act') (limit : Nat) (s : ParseState σ)
    (t : ParseState τ) (related : c.related s t) (start : s.lookahead = none) :
    Alike c.related rel.Program (program act limit s) (program act' limit t) := by
  refine c.alike_bind s t (c.fill s t related start) ?_
  intro _ _ s' t' _ _ related'
  have bodies := agree_statements (nested_agree rel c.comparison limit limit) none
  have whole : c.Agree rel.Program _ _ := c.agree_bind bodies fun _ _ body => c.agree_pure (rel.program _ _ body)
  exact whole s' t' related'

-- Two parses from related starts give related programs or the same error.
theorem parse_from_agree (rel : Actions.Relation c.taken act act') (limit : Nat) (source : σ)
    (source' : τ) (related : c.related (.start source) (.start source')) :
    match parseFrom act limit source, parseFrom act' limit source' with
    | .ok a, .ok b => rel.Program a b
    | .error fault, .error fault' => fault = fault'
    | _, _ => False := by
  have alike := Grammar.agree_program rel limit _ _ related rfl
  unfold parseFrom
  generalize Grammar.program act limit (.start source) = left at alike
  generalize Grammar.program act' limit (.start source') = right at alike
  cases left <;> cases right
  · exact alike.1
  · exact alike
  · exact alike
  · exact alike.1

end Coupled

end ScriptFront
