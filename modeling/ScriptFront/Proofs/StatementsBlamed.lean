import ScriptFront.Proofs.ExpressionsBlamed

set_option autoImplicit false

/-! Failing runs of the productions of statements blame a token, and with them those of all
productions. -/

namespace ScriptFront

open Parse

variable {σ : Type} [TokenSource σ] {act : Actions} {limit : Nat}

theorem Phrase.begins_statement : Begins (Phrase.Statement act) [] := by
  obtain ⟨stop, ends, spelled⟩ := exists_well_spelled (.mark .semicolon)
  exact ⟨[stop], _, by simp [spelled], .empty stop ends⟩

namespace Grammar

theorem blames_super_class : Blames (σ := σ) limit (superClass act) (Phrase.SuperClass act) := by
  refine blames_ahead fun extended => ?_
  split
  · refine blames_bind (yields_expect _) (blames_expect _) fun _ word ⟨one, kind⟩ _ => ?_
    refine blames_bind yields_identifier blames_identifier fun _ _ ⟨id, named⟩ _ => ?_
    exact blames_pure (by simpa [one] using Phrase.SuperClass.some word id kind named)
  · exact blames_pure .none

theorem blames_empty_statement : Blames (σ := σ) limit (emptyStatement act) (Phrase.Statement act) := by
  refine blames_bind (yields_expect _) (blames_expect _) fun _ stop ⟨one, ends⟩ _ => ?_
  exact blames_pure (by simpa [one] using Phrase.Statement.empty stop ends)

variable {inner : Nested σ act} (blamed : inner.Blames limit)

include blamed

theorem blames_statements (stop : Option TokenKind) :
    Blames limit (statements act inner stop) (Phrase.Statements act) := by
  have step := yields_statement_step blamed.sound
  refine blames_bind (yields_repeat_while _ step [] [] .none)
    (blames_repeat_while (fun u done => Phrase.Statements act u done.reverse) step ?_ [] [] .none)
    fun u done list _ => ?_
  · intro u done list
    refine blames_bind blamed.sound.statement blamed.statement fun v last found _ => ?_
    refine blames_pure ?_
    simpa using Phrase.statements_append u v done.reverse last list found
  · exact blames_pure (by simpa using list)

theorem blames_block : Blames limit (block act inner) (Phrase.Block act) := by
  refine blames_bind (yields_expect _) (blames_expect _) fun _ l ⟨one, opens⟩ _ => ?_
  refine blames_bind (yields_statements blamed.sound _) (blames_statements blamed _) fun u body list _ => ?_
  refine blames_bind (yields_expect _) (blames_expect _) fun _ r ⟨one', closes⟩ _ => ?_
  exact blames_pure (by simpa [one, one'] using Phrase.Block.intro l r u body opens list closes)

theorem blames_variable_declaration :
    Blames limit (variableDeclaration act inner) (Phrase.VariableDeclaration act) := by
  refine blames_bind yields_identifier blames_identifier fun _ _ ⟨id, kind⟩ _ => ?_
  refine blames_ahead fun first => ?_
  refine blames_ahead fun second => ?_
  split
  · exact blames_pure (by simpa using Phrase.VariableDeclaration.bare id kind)
  · refine blames_bind (yields_expect _) (blames_expect _) fun _ equals ⟨one, fits⟩ _ => ?_
    refine blames_bind blamed.sound.expression blamed.expression fun u e found _ => ?_
    refine blames_pure ?_
    simpa [one] using Phrase.VariableDeclaration.initial id equals u e kind fits found

theorem blames_variable_declarations :
    Blames limit (variableDeclarations act inner) (Phrase.Variables act) := by
  refine blames_bind (yields_expect _) (blames_expect _) fun _ word ⟨one, kind⟩ _ => ?_
  refine blames_weaken (blames_comma_list _ _ (yields_variable_declaration blamed.sound)
    (blames_variable_declaration blamed)) fun u declarations list => ?_
  exact one ▸ .intro word u declarations kind list

theorem blames_variable_statement : Blames limit (variableStatement act inner) (Phrase.Statement act) := by
  refine blames_bind (yields_variable_declarations blamed.sound) (blames_variable_declarations blamed)
    fun u declarations list _ => ?_
  refine blames_bind (yields_expect _) (blames_expect _) fun _ stop ⟨one, ends⟩ _ => ?_
  exact blames_pure (by simpa [one] using Phrase.Statement.variables u stop declarations list ends)

theorem blames_optional_expression (follower : Mark) :
    Blames limit (optionalExpression act inner follower) (Phrase.OptionalExpression act) := by
  refine blames_ahead fun absent => ?_
  split
  · exact blames_pure .none
  · refine blames_bind blamed.sound.expression blamed.expression fun u e found _ => ?_
    exact blames_pure (by simpa using Phrase.OptionalExpression.some u e found)

theorem blames_condition : Blames limit (condition act inner) (Phrase.Condition act) := by
  refine blames_bind (yields_expect _) (blames_expect _) fun _ l ⟨one, opens⟩ _ => ?_
  refine blames_bind blamed.sound.expression blamed.expression fun u e found _ => ?_
  refine blames_bind (yields_expect _) (blames_expect _) fun _ r ⟨one', closes⟩ _ => ?_
  exact blames_pure (by simpa [one, one'] using Phrase.Condition.intro u l r e opens found closes)

theorem blames_if_statement : Blames limit (ifStatement act inner) (Phrase.Statement act) := by
  refine blames_bind (yields_expect _) (blames_expect _) fun _ word ⟨one, kind⟩ _ => ?_
  refine blames_bind (yields_condition blamed.sound) (blames_condition blamed) fun u test tested _ => ?_
  refine blames_bind blamed.sound.statement blamed.statement fun v consequent found _ => ?_
  refine blames_ahead fun otherwise => ?_
  split
  · refine blames_bind (yields_expect _) (blames_expect _) fun _ between ⟨one', isElse⟩ _ => ?_
    refine blames_bind blamed.sound.statement blamed.statement fun w alternate found' _ => ?_
    refine blames_pure ?_
    simpa [one, one'] using Phrase.Statement.alternative word between u v w test consequent alternate kind
      tested found isElse found'
  · exact blames_pure
      (by simpa [one] using Phrase.Statement.conditional word u v test consequent kind tested found)

theorem blames_while_statement : Blames limit (whileStatement act inner) (Phrase.Statement act) := by
  refine blames_bind (yields_expect _) (blames_expect _) fun _ word ⟨one, kind⟩ _ => ?_
  refine blames_bind (yields_condition blamed.sound) (blames_condition blamed) fun u test tested _ => ?_
  refine blames_bind blamed.sound.statement blamed.statement fun v body found _ => ?_
  exact blames_pure (by simpa [one] using Phrase.Statement.whileLoop word u v test body kind tested found)

theorem blames_do_while_statement : Blames limit (doWhileStatement act inner) (Phrase.Statement act) := by
  refine blames_bind (yields_expect _) (blames_expect _) fun _ word ⟨one, kind⟩ _ => ?_
  refine blames_bind blamed.sound.statement blamed.statement fun u body found _ => ?_
  refine blames_bind (yields_expect _) (blames_expect _) fun _ again ⟨one', kind'⟩ _ => ?_
  refine blames_bind (yields_condition blamed.sound) (blames_condition blamed) fun v test tested _ => ?_
  refine blames_bind (yields_expect _) (blames_expect _) fun _ stop ⟨one'', ends⟩ _ => ?_
  refine blames_pure ?_
  simpa [one, one', one''] using
    Phrase.Statement.doWhileLoop word again stop u v body test kind found kind' tested ends

theorem blames_for_init : Blames limit (forInit act inner) (Phrase.ForInit act) := by
  refine blames_ahead fun absent => ?_
  split
  · exact blames_pure .none
  · refine blames_ahead fun declares => ?_
    split
    · refine blames_bind (yields_variable_declarations blamed.sound) (blames_variable_declarations blamed)
        fun u declarations list _ => ?_
      exact blames_pure (by simpa using Phrase.ForInit.variables u declarations list)
    · refine blames_bind blamed.sound.expression blamed.expression fun u e found _ => ?_
      exact blames_pure (by simpa using Phrase.ForInit.expression u e found)

theorem blames_for_statement : Blames limit (forStatement act inner) (Phrase.Statement act) := by
  refine blames_bind (yields_expect _) (blames_expect _) fun _ word ⟨one, kind⟩ _ => ?_
  refine blames_bind (yields_expect _) (blames_expect _) fun _ l ⟨one', opens⟩ _ => ?_
  refine blames_bind (yields_for_init blamed.sound) (blames_for_init blamed) fun u init found _ => ?_
  refine blames_bind (yields_expect _) (blames_expect _) fun _ first ⟨isFirst, ends⟩ _ => ?_
  refine blames_bind (yields_optional_expression blamed.sound _) (blames_optional_expression blamed _)
    fun v test tested _ => ?_
  refine blames_bind (yields_expect _) (blames_expect _) fun _ second ⟨isSecond, ends'⟩ _ => ?_
  refine blames_bind (yields_optional_expression blamed.sound _) (blames_optional_expression blamed _)
    fun w update updated _ => ?_
  refine blames_bind (yields_expect _) (blames_expect _) fun _ r ⟨one'', closes⟩ _ => ?_
  refine blames_bind blamed.sound.statement blamed.statement fun x body repeated _ => ?_
  refine blames_pure ?_
  simpa [one, one', isFirst, isSecond, one''] using Phrase.Statement.forLoop word l first second r u v w x
    init test update body kind opens found ends tested ends' updated closes repeated

theorem blames_function_declaration :
    Blames limit (functionDeclaration act inner) (Phrase.Statement act) := by
  refine blames_bind (yields_expect _) (blames_expect _) fun _ word ⟨one, kind⟩ _ => ?_
  refine blames_bind yields_identifier blames_identifier fun _ _ ⟨name, named⟩ _ => ?_
  refine blames_bind (yields_expect _) (blames_expect _) fun _ l ⟨one', opens⟩ _ => ?_
  refine blames_ahead fun empty => ?_
  split
  · refine blames_pure_bind ?_
    refine blames_bind (yields_expect _) (blames_expect _) fun _ r ⟨one'', closes⟩ _ => ?_
    refine blames_bind (yields_block blamed.sound) (blames_block blamed) fun v body found _ => ?_
    refine blames_pure ?_
    simpa [one, one', one''] using Phrase.Statement.function word name [l, r] v [] body kind named
      (.none l r opens closes) found
  · refine blames_bind (yields_comma_list _ _ yields_identifier)
      (blames_comma_list _ _ yields_identifier blames_identifier) fun u params list _ => ?_
    refine blames_bind (yields_expect _) (blames_expect _) fun _ r ⟨one'', closes⟩ _ => ?_
    refine blames_bind (yields_block blamed.sound) (blames_block blamed) fun v body found _ => ?_
    refine blames_pure ?_
    simpa [one, one', one''] using Phrase.Statement.function word name (l :: (u ++ [r])) v params body kind
      named (.some u l r params opens list closes) found

theorem blames_return_statement : Blames limit (returnStatement act inner) (Phrase.Statement act) := by
  refine blames_bind (yields_expect _) (blames_expect _) fun _ word ⟨one, kind⟩ _ => ?_
  refine blames_bind (yields_optional_expression blamed.sound _) (blames_optional_expression blamed _)
    fun u argument found _ => ?_
  refine blames_bind (yields_expect _) (blames_expect _) fun _ stop ⟨one', ends⟩ _ => ?_
  refine blames_pure ?_
  simpa [one, one'] using Phrase.Statement.returning word stop u argument kind found ends

theorem blames_class_declaration : Blames limit (classDeclaration act inner) (Phrase.Statement act) := by
  refine blames_bind (yields_expect _) (blames_expect _) fun _ word ⟨one, kind⟩ _ => ?_
  refine blames_bind yields_identifier blames_identifier fun _ _ ⟨id, named⟩ _ => ?_
  refine blames_bind yields_super_class blames_super_class fun u parent extended _ => ?_
  refine blames_bind (yields_block blamed.sound) (blames_block blamed) fun v body found _ => ?_
  refine blames_pure ?_
  simpa [one] using Phrase.Statement.classDeclaration word id u v parent body kind named extended found

theorem blames_block_statement : Blames limit (blockStatement act inner) (Phrase.Statement act) := by
  refine blames_bind (yields_block blamed.sound) (blames_block blamed) fun u body found _ => ?_
  exact blames_pure (by simpa using Phrase.Statement.block u body found)

theorem blames_expression_statement :
    Blames limit (expressionStatement act inner) (Phrase.Statement act) := by
  refine blames_bind blamed.sound.expression blamed.expression fun u e found _ => ?_
  refine blames_bind (yields_expect _) (blames_expect _) fun _ stop ⟨one, ends⟩ _ => ?_
  exact blames_pure (by simpa [one] using Phrase.Statement.expression u stop e found ends)

theorem blames_statement : Blames limit (statement act inner) (Phrase.Statement act) := by
  refine blames_look fun kind => ?_
  split
  · exact blames_empty_statement
  · exact blames_block_statement blamed
  · exact blames_variable_statement blamed
  · exact blames_function_declaration blamed
  · exact blames_class_declaration blamed
  · exact blames_return_statement blamed
  · exact blames_if_statement blamed
  · exact blames_while_statement blamed
  · exact blames_do_while_statement blamed
  · exact blames_for_statement blamed
  · exact blames_expression_statement blamed

omit blamed in
theorem nested_blames (limit levels : Nat) : (nested (σ := σ) act limit levels).Blames limit := by
  induction levels with
  | zero =>
      exact ⟨nested_sound _ _, blames_too_deep Phrase.begins_statement,
        blames_too_deep Phrase.begins_assignment, blames_too_deep Phrase.begins_primary⟩
  | succ levels ih =>
      exact ⟨nested_sound _ _, blames_deeper (blames_statement ih), blames_deeper (blames_assignment ih),
        blames_deeper (blames_construction ih)⟩

omit blamed in
-- The rest of a parse, behind the first token.
theorem blames_program (limit : Nat) :
    Blames (σ := σ) limit
      (statements act (nested act limit limit) none >>= fun body => pure (act.program body))
      (Phrase.Program act) := by
  have blamed : (nested (σ := σ) act limit limit).Blames limit := nested_blames limit limit
  refine blames_bind (yields_statements blamed.sound none) (blames_statements blamed none) fun u body list _ => ?_
  exact blames_pure (by simpa using Phrase.Program.intro u body list)

end Grammar

end ScriptFront
