import ScriptFront.Grammar.Statement
import ScriptFront.Proofs.Phrase
import ScriptFront.Proofs.Reads

set_option autoImplicit false

/-! Every production takes a phrase of the grammar, and gives what the phrase builds. -/

namespace ScriptFront

open Parse

variable {σ : Type} [TokenSource σ] {act : Actions}

-- The nested productions take phrases of the grammar.
structure Nested.Sound (inner : Nested σ act) : Prop where
  statement : Yields inner.statement (Phrase.Statement act)
  expression : Yields inner.expression (Phrase.Assignment act)
  construction : Yields inner.construction (Phrase.Primary act)

namespace Phrase

theorem comma_list_append {α : Type} (item : List Token → α → Prop) (u v : List Token) (comma : Token)
    (done : List α) (a : α) (list : CommaList item u done) (isComma : comma.kind = .mark .comma)
    (last : item v a) : CommaList item (u ++ comma :: v) (done ++ [a]) := by
  induction list with
  | one u b first => exact .more u v comma b [a] first isComma (.one v a last)
  | more u w between b rest first isComma' _ ih =>
      simpa using CommaList.more u (w ++ comma :: v) between b (rest ++ [a]) first isComma' ih

theorem argument_list_of_comma_list (u : List Token) (found : List act.Expression)
    (list : CommaList (Assignment act) u found) : ArgumentList act u found := by
  induction list with
  | one u e first => exact .one u e first
  | more u v comma e rest first isComma _ ih => exact .more u v comma e rest first isComma ih

theorem statements_append (u v : List Token) (done : List act.Statement) (last : act.Statement)
    (list : Statements act u done) (found : Statement act v last) :
    Statements act (u ++ v) (done ++ [last]) := by
  induction done generalizing u with
  | nil =>
      cases list
      simpa using Statements.more v [] last [] found .none
  | cons first rest ih =>
      cases list with
      | more u w _ _ begun later =>
          simpa using Statements.more u (w ++ v) first (rest ++ [last]) begun (ih w later)

theorem arguments_ne_nil (u : List Token) (found : List act.Expression) (list : Arguments act u found) :
    u ≠ [] := by
  cases list <;> simp

theorem statement_ne_nil (u : List Token) (s : act.Statement) (found : Statement act u s) : u ≠ [] := by
  cases found with
  | block _ body found => cases found; simp
  | _ => simp

end Phrase

namespace Grammar

theorem yields_identifier : Yields (σ := σ) (identifier act) (Phrase.Name act) := by
  refine yields_bind (yields_expect _) fun u t ⟨one, kind⟩ => ?_
  exact yields_pure (by simpa [one] using Phrase.Name.intro t kind)

theorem yields_comma_step {α : Type} (item : Parse σ α) (phrase : List Token → α → Prop)
    (each : Yields item phrase) (w : List Token) (done : List α)
    (list : Phrase.CommaList phrase w done.reverse) :
    Yields (do let _ ← expect (.mark .comma); return (← item) :: done) fun v all =>
      Phrase.CommaList phrase (w ++ v) all.reverse := by
  refine yields_bind (yields_expect _) fun _ comma ⟨one, isComma⟩ => ?_
  refine yields_bind each fun v b last => ?_
  refine yields_pure ?_
  simpa [one] using Phrase.comma_list_append phrase w v comma done.reverse b list isComma last

-- Items taken one after the other, with commas between them.
theorem yields_comma_list {α : Type} (item : Parse σ α) (phrase : List Token → α → Prop)
    (each : Yields item phrase) : Yields (commaList item) (Phrase.CommaList phrase) := by
  refine yields_bind each fun u a first => ?_
  refine yields_bind (yields_repeat_while (fun w done => Phrase.CommaList phrase w done.reverse)
    (yields_comma_step item phrase each) u [a] (.one u a first)) fun v done list => ?_
  exact yields_pure (by simpa using list)

theorem yields_number_literal : Yields (σ := σ) (numberLiteral act) (Phrase.Primary act) := by
  refine yields_bind (yields_expect _) fun u t ⟨one, kind⟩ => ?_
  cases digits : digitsValue? t.text.toList with
  | none => exact yields_fail _ _
  | some value => exact yields_pure (by simpa [one] using Phrase.Primary.number t value kind digits)

theorem yields_keyword_expression (keyword : Keyword) (e : act.Expression)
    (phrase : ∀ t : Token, t.kind = .keyword keyword → Phrase.Primary act [t] e) :
    Yields (σ := σ) (keywordExpression act keyword e) (Phrase.Primary act) := by
  refine yields_bind (yields_expect _) fun u t ⟨one, kind⟩ => ?_
  exact yields_pure (by simpa [one] using phrase t kind)

variable {inner : Nested σ act} (sound : inner.Sound)

include sound

theorem yields_parenthesized : Yields (parenthesized act inner) (Phrase.Primary act) := by
  refine yields_bind (yields_expect _) fun _ l ⟨one, opens⟩ => ?_
  refine yields_bind sound.expression fun u e found => ?_
  refine yields_bind (yields_expect _) fun _ r ⟨one', closes⟩ => ?_
  exact yields_pure (by simpa [one, one'] using Phrase.Primary.parenthesized u l r e opens found closes)

theorem yields_primary : Yields (primary act inner) (Phrase.Primary act) := by
  refine yields_look fun kind => ?_
  split
  · exact yields_number_literal
  · refine yields_bind (yields_expect _) fun u t ⟨one, kind⟩ => ?_
    exact yields_pure (by simpa [one] using Phrase.Primary.string t kind)
  · exact yields_keyword_expression _ _ fun t kind => .true t kind
  · exact yields_keyword_expression _ _ fun t kind => .false t kind
  · exact yields_keyword_expression _ _ fun t kind => .null t kind
  · exact yields_parenthesized sound
  · refine yields_bind yields_identifier fun u id ⟨t, kind⟩ => ?_
    exact yields_pure (by simpa using Phrase.Primary.identifier t kind)
  · exact yields_keyword_expression _ _ fun t kind => .this t kind
  · exact sound.construction
  · intro s a s' run
    cases run

theorem yields_arguments : Yields (arguments act inner) (Phrase.Arguments act) := by
  refine yields_bind (yields_expect _) fun _ l ⟨one, opens⟩ => ?_
  refine yields_ahead fun empty => ?_
  split
  · refine yields_pure_bind ?_
    refine yields_bind (yields_expect _) fun _ r ⟨one', closes⟩ => ?_
    exact yields_pure (by simpa [one, one'] using Phrase.Arguments.none l r opens closes)
  · refine yields_bind (yields_comma_list _ _ sound.expression) fun u found list => ?_
    refine yields_bind (yields_expect _) fun _ r ⟨one', closes⟩ => ?_
    have list := Phrase.argument_list_of_comma_list u found list
    exact yields_pure (by simpa [one, one'] using Phrase.Arguments.some u l r found opens list closes)

theorem yields_member_step (object : act.Expression) :
    Yields (memberStep act inner object) fun v e =>
      v ≠ [] ∧ ∀ u, Phrase.Member act u object → Phrase.Member act (u ++ v) e := by
  refine yields_ahead fun named => ?_
  split
  · refine yields_bind (yields_expect _) fun _ dot ⟨one, isDot⟩ => ?_
    refine yields_bind yields_identifier fun _ _ ⟨id, kind⟩ => ?_
    refine yields_pure ⟨by simp [one], fun u member => ?_⟩
    simpa [one] using Phrase.Member.named u dot id object member isDot kind
  · refine yields_bind (yields_expect _) fun _ l ⟨one, opens⟩ => ?_
    refine yields_bind sound.expression fun v property found => ?_
    refine yields_bind (yields_expect _) fun _ r ⟨one', closes⟩ => ?_
    refine yields_pure ⟨by simp [one], fun u member => ?_⟩
    simpa [one, one'] using Phrase.Member.computed u v l r object property member opens found closes

theorem yields_member_expression : Yields (memberExpression act inner) (Phrase.Member act) := by
  refine yields_bind (yields_primary sound) fun u object found => ?_
  refine yields_repeat_while (Phrase.Member act) (fun w a member => ?_) u object (.primary u object found)
  exact yields_weaken (yields_member_step sound a) fun v b found => found.2 w member

theorem yields_call_step (callee : act.Expression) :
    Yields (callStep act inner callee) fun v e =>
      ∃ found, Phrase.Arguments act v found ∧ e = act.call callee found := by
  refine yields_bind (yields_arguments sound) fun v found list => ?_
  exact yields_pure ⟨found, by simpa using list, rfl⟩

theorem yields_calls (u : List Token) (callee : act.Expression)
    (first : ∀ v found, Phrase.Arguments act v found → Phrase.Calls act (u ++ v) (act.call callee found)) :
    Yields (calls act inner callee) fun v e => Phrase.Calls act (u ++ v) e := by
  refine yields_bind (yields_call_step sound callee) fun v _ ⟨found, list, same⟩ => ?_
  subst same
  simp only [← List.append_assoc]
  refine yields_repeat_while (Phrase.Calls act) (fun w a calls => ?_) (u ++ v) _ (first v found list)
  refine yields_weaken (yields_call_step sound a) fun x b ⟨found, list, same⟩ => ?_
  exact same ▸ .more w x a found calls list

theorem yields_call_expression : Yields (callExpression act inner) (Phrase.LeftHandSide act) := by
  refine yields_ahead fun isSuper => ?_
  split
  · refine yields_bind (yields_expect _) fun _ word ⟨one, kind⟩ => ?_
    refine yields_weaken (yields_calls sound [word] act.super
      fun v found list => .super word v found kind list) fun v e calls => ?_
    exact one ▸ .calls _ e calls
  · refine yields_bind (yields_member_expression sound) fun u callee member => ?_
    refine yields_ahead fun called => ?_
    split
    · refine yields_weaken (yields_calls sound u callee
        fun v found list => .member u v callee found member list) fun v e calls => ?_
      exact .calls _ e calls
    · exact yields_pure (by simpa using Phrase.LeftHandSide.member u callee member)

theorem yields_prefixed (kind : TokenKind) (known : kind = .additive ∨ kind = .logicalNot) :
    Yields (prefixed act inner kind) (Phrase.Ladder act none) := by
  refine yields_bind (yields_expect _) fun _ op ⟨one, fits⟩ => ?_
  refine yields_bind (yields_operator op) fun _ operator ⟨still, spelled⟩ => ?_
  refine yields_bind sound.expression fun v e found => ?_
  refine yields_pure ?_
  simpa [one, still] using Phrase.Ladder.unary op v operator e (fits ▸ known) spelled found

theorem yields_unary : Yields (unary act inner) (Phrase.Ladder act none) := by
  refine yields_look fun kind => ?_
  split
  · exact yields_prefixed sound _ (.inl rfl)
  · exact yields_prefixed sound _ (.inr rfl)
  · exact yields_weaken (yields_call_expression sound) fun u e found => .leftHandSide u e found

omit sound in
theorem yields_operator_step {ω : Type} [Spelled ω] (rung : Rung)
    (build : ω → act.Expression → act.Expression → act.Expression)
    (builds : ∀ text, rung.build? act text = (Spelled.ofSpelling? text).map build)
    (operand : Parse σ act.Expression) (each : Yields operand (Phrase.Ladder act rung.tighter))
    (w : List Token) (left : act.Expression) (chain : Phrase.Ladder act (some rung) w left) :
    Yields (do
      let token ← expect rung.kind
      let operator ← operator token
      let right ← operand
      return build operator left right) fun v e => Phrase.Ladder act (some rung) (w ++ v) e := by
  refine yields_bind (yields_expect _) fun _ op ⟨one, fits⟩ => ?_
  refine yields_bind (yields_operator op) fun _ operator ⟨still, spelled⟩ => ?_
  refine yields_bind each fun v right found => ?_
  refine yields_pure ?_
  have built : rung.build? act op.text = some (build operator) := by rw [builds, spelled]; rfl
  simpa [one, still] using Phrase.Ladder.operator rung w v op left right _ chain fits built found

omit sound in
-- An operand, and operators of one level with an operand behind each.
theorem yields_operator_chain {ω : Type} [Spelled ω] (rung : Rung)
    (build : ω → act.Expression → act.Expression → act.Expression)
    (builds : ∀ text, rung.build? act text = (Spelled.ofSpelling? text).map build)
    (operand : Parse σ act.Expression) (each : Yields operand (Phrase.Ladder act rung.tighter)) :
    Yields (operatorChain act build rung.kind operand) (Phrase.Ladder act (some rung)) := by
  refine yields_bind each fun u left first => ?_
  exact yields_repeat_while (Phrase.Ladder act (some rung))
    (yields_operator_step rung build builds operand each) u left (.tighter rung u left first)

theorem yields_multiplicative : Yields (multiplicative act inner) (Phrase.Ladder act (some .multiplicative)) :=
  yields_operator_chain .multiplicative act.binary (fun _ => rfl) _ (yields_unary sound)

theorem yields_additive : Yields (additive act inner) (Phrase.Ladder act (some .additive)) :=
  yields_operator_chain .additive act.binary (fun _ => rfl) _ (yields_multiplicative sound)

theorem yields_relational : Yields (relational act inner) (Phrase.Ladder act (some .relational)) :=
  yields_operator_chain .relational act.binary (fun _ => rfl) _ (yields_additive sound)

theorem yields_equality : Yields (equality act inner) (Phrase.Ladder act (some .equality)) :=
  yields_operator_chain .equality act.binary (fun _ => rfl) _ (yields_relational sound)

theorem yields_logical_and : Yields (logicalAnd act inner) (Phrase.Ladder act (some .and)) :=
  yields_operator_chain .and act.logical (fun _ => rfl) _ (yields_equality sound)

theorem yields_logical_or : Yields (logicalOr act inner) (Phrase.Ladder act (some .or)) :=
  yields_operator_chain .or act.logical (fun _ => rfl) _ (yields_logical_and sound)

theorem yields_assign_to (kind : TokenKind) (assigns : kind.isAssignment = true) (u : List Token)
    (left : act.Expression) (chain : Phrase.Ladder act (some .or) u left) :
    Yields (assignTo act inner kind left) fun v e => Phrase.Assignment act (u ++ v) e := by
  unfold assignTo
  split
  · exact yields_fail _ _
  · rename_i place target
    refine yields_bind (yields_expect _) fun _ op ⟨one, fits⟩ => ?_
    refine yields_bind (yields_operator op) fun _ operator ⟨still, spelled⟩ => ?_
    refine yields_bind sound.expression fun v value found => ?_
    refine yields_pure ?_
    simpa [one, still] using
      Phrase.Assignment.assign u v op left value place operator chain target (fits ▸ assigns) spelled found

theorem yields_assignment : Yields (assignment act inner) (Phrase.Assignment act) := by
  refine yields_bind (yields_logical_or sound) fun u left chain => ?_
  refine yields_look fun kind => ?_
  split
  · exact yields_assign_to sound _ rfl u left chain
  · exact yields_assign_to sound _ rfl u left chain
  · exact yields_pure (by simpa using Phrase.Assignment.level u left chain)

theorem yields_construction : Yields (construction act inner) (Phrase.Primary act) := by
  refine yields_bind (yields_expect _) fun _ word ⟨one, kind⟩ => ?_
  refine yields_bind (yields_member_expression sound) fun u callee member => ?_
  refine yields_bind (yields_arguments sound) fun v found list => ?_
  exact yields_pure (by simpa [one] using Phrase.Primary.new word u v callee found kind member list)

theorem yields_statement_step (u : List Token) (done : List act.Statement)
    (list : Phrase.Statements act u done.reverse) :
    Yields (do return (← inner.statement) :: done) fun v all =>
      Phrase.Statements act (u ++ v) all.reverse := by
  refine yields_bind sound.statement fun v last found => ?_
  refine yields_pure ?_
  simpa using Phrase.statements_append u v done.reverse last list found

theorem yields_statements (stop : Option TokenKind) :
    Yields (statements act inner stop) (Phrase.Statements act) := by
  refine yields_bind (yields_repeat_while (fun u done => Phrase.Statements act u done.reverse)
    (yields_statement_step sound) [] [] .none) fun u done list => ?_
  exact yields_pure (by simpa using list)

theorem yields_block : Yields (block act inner) (Phrase.Block act) := by
  refine yields_bind (yields_expect _) fun _ l ⟨one, opens⟩ => ?_
  refine yields_bind (yields_statements sound _) fun u body list => ?_
  refine yields_bind (yields_expect _) fun _ r ⟨one', closes⟩ => ?_
  exact yields_pure (by simpa [one, one'] using Phrase.Block.intro l r u body opens list closes)

theorem yields_variable_declaration :
    Yields (variableDeclaration act inner) (Phrase.VariableDeclaration act) := by
  refine yields_bind yields_identifier fun _ _ ⟨id, kind⟩ => ?_
  refine yields_ahead fun first => ?_
  refine yields_ahead fun second => ?_
  split
  · exact yields_pure (by simpa using Phrase.VariableDeclaration.bare id kind)
  · refine yields_bind (yields_expect _) fun _ equals ⟨one, fits⟩ => ?_
    refine yields_bind sound.expression fun u e found => ?_
    refine yields_pure ?_
    simpa [one] using Phrase.VariableDeclaration.initial id equals u e kind fits found

theorem yields_variable_declarations : Yields (variableDeclarations act inner) (Phrase.Variables act) := by
  refine yields_bind (yields_expect _) fun _ word ⟨one, kind⟩ => ?_
  refine yields_weaken (yields_comma_list _ _ (yields_variable_declaration sound)) fun u declarations list => ?_
  exact one ▸ .intro word u declarations kind list

theorem yields_variable_statement : Yields (variableStatement act inner) (Phrase.Statement act) := by
  refine yields_bind (yields_variable_declarations sound) fun u declarations list => ?_
  refine yields_bind (yields_expect _) fun _ stop ⟨one, ends⟩ => ?_
  exact yields_pure (by simpa [one] using Phrase.Statement.variables u stop declarations list ends)

theorem yields_optional_expression (follower : Mark) :
    Yields (optionalExpression act inner follower) (Phrase.OptionalExpression act) := by
  refine yields_ahead fun absent => ?_
  split
  · exact yields_pure .none
  · refine yields_bind sound.expression fun u e found => ?_
    exact yields_pure (by simpa using Phrase.OptionalExpression.some u e found)

theorem yields_condition : Yields (condition act inner) (Phrase.Condition act) := by
  refine yields_bind (yields_expect _) fun _ l ⟨one, opens⟩ => ?_
  refine yields_bind sound.expression fun u e found => ?_
  refine yields_bind (yields_expect _) fun _ r ⟨one', closes⟩ => ?_
  exact yields_pure (by simpa [one, one'] using Phrase.Condition.intro u l r e opens found closes)

theorem yields_if_statement : Yields (ifStatement act inner) (Phrase.Statement act) := by
  refine yields_bind (yields_expect _) fun _ word ⟨one, kind⟩ => ?_
  refine yields_bind (yields_condition sound) fun u test tested => ?_
  refine yields_bind sound.statement fun v consequent found => ?_
  refine yields_ahead fun otherwise => ?_
  split
  · refine yields_bind (yields_expect _) fun _ between ⟨one', isElse⟩ => ?_
    refine yields_bind sound.statement fun w alternate found' => ?_
    refine yields_pure ?_
    simpa [one, one'] using Phrase.Statement.alternative word between u v w test consequent alternate kind
      tested found isElse found'
  · exact yields_pure
      (by simpa [one] using Phrase.Statement.conditional word u v test consequent kind tested found)

theorem yields_while_statement : Yields (whileStatement act inner) (Phrase.Statement act) := by
  refine yields_bind (yields_expect _) fun _ word ⟨one, kind⟩ => ?_
  refine yields_bind (yields_condition sound) fun u test tested => ?_
  refine yields_bind sound.statement fun v body found => ?_
  exact yields_pure (by simpa [one] using Phrase.Statement.whileLoop word u v test body kind tested found)

theorem yields_do_while_statement : Yields (doWhileStatement act inner) (Phrase.Statement act) := by
  refine yields_bind (yields_expect _) fun _ word ⟨one, kind⟩ => ?_
  refine yields_bind sound.statement fun u body found => ?_
  refine yields_bind (yields_expect _) fun _ again ⟨one', kind'⟩ => ?_
  refine yields_bind (yields_condition sound) fun v test tested => ?_
  refine yields_bind (yields_expect _) fun _ stop ⟨one'', ends⟩ => ?_
  refine yields_pure ?_
  simpa [one, one', one''] using
    Phrase.Statement.doWhileLoop word again stop u v body test kind found kind' tested ends

theorem yields_for_init : Yields (forInit act inner) (Phrase.ForInit act) := by
  refine yields_ahead fun absent => ?_
  split
  · exact yields_pure .none
  · refine yields_ahead fun declares => ?_
    split
    · refine yields_bind (yields_variable_declarations sound) fun u declarations list => ?_
      exact yields_pure (by simpa using Phrase.ForInit.variables u declarations list)
    · refine yields_bind sound.expression fun u e found => ?_
      exact yields_pure (by simpa using Phrase.ForInit.expression u e found)

theorem yields_for_statement : Yields (forStatement act inner) (Phrase.Statement act) := by
  refine yields_bind (yields_expect _) fun _ word ⟨one, kind⟩ => ?_
  refine yields_bind (yields_expect _) fun _ l ⟨one', opens⟩ => ?_
  refine yields_bind (yields_for_init sound) fun u init found => ?_
  refine yields_bind (yields_expect _) fun _ first ⟨isFirst, ends⟩ => ?_
  refine yields_bind (yields_optional_expression sound _) fun v test tested => ?_
  refine yields_bind (yields_expect _) fun _ second ⟨isSecond, ends'⟩ => ?_
  refine yields_bind (yields_optional_expression sound _) fun w update updated => ?_
  refine yields_bind (yields_expect _) fun _ r ⟨one'', closes⟩ => ?_
  refine yields_bind sound.statement fun x body repeated => ?_
  refine yields_pure ?_
  simpa [one, one', isFirst, isSecond, one''] using Phrase.Statement.forLoop word l first second r u v w x
    init test update body kind opens found ends tested ends' updated closes repeated

theorem yields_function_declaration : Yields (functionDeclaration act inner) (Phrase.Statement act) := by
  refine yields_bind (yields_expect _) fun _ word ⟨one, kind⟩ => ?_
  refine yields_bind yields_identifier fun _ _ ⟨name, named⟩ => ?_
  refine yields_bind (yields_expect _) fun _ l ⟨one', opens⟩ => ?_
  refine yields_ahead fun empty => ?_
  split
  · refine yields_pure_bind ?_
    refine yields_bind (yields_expect _) fun _ r ⟨one'', closes⟩ => ?_
    refine yields_bind (yields_block sound) fun v body found => ?_
    refine yields_pure ?_
    simpa [one, one', one''] using Phrase.Statement.function word name [l, r] v [] body kind named
      (.none l r opens closes) found
  · refine yields_bind (yields_comma_list _ _ yields_identifier) fun u params list => ?_
    refine yields_bind (yields_expect _) fun _ r ⟨one'', closes⟩ => ?_
    refine yields_bind (yields_block sound) fun v body found => ?_
    refine yields_pure ?_
    simpa [one, one', one''] using Phrase.Statement.function word name (l :: (u ++ [r])) v params body kind
      named (.some u l r params opens list closes) found

theorem yields_return_statement : Yields (returnStatement act inner) (Phrase.Statement act) := by
  refine yields_bind (yields_expect _) fun _ word ⟨one, kind⟩ => ?_
  refine yields_bind (yields_optional_expression sound _) fun u argument found => ?_
  refine yields_bind (yields_expect _) fun _ stop ⟨one', ends⟩ => ?_
  refine yields_pure ?_
  simpa [one, one'] using Phrase.Statement.returning word stop u argument kind found ends

omit sound in
theorem yields_super_class : Yields (σ := σ) (superClass act) (Phrase.SuperClass act) := by
  refine yields_ahead fun extended => ?_
  split
  · refine yields_bind (yields_expect _) fun _ word ⟨one, kind⟩ => ?_
    refine yields_bind yields_identifier fun _ _ ⟨id, named⟩ => ?_
    exact yields_pure (by simpa [one] using Phrase.SuperClass.some word id kind named)
  · exact yields_pure .none

theorem yields_class_declaration : Yields (classDeclaration act inner) (Phrase.Statement act) := by
  refine yields_bind (yields_expect _) fun _ word ⟨one, kind⟩ => ?_
  refine yields_bind yields_identifier fun _ _ ⟨id, named⟩ => ?_
  refine yields_bind yields_super_class fun u parent extended => ?_
  refine yields_bind (yields_block sound) fun v body found => ?_
  refine yields_pure ?_
  simpa [one] using Phrase.Statement.classDeclaration word id u v parent body kind named extended found

omit sound in
theorem yields_empty_statement : Yields (σ := σ) (emptyStatement act) (Phrase.Statement act) := by
  refine yields_bind (yields_expect _) fun _ stop ⟨one, ends⟩ => ?_
  exact yields_pure (by simpa [one] using Phrase.Statement.empty stop ends)

theorem yields_block_statement : Yields (blockStatement act inner) (Phrase.Statement act) := by
  refine yields_bind (yields_block sound) fun u body found => ?_
  exact yields_pure (by simpa using Phrase.Statement.block u body found)

theorem yields_expression_statement : Yields (expressionStatement act inner) (Phrase.Statement act) := by
  refine yields_bind sound.expression fun u e found => ?_
  refine yields_bind (yields_expect _) fun _ stop ⟨one, ends⟩ => ?_
  exact yields_pure (by simpa [one] using Phrase.Statement.expression u stop e found ends)

theorem yields_statement : Yields (statement act inner) (Phrase.Statement act) := by
  refine yields_look fun kind => ?_
  split
  · exact yields_empty_statement
  · exact yields_block_statement sound
  · exact yields_variable_statement sound
  · exact yields_function_declaration sound
  · exact yields_class_declaration sound
  · exact yields_return_statement sound
  · exact yields_if_statement sound
  · exact yields_while_statement sound
  · exact yields_do_while_statement sound
  · exact yields_for_statement sound
  · exact yields_expression_statement sound

omit sound in
theorem nested_sound (limit levels : Nat) : (nested (σ := σ) act limit levels).Sound := by
  induction levels with
  | zero => exact ⟨yields_fail _ _, yields_fail _ _, yields_fail _ _⟩
  | succ levels ih =>
      exact ⟨yields_deeper (yields_statement ih), yields_deeper (yields_assignment ih),
        yields_deeper (yields_construction ih)⟩

-- The steps of the loops take tokens.

omit sound in
theorem lowers_comma_step {α : Type} (item : Parse σ α) (phrase : List Token → α → Prop)
    (each : Yields item phrase) (done : List α) :
    Lowers (do let _ ← expect (.mark .comma); return (← item) :: done) := by
  refine lowers_expect _ _ (fun _ _ => True) fun _ => ?_
  exact yields_bind each fun u a _ => yields_pure trivial

theorem lowers_member_step (object : act.Expression) : Lowers (memberStep act inner object) :=
  lowers_of_yields (yields_member_step sound object) fun _ _ found => found.1

theorem lowers_call_step (callee : act.Expression) : Lowers (callStep act inner callee) :=
  lowers_of_yields (yields_call_step sound callee)
    fun u _ ⟨found, list, _⟩ => Phrase.arguments_ne_nil u found list

omit sound in
theorem lowers_operator_step {ω : Type} [Spelled ω] (kind : TokenKind)
    (build : ω → act.Expression → act.Expression → act.Expression) {operand : Parse σ act.Expression}
    {phrase : List Token → act.Expression → Prop} (each : Yields operand phrase) (left : act.Expression) :
    Lowers (do
      let token ← expect kind
      let operator ← operator token
      let right ← operand
      return build operator left right) := by
  refine lowers_expect _ _ (fun _ _ => True) fun op => ?_
  refine yields_bind (yields_operator op) fun _ _ _ => ?_
  exact yields_bind each fun _ _ _ => yields_pure trivial

theorem lowers_statement_step (done : List act.Statement) :
    Lowers (do return (← inner.statement) :: done) := by
  refine lowers_of_yields (?_ : Yields _ fun u _ => u ≠ []) fun _ _ some => some
  refine yields_bind sound.statement fun u s found => ?_
  exact yields_pure (by simpa using Phrase.statement_ne_nil u s found)

end Grammar

end ScriptFront
