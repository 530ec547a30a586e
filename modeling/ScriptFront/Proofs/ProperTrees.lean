import ScriptFront.Proofs.Phrase
import ScriptFront.Proofs.WellFormed

set_option autoImplicit false

/-! What well spelled tokens are derived to has proper parts. -/

namespace ScriptFront

open Phrase
open Binary64 (isNonnegative)

theorem Binary64.nonnegative_of_nat (n : Nat) : (ofNat n).isNonnegative = true := by
  have parts (mantissa : Nat) (exponent : Int) : (ofParts false mantissa exponent).isNonnegative = true := by
    unfold ofParts
    split <;> rfl
  unfold ofNat nearest
  split
  · rfl
  · dsimp only
    split
    · exact parts _ _
    · exact parts _ _

theorem natural_of_digits (digits : List Char) (value : Binary64)
    (found : digitsValue? digits = some value) : ∃ n, value = .ofNat n := by
  unfold digitsValue? at found
  split at found
  · contradiction
  · injection found with same
    exact ⟨_, same.symm⟩

theorem proper_name (id : Token) (kind : id.kind = .identifier) (spelled : id.wellSpelled = true) :
    (Identifier.mk id.text).isProper = true := by
  rw [Token.wellSpelled, kind] at spelled
  exact spelled

-- The quotes around a text are not inside it.
theorem proper_string (number : Binary64 → Bool) (t : Token) (kind : t.kind = .string)
    (spelled : t.wellSpelled = true) : (Literal.string (unquoted t.text)).isProper number = true := by
  rw [Token.wellSpelled, kind, TokenKind.hasLexeme] at spelled
  obtain ⟨quote, body, known, inside, text⟩ := body_of_quoted _ spelled
  have missing : body.contains quote = false := by simpa using inside
  simp only [Literal.isProper, unquoted, String.toList_ofList]
  rw [text, List.drop_one, List.tail_cons, List.dropLast_concat]
  rcases known with rfl | rfl
  · rw [missing, Bool.false_and, Bool.not_false]
  · rw [missing, Bool.and_false, Bool.not_false]

theorem proper_target (e : Expression) (place : Target) (target : e.target? = some place)
    (proper : e.isProper isNonnegative = true) : place.isProper isNonnegative = true := by
  rw [(target_eq_some_iff e place).mp target] at proper
  cases place with
  | identifier id => simpa [Target.toExpression, Expression.isProper, Target.isProper] using proper
  | member place => simpa [Target.toExpression, Expression.isProper, Target.isProper] using proper

theorem proper_operation (rung : Rung) (text : String) (build : Expression → Expression → Expression)
    (left right : Expression) (built : rung.build? Program.actions text = some build)
    (properLeft : left.isProper isNonnegative = true) (properRight : right.isProper isNonnegative = true) :
    (build left right).isProper isNonnegative = true := by
  cases rung <;> obtain ⟨operator, _, rfl⟩ := Option.map_eq_some_iff.mp built <;>
    simp [Expression.isProper, properLeft, properRight]

theorem proper_list {α : Type} (proper : α → Bool) (item : List Token → α → Prop) (u : List Token)
    (list : List α) (derived : CommaList item u list) (spelled : WellSpelled u)
    (each : ∀ v a, item v a → WellSpelled v → proper a = true) :
    !list.isEmpty ∧ list.all proper = true := by
  induction derived with
  | one u a found => simp [each u a found spelled]
  | more u v comma a rest found _ _ ih =>
      simp only [well_spelled_append, well_spelled_cons] at spelled
      simp [each u a found spelled.1, (ih spelled.2.2).2]

mutual
theorem assignment_proper (u : List Token) (e : Expression) (derived : Assignment Program.actions u e)
    (spelled : WellSpelled u) : e.isProper isNonnegative = true := by
  match u, e, derived with
  | _, _, .level u e found => exact ladder_proper _ u e found spelled
  | _, _, .assign u v op left value place operator ladder target _ _ found =>
      simp only [well_spelled_append, well_spelled_cons] at spelled
      have properLeft := ladder_proper _ u left ladder spelled.1
      have properPlace := proper_target left place target properLeft
      have properValue := assignment_proper v value found spelled.2.2
      simp [Expression.isProper, properPlace, properValue]

theorem ladder_proper (rung : Option Rung) (u : List Token) (e : Expression)
    (derived : Ladder Program.actions rung u e) (spelled : WellSpelled u) : e.isProper isNonnegative = true := by
  match rung, u, e, derived with
  | _, _, _, .tighter rung u e found => exact ladder_proper _ u e found spelled
  | _, _, _, .operator rung u v op left right build found _ built found' =>
      simp only [well_spelled_append, well_spelled_cons] at spelled
      exact proper_operation rung op.text build left right built (ladder_proper _ u left found spelled.1)
        (ladder_proper _ v right found' spelled.2.2)
  | _, _, _, .unary op v operator e _ _ found =>
      have proper := assignment_proper v e found ((well_spelled_cons op v).mp spelled).2
      simpa [Expression.isProper] using proper
  | _, _, _, .leftHandSide u e found => exact left_hand_side_proper u e found spelled

theorem left_hand_side_proper (u : List Token) (e : Expression)
    (derived : LeftHandSide Program.actions u e) (spelled : WellSpelled u) : e.isProper isNonnegative = true := by
  match u, e, derived with
  | _, _, .member u e found => exact member_proper u e found spelled
  | _, _, .calls u e found => exact calls_proper u e found spelled

theorem calls_proper (u : List Token) (e : Expression) (derived : Calls Program.actions u e)
    (spelled : WellSpelled u) : e.isProper isNonnegative = true := by
  match u, e, derived with
  | _, _, .super word v found _ list =>
      have proper := arguments_proper v found list ((well_spelled_cons word v).mp spelled).2
      simpa [Expression.isProper, Expression.isSuper] using proper
  | _, _, .member u v callee found member list =>
      obtain ⟨first, second⟩ := (well_spelled_append u v).mp spelled
      simp [Expression.isProper, member_proper u callee member first, arguments_proper v found list second]
  | _, _, .more u v callee found calls list =>
      obtain ⟨first, second⟩ := (well_spelled_append u v).mp spelled
      simp [Expression.isProper, calls_proper u callee calls first, arguments_proper v found list second]

theorem member_proper (u : List Token) (e : Expression) (derived : Phrase.Member Program.actions u e)
    (spelled : WellSpelled u) : e.isProper isNonnegative = true := by
  match u, e, derived with
  | _, _, .primary u e found => exact primary_proper u e found spelled
  | _, _, .named u dot id object found _ kind =>
      simp only [well_spelled_append, well_spelled_cons] at spelled
      have proper := member_proper u object found spelled.1
      simp [Expression.isProper, Member.isProper, proper, proper_name id kind spelled.2.2.1]
  | _, _, .computed u v open_ close object property found _ inside _ =>
      simp only [well_spelled_append, well_spelled_cons] at spelled
      have proper := member_proper u object found spelled.1
      have proper' := assignment_proper v property inside spelled.2.2.1
      simp [Expression.isProper, Member.isProper, proper, proper']

theorem primary_proper (u : List Token) (e : Expression) (derived : Primary Program.actions u e)
    (spelled : WellSpelled u) : e.isProper isNonnegative = true := by
  match u, e, derived with
  | _, _, .number t value _ digits =>
      obtain ⟨n, rfl⟩ := natural_of_digits _ value digits
      exact Binary64.nonnegative_of_nat n
  | _, _, .string t kind => exact proper_string _ t kind ((well_spelled_cons t []).mp spelled).1
  | _, _, .true _ _ => rfl
  | _, _, .false _ _ => rfl
  | _, _, .null _ _ => rfl
  | _, _, .parenthesized u open_ close e _ found _ =>
      simp only [well_spelled_append, well_spelled_cons] at spelled
      exact assignment_proper u e found spelled.2.1
  | _, _, .identifier t kind => exact proper_name t kind ((well_spelled_cons t []).mp spelled).1
  | _, _, .this _ _ => rfl
  | _, _, .new word u v callee found _ member list =>
      simp only [well_spelled_append, well_spelled_cons] at spelled
      have proper := member_proper u callee member spelled.2.1
      have proper' := arguments_proper v found list spelled.2.2
      simp [Expression.isProper, proper, proper']

theorem arguments_proper (u : List Token) (found : List Expression)
    (derived : Arguments Program.actions u found) (spelled : WellSpelled u) :
    properExpressions isNonnegative found = true := by
  match u, found, derived with
  | _, _, .none _ _ _ _ => rfl
  | _, _, .some u open_ close found _ list _ =>
      simp only [well_spelled_append, well_spelled_cons] at spelled
      exact argument_list_proper u found list spelled.2.1

theorem argument_list_proper (u : List Token) (found : List Expression)
    (derived : ArgumentList Program.actions u found) (spelled : WellSpelled u) :
    properExpressions isNonnegative found = true := by
  match u, found, derived with
  | _, _, .one u e found => simp [properExpressions, assignment_proper u e found spelled]
  | _, _, .more u v comma e rest found _ list =>
      simp only [well_spelled_append, well_spelled_cons] at spelled
      have proper := assignment_proper u e found spelled.1
      simp [properExpressions, proper, argument_list_proper v rest list spelled.2.2]
end

theorem name_proper (u : List Token) (id : Identifier) (derived : Name Program.actions u id)
    (spelled : WellSpelled u) : id.isProper = true := by
  match u, id, derived with
  | _, _, .intro t kind => exact proper_name t kind ((well_spelled_cons t []).mp spelled).1

theorem variable_declaration_proper (u : List Token) (declaration : VariableDeclaration)
    (derived : Phrase.VariableDeclaration Program.actions u declaration) (spelled : WellSpelled u) :
    declaration.isProper isNonnegative = true := by
  match u, declaration, derived with
  | _, _, .bare id kind =>
      simp [VariableDeclaration.isProper, proper_name id kind ((well_spelled_cons id []).mp spelled).1]
  | _, _, .initial id equals u e kind _ found =>
      simp only [well_spelled_cons] at spelled
      have proper := assignment_proper u e found spelled.2.2
      simp [VariableDeclaration.isProper, proper_name id kind spelled.1, proper]

theorem variables_proper (u : List Token) (declarations : List VariableDeclaration)
    (derived : Variables Program.actions u declarations) (spelled : WellSpelled u) :
    properVariables isNonnegative declarations = true := by
  match u, declarations, derived with
  | _, _, .intro word u declarations _ list =>
      obtain ⟨some, all⟩ := proper_list _ _ u declarations list ((well_spelled_cons word u).mp spelled).2
        variable_declaration_proper
      simp [properVariables, some, all]

theorem optional_expression_proper (u : List Token) (e : Option Expression)
    (derived : OptionalExpression Program.actions u e) (spelled : WellSpelled u) :
    e.all (Expression.isProper isNonnegative) = true := by
  match u, e, derived with
  | _, _, .none => rfl
  | _, _, .some u e found => exact assignment_proper u e found spelled

theorem condition_proper (u : List Token) (e : Expression) (derived : Condition Program.actions u e)
    (spelled : WellSpelled u) : e.isProper isNonnegative = true := by
  match u, e, derived with
  | _, _, .intro u open_ close e _ found _ =>
      simp only [well_spelled_append, well_spelled_cons] at spelled
      exact assignment_proper u e found spelled.2.1

theorem for_init_proper (u : List Token) (init : Option ScriptFront.ForInit)
    (derived : Phrase.ForInit Program.actions u init) (spelled : WellSpelled u) :
    init.all (ForInit.isProper isNonnegative) = true := by
  match u, init, derived with
  | _, _, .none => rfl
  | _, _, .variables u declarations found => exact variables_proper u declarations found spelled
  | _, _, .expression u e found => exact assignment_proper u e found spelled

theorem parameters_proper (u : List Token) (params : List Identifier)
    (derived : Parameters Program.actions u params) (spelled : WellSpelled u) :
    params.all Identifier.isProper = true := by
  match u, params, derived with
  | _, _, .none _ _ _ _ => rfl
  | _, _, .some u open_ close params _ list _ =>
      simp only [well_spelled_append, well_spelled_cons] at spelled
      exact (proper_list _ _ u params list spelled.2.1 name_proper).2

theorem super_class_proper (u : List Token) (parent : Option Identifier)
    (derived : SuperClass Program.actions u parent) (spelled : WellSpelled u) :
    parent.all Identifier.isProper = true := by
  match u, parent, derived with
  | _, _, .none => rfl
  | _, _, .some word id _ kind =>
      simp only [well_spelled_cons] at spelled
      exact proper_name id kind spelled.2.1

mutual
theorem statement_proper (u : List Token) (s : ScriptFront.Statement)
    (derived : Phrase.Statement Program.actions u s) (spelled : WellSpelled u) :
    s.isProper isNonnegative = true := by
  match u, s, derived with
  | _, _, .empty _ _ => rfl
  | _, _, .block u body found => exact block_proper u body found spelled
  | _, _, .variables u stop declarations found _ =>
      exact variables_proper u declarations found ((well_spelled_append u [stop]).mp spelled).1
  | _, _, .function word name u v params body _ kind list found =>
      simp only [well_spelled_append, well_spelled_cons] at spelled
      have properParams := parameters_proper u params list spelled.2.2.1
      have properBody := block_proper v body found spelled.2.2.2
      simp [Statement.isProper, proper_name name kind spelled.2.1, properParams, properBody]
  | _, _, .classDeclaration word id u v parent body _ kind extended found =>
      simp only [well_spelled_append, well_spelled_cons] at spelled
      have properParent := super_class_proper u parent extended spelled.2.2.1
      have properBody := block_proper v body found spelled.2.2.2
      simp [Statement.isProper, proper_name id kind spelled.2.1, properParent, properBody]
  | _, _, .returning word stop u argument _ found _ =>
      simp only [well_spelled_append, well_spelled_cons] at spelled
      exact optional_expression_proper u argument found spelled.2.1
  | _, _, .conditional word u v test consequent _ tested found =>
      simp only [well_spelled_append, well_spelled_cons] at spelled
      have properTest := condition_proper u test tested spelled.2.1
      simp [Statement.isProper, properTest, statement_proper v consequent found spelled.2.2]
  | _, _, .alternative word otherwise u v w test consequent alternate _ tested found _ found' =>
      simp only [well_spelled_append, well_spelled_cons] at spelled
      have properTest := condition_proper u test tested spelled.2.1
      have properConsequent := statement_proper v consequent found spelled.2.2.1
      have properAlternate := statement_proper w alternate found' spelled.2.2.2.2
      simp [Statement.isProper, properTest, properConsequent, properAlternate]
  | _, _, .whileLoop word u v test body _ tested found =>
      simp only [well_spelled_append, well_spelled_cons] at spelled
      have properTest := condition_proper u test tested spelled.2.1
      simp [Statement.isProper, properTest, statement_proper v body found spelled.2.2]
  | _, _, .doWhileLoop word again stop u v body test _ found _ tested _ =>
      simp only [well_spelled_append, well_spelled_cons] at spelled
      have properTest := condition_proper v test tested spelled.2.2.2.1
      simp [Statement.isProper, properTest, statement_proper u body found spelled.2.1]
  | _, _, .forLoop word open_ first second close u v w x init test update body _ _ found _ tested _ updated _ repeated =>
      simp only [well_spelled_append, well_spelled_cons] at spelled
      obtain ⟨_, _, inInit, _, inTest, _, inUpdate, _, inBody⟩ := spelled
      have properInit := for_init_proper u init found inInit
      have properTest := optional_expression_proper v test tested inTest
      have properUpdate := optional_expression_proper w update updated inUpdate
      simp [Statement.isProper, properInit, properTest, properUpdate, statement_proper x body repeated inBody]
  | _, _, .expression u stop e found _ =>
      exact assignment_proper u e found ((well_spelled_append u [stop]).mp spelled).1

theorem block_proper (u : List Token) (body : List ScriptFront.Statement)
    (derived : Phrase.Block Program.actions u body) (spelled : WellSpelled u) :
    properStatements isNonnegative body = true := by
  match u, body, derived with
  | _, _, .intro open_ close u body _ list _ =>
      simp only [well_spelled_append, well_spelled_cons] at spelled
      exact statements_proper u body list spelled.2.1

theorem statements_proper (u : List Token) (body : List ScriptFront.Statement)
    (derived : Phrase.Statements Program.actions u body) (spelled : WellSpelled u) :
    properStatements isNonnegative body = true := by
  match u, body, derived with
  | _, _, .none => rfl
  | _, _, .more u v first rest found list =>
      obtain ⟨here, later⟩ := (well_spelled_append u v).mp spelled
      simp [properStatements, statement_proper u first found here, statements_proper v rest list later]
end

theorem program_proper (u : List Token) (p : ScriptFront.Program)
    (derived : Phrase.Program Program.actions u p) (spelled : WellSpelled u) :
    properStatements isNonnegative p.body = true := by
  match u, p, derived with
  | _, _, .intro u body list => exact statements_proper u body list spelled

end ScriptFront
