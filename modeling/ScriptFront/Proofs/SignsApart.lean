import ScriptFront.Proofs.Phrase

set_option autoImplicit false

/-! In a program no sign of a product stands right before another one or before an assignment with an
operator, so no two tokens of it can look like the beginning of a comment. -/

namespace ScriptFront

-- Goes over tokens with whether a sign of a product came last, and fails where it must not have.
def signs (multiplied : Bool) : List Token → Option Bool
  | [] => some multiplied
  | t :: rest =>
      if multiplied && (t.kind == .multiplicative || t.kind == .complexAssign) then none
      else signs (t.kind == .multiplicative) rest

-- Tokens that can stand behind a token of any other kind.
def SignsApart (u : List Token) : Prop :=
  signs false u = some false

-- Tokens that can stand behind a sign of a product too.
def SignsAfterProduct (u : List Token) : Prop :=
  signs true u = some false

theorem signs_append (multiplied : Bool) (u v : List Token) :
    signs multiplied (u ++ v) = (signs multiplied u).bind fun last => signs last v := by
  induction u generalizing multiplied with
  | nil => rfl
  | cons t u ih =>
      simp only [List.cons_append, signs]
      split
      · rfl
      · exact ih _

theorem apart_of_after_product (u : List Token) (strict : SignsAfterProduct u) : SignsApart u := by
  cases u with
  | nil => rfl
  | cons t u =>
      simp only [SignsAfterProduct, signs, Bool.true_and] at strict
      split at strict
      · contradiction
      · rw [SignsApart, signs, Bool.false_and, if_neg Bool.false_ne_true]
        exact strict

theorem apart_append (u v : List Token) (first : SignsApart u) (second : SignsApart v) : SignsApart (u ++ v) := by
  rw [SignsApart, signs_append, show signs false u = some false from first]
  exact second

theorem after_product_append (u v : List Token) (first : SignsAfterProduct u) (second : SignsApart v) :
    SignsAfterProduct (u ++ v) := by
  rw [SignsAfterProduct, signs_append, show signs true u = some false from first]
  exact second

-- A token that is no sign of a product.
theorem apart_cons (t : Token) (u : List Token) (plain : t.kind ≠ .multiplicative) (later : SignsApart u) :
    SignsApart (t :: u) := by
  rw [SignsApart, signs, Bool.false_and, if_neg Bool.false_ne_true, beq_eq_false_iff_ne.mpr plain]
  exact later

theorem apart_one (t : Token) (plain : t.kind ≠ .multiplicative) : SignsApart [t] :=
  apart_cons t [] plain rfl

theorem after_product_cons (t : Token) (u : List Token) (plain : t.kind ≠ .multiplicative)
    (plain' : t.kind ≠ .complexAssign) (later : SignsApart u) : SignsAfterProduct (t :: u) := by
  rw [SignsAfterProduct, signs, beq_eq_false_iff_ne.mpr plain, beq_eq_false_iff_ne.mpr plain']
  exact later

theorem apart_product (t : Token) (u : List Token) (later : SignsAfterProduct u) : SignsApart (t :: u) := by
  by_cases multiplies : t.kind = .multiplicative
  · rw [SignsApart, signs, Bool.false_and, if_neg Bool.false_ne_true, beq_iff_eq.mpr multiplies]
    exact later
  · exact apart_cons t u multiplies (apart_of_after_product u later)

namespace Phrase

theorem comma_list_apart {α : Type} (item : List Token → α → Prop) (u : List Token) (list : List α)
    (derived : CommaList item u list) (each : ∀ v a, item v a → SignsApart v) : SignsApart u := by
  induction derived with
  | one u a found => exact each u a found
  | more u v comma a rest found kind _ ih =>
      exact apart_append u _ (each u a found) (apart_cons comma v (by simp [kind]) ih)

variable {act : Actions}

mutual
theorem assignment_apart (u : List Token) (e : act.Expression) (derived : Assignment act u e) :
    SignsAfterProduct u := by
  match u, e, derived with
  | _, _, .level u e found => exact ladder_apart _ u e found
  | _, _, .assign u v op left value place operator ladder target kind _ found =>
      have plain : op.kind ≠ .multiplicative := by
        intro multiplies
        rw [multiplies] at kind
        contradiction
      have value := apart_of_after_product v (assignment_apart v value found)
      exact after_product_append u _ (ladder_apart _ u left ladder) (apart_cons op v plain value)

theorem ladder_apart (rung : Option Rung) (u : List Token) (e : act.Expression)
    (derived : Ladder act rung u e) : SignsAfterProduct u := by
  match rung, u, e, derived with
  | _, _, _, .tighter rung u e found => exact ladder_apart _ u e found
  | _, _, _, .operator rung u v op left right build found _ _ found' =>
      exact after_product_append u _ (ladder_apart _ u left found) (apart_product op v (ladder_apart _ v right found'))
  | _, _, _, .unary op v operator e kind _ found =>
      have inside := apart_of_after_product v (assignment_apart v e found)
      rcases kind with kind | kind
      · exact after_product_cons op v (by simp [kind]) (by simp [kind]) inside
      · exact after_product_cons op v (by simp [kind]) (by simp [kind]) inside
  | _, _, _, .leftHandSide u e found => exact left_hand_side_apart u e found

theorem left_hand_side_apart (u : List Token) (e : act.Expression) (derived : LeftHandSide act u e) :
    SignsAfterProduct u := by
  match u, e, derived with
  | _, _, .member u e found => exact member_apart u e found
  | _, _, .calls u e found => exact calls_apart u e found

theorem calls_apart (u : List Token) (e : act.Expression) (derived : Calls act u e) : SignsAfterProduct u := by
  match u, e, derived with
  | _, _, .super word v found kind list =>
      exact after_product_cons word v (by simp [kind]) (by simp [kind]) (arguments_apart v found list)
  | _, _, .member u v callee found member list =>
      exact after_product_append u v (member_apart u callee member) (arguments_apart v found list)
  | _, _, .more u v callee found calls list =>
      exact after_product_append u v (calls_apart u callee calls) (arguments_apart v found list)

theorem member_apart (u : List Token) (e : act.Expression) (derived : Member act u e) :
    SignsAfterProduct u := by
  match u, e, derived with
  | _, _, .primary u e found => exact primary_apart u e found
  | _, _, .named u dot id object found kind kind' =>
      have behind := apart_cons dot [id] (by simp [kind]) (apart_one id (by simp [kind']))
      exact after_product_append u _ (member_apart u object found) behind
  | _, _, .computed u v open_ close object property found kind inside kind' =>
      have within := apart_of_after_product v (assignment_apart v property inside)
      have behind := apart_append v [close] within (apart_one close (by simp [kind']))
      exact after_product_append u _ (member_apart u object found) (apart_cons open_ _ (by simp [kind]) behind)

theorem primary_apart (u : List Token) (e : act.Expression) (derived : Primary act u e) :
    SignsAfterProduct u := by
  match u, e, derived with
  | _, _, .number t value kind _ => exact after_product_cons t [] (by simp [kind]) (by simp [kind]) rfl
  | _, _, .string t kind => exact after_product_cons t [] (by simp [kind]) (by simp [kind]) rfl
  | _, _, .true t kind => exact after_product_cons t [] (by simp [kind]) (by simp [kind]) rfl
  | _, _, .false t kind => exact after_product_cons t [] (by simp [kind]) (by simp [kind]) rfl
  | _, _, .null t kind => exact after_product_cons t [] (by simp [kind]) (by simp [kind]) rfl
  | _, _, .parenthesized u open_ close e kind found kind' =>
      have within := apart_of_after_product u (assignment_apart u e found)
      have behind := apart_append u [close] within (apart_one close (by simp [kind']))
      exact after_product_cons open_ _ (by simp [kind]) (by simp [kind]) behind
  | _, _, .identifier t kind => exact after_product_cons t [] (by simp [kind]) (by simp [kind]) rfl
  | _, _, .this t kind => exact after_product_cons t [] (by simp [kind]) (by simp [kind]) rfl
  | _, _, .new word u v callee found kind member list =>
      have callee := apart_of_after_product u (member_apart u callee member)
      have behind := apart_append u v callee (arguments_apart v found list)
      exact after_product_cons word _ (by simp [kind]) (by simp [kind]) behind

theorem arguments_apart (u : List Token) (found : List act.Expression) (derived : Arguments act u found) :
    SignsApart u := by
  match u, found, derived with
  | _, _, .none open_ close kind kind' =>
      exact apart_cons open_ [close] (by simp [kind]) (apart_one close (by simp [kind']))
  | _, _, .some u open_ close found kind list kind' =>
      have behind := apart_append u [close] (argument_list_apart u found list) (apart_one close (by simp [kind']))
      exact apart_cons open_ _ (by simp [kind]) behind

theorem argument_list_apart (u : List Token) (found : List act.Expression)
    (derived : ArgumentList act u found) : SignsApart u := by
  match u, found, derived with
  | _, _, .one u e found => exact apart_of_after_product u (assignment_apart u e found)
  | _, _, .more u v comma e rest found kind list =>
      have first := apart_of_after_product u (assignment_apart u e found)
      exact apart_append u _ first (apart_cons comma v (by simp [kind]) (argument_list_apart v rest list))
end

theorem expression_apart (u : List Token) (e : act.Expression) (derived : Assignment act u e) : SignsApart u :=
  apart_of_after_product u (assignment_apart u e derived)

theorem name_apart (u : List Token) (id : act.Identifier) (derived : Name act u id) : SignsApart u := by
  cases derived with
  | intro t kind => exact apart_one t (by simp [kind])

theorem variable_declaration_apart (u : List Token) (declaration : act.Declaration)
    (derived : VariableDeclaration act u declaration) : SignsApart u := by
  cases derived with
  | bare id kind => exact apart_one id (by simp [kind])
  | initial id equals u e kind kind' found =>
      exact apart_cons id _ (by simp [kind]) (apart_cons equals u (by simp [kind']) (expression_apart u e found))

theorem variables_apart (u : List Token) (declarations : List act.Declaration)
    (derived : Variables act u declarations) : SignsApart u := by
  cases derived with
  | intro word u declarations kind list =>
      exact apart_cons word u (by simp [kind]) (comma_list_apart _ u declarations list variable_declaration_apart)

theorem optional_expression_apart (u : List Token) (e : Option act.Expression)
    (derived : OptionalExpression act u e) : SignsApart u := by
  cases derived with
  | none => rfl
  | some u e found => exact expression_apart u e found

theorem condition_apart (u : List Token) (e : act.Expression) (derived : Condition act u e) : SignsApart u := by
  cases derived with
  | intro u open_ close e kind found kind' =>
      have behind := apart_append u [close] (expression_apart u e found) (apart_one close (by simp [kind']))
      exact apart_cons open_ _ (by simp [kind]) behind

theorem for_init_apart (u : List Token) (init : Option act.ForInit) (derived : ForInit act u init) :
    SignsApart u := by
  cases derived with
  | none => rfl
  | «variables» u declarations found => exact variables_apart u declarations found
  | expression u e found => exact expression_apart u e found

theorem parameters_apart (u : List Token) (params : List act.Identifier) (derived : Parameters act u params) :
    SignsApart u := by
  cases derived with
  | none open_ close kind kind' =>
      exact apart_cons open_ [close] (by simp [kind]) (apart_one close (by simp [kind']))
  | some u open_ close params kind list kind' =>
      have within := comma_list_apart _ u params list name_apart
      exact apart_cons open_ _ (by simp [kind]) (apart_append u [close] within (apart_one close (by simp [kind'])))

theorem super_class_apart (u : List Token) (parent : Option act.Identifier) (derived : SuperClass act u parent) :
    SignsApart u := by
  cases derived with
  | none => rfl
  | some word id kind kind' => exact apart_cons word [id] (by simp [kind]) (apart_one id (by simp [kind']))

mutual
theorem statement_apart (u : List Token) (s : act.Statement) (derived : Statement act u s) : SignsApart u := by
  match u, s, derived with
  | _, _, .empty stop kind => exact apart_one stop (by simp [kind])
  | _, _, .block u body found => exact block_apart u body found
  | _, _, .variables u stop declarations found kind =>
      exact apart_append u [stop] (variables_apart u declarations found) (apart_one stop (by simp [kind]))
  | _, _, .function word name u v params body kind kind' list found =>
      have behind := apart_append u v (parameters_apart u params list) (block_apart v body found)
      exact apart_cons word _ (by simp [kind]) (apart_cons name _ (by simp [kind']) behind)
  | _, _, .classDeclaration word id u v parent body kind kind' parent' found =>
      have behind := apart_append u v (super_class_apart u parent parent') (block_apart v body found)
      exact apart_cons word _ (by simp [kind]) (apart_cons id _ (by simp [kind']) behind)
  | _, _, .returning word stop u argument kind found kind' =>
      have behind := apart_append u [stop] (optional_expression_apart u argument found)
        (apart_one stop (by simp [kind']))
      exact apart_cons word _ (by simp [kind]) behind
  | _, _, .conditional word u v test consequent kind found found' =>
      have behind := apart_append u v (condition_apart u test found) (statement_apart v consequent found')
      exact apart_cons word _ (by simp [kind]) behind
  | _, _, .alternative word otherwise u v w test consequent alternate kind found found' kind' found'' =>
      have last := apart_cons otherwise w (by simp [kind']) (statement_apart w alternate found'')
      have behind := apart_append v _ (statement_apart v consequent found') last
      exact apart_cons word _ (by simp [kind]) (apart_append u _ (condition_apart u test found) behind)
  | _, _, .whileLoop word u v test body kind found found' =>
      have behind := apart_append u v (condition_apart u test found) (statement_apart v body found')
      exact apart_cons word _ (by simp [kind]) behind
  | _, _, .doWhileLoop word again stop u v body test kind found kind' found' kind'' =>
      have last := apart_append v [stop] (condition_apart v test found') (apart_one stop (by simp [kind'']))
      have behind := apart_append u _ (statement_apart u body found) (apart_cons again _ (by simp [kind']) last)
      exact apart_cons word _ (by simp [kind]) behind
  | _, _, .forLoop word open_ first second close u v w x init test update body kind kind₁ found kind₂ found₁
      kind₃ found₂ kind₄ found₃ =>
      have last := apart_cons close x (by simp [kind₄]) (statement_apart x body found₃)
      have third := apart_append w _ (optional_expression_apart w update found₂) last
      have middle := apart_append v _ (optional_expression_apart v test found₁)
        (apart_cons second _ (by simp [kind₃]) third)
      have behind := apart_append u _ (for_init_apart u init found) (apart_cons first _ (by simp [kind₂]) middle)
      exact apart_cons word _ (by simp [kind]) (apart_cons open_ _ (by simp [kind₁]) behind)
  | _, _, .expression u stop e found kind =>
      exact apart_append u [stop] (expression_apart u e found) (apart_one stop (by simp [kind]))

theorem block_apart (u : List Token) (body : act.Block) (derived : Block act u body) : SignsApart u := by
  match u, body, derived with
  | _, _, .intro open_ close u body kind found kind' =>
      have behind := apart_append u [close] (statements_apart u body found) (apart_one close (by simp [kind']))
      exact apart_cons open_ _ (by simp [kind]) behind

theorem statements_apart (u : List Token) (body : List act.Statement) (derived : Statements act u body) :
    SignsApart u := by
  match u, body, derived with
  | _, _, .none => rfl
  | _, _, .more u v first rest found found' =>
      exact apart_append u v (statement_apart u first found) (statements_apart v rest found')
end

end Phrase

end ScriptFront
