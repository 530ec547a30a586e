import ScriptFront.Proofs.ExpressionsTaken
import ScriptFront.Proofs.OperatorRows
import ScriptFront.Proofs.PrintedExpressions

set_option autoImplicit false

/-! The operands of the grammar by rows are parsed to what they build, exactly if enough levels of nesting are
left. -/

namespace ScriptFront

open Parse Grammar

variable {σ : Type} [TokenSource σ]

section Going

variable {α : Type} (limit : Nat)

-- A production takes the tokens `u` exactly if `enough` holds, and goes on as `next`.
def GoesOn (enough : Prop) (p next : Parse σ α) (u rest : List Token) : Prop :=
  ∀ (fits : Prop) (left : List Token) (value : α → Prop), (fits → enough) →
    (enough → Meets limit fits next rest left value) → Meets limit fits p (u ++ rest) left value

variable {limit} {enough enough' : Prop} {p next next' : Parse σ α} {u v rest : List Token}

theorem goes_on_trans (first : GoesOn limit enough p next u (v ++ rest))
    (second : GoesOn limit enough' next next' v rest) : GoesOn limit (enough ∧ enough') p next' (u ++ v) rest := by
  intro fits left value needed later
  rw [List.append_assoc]
  apply first fits left value fun found => (needed found).1
  intro one
  apply second fits left value fun found => (needed found).2
  intro two
  exact later ⟨one, two⟩

theorem goes_on_weaken (goes : GoesOn limit enough p next u rest) (same : enough ↔ enough') :
    GoesOn limit enough' p next u rest := by
  intro fits left value needed later
  exact goes fits left value (fun found => same.mpr (needed found)) fun found => later (same.mp found)

-- It takes no more than these tokens if the rest does not go on.
theorem meets_of_goes_on {e : α} (goes : GoesOn limit enough p next u rest)
    (ends : enough → Meets limit enough next rest rest (· = e)) : Meets limit enough p (u ++ rest) rest (· = e) :=
  goes enough rest (· = e) id ends

theorem goes_on_of_meets {e : α} {loop : α → Parse σ α} (met : Meets limit enough p (u ++ rest) rest (· = e)) :
    GoesOn limit enough (p >>= loop) (loop e) u rest := by
  intro fits left value needed later
  apply meets_then met needed
  rintro _ found rfl
  exact later found

end Going

section Sorts

variable (σ) (act : Actions) (limit : Nat)

structure PrimaryMet (u : List Token) (e : act.Expression) (n : Nat) : Prop where
  leads : ∃ kind, kindAhead u = some kind ∧ startsPrimary kind = true
  met : ∀ levels rest, Meets limit (n ≤ levels) (primary act (nested (σ := σ) act limit levels)) (u ++ rest) rest
    (· = e)

structure MemberMet (u : List Token) (e : act.Expression) (n : Nat) : Prop where
  leads : ∃ kind, kindAhead u = some kind ∧ startsPrimary kind = true
  goesOn : ∀ levels rest, GoesOn limit (n ≤ levels) (memberExpression act (nested (σ := σ) act limit levels))
    (repeatWhile startsMember (memberStep act (nested (σ := σ) act limit levels)) e) u rest

structure CallsMet (u : List Token) (e : act.Expression) (n : Nat) : Prop where
  leads : ∃ kind, kindAhead u = some kind ∧ startsOperand kind = true
  goesOn : ∀ levels rest, GoesOn limit (n ≤ levels) (callExpression act (nested (σ := σ) act limit levels))
    (repeatWhile (· == some (.mark .leftParen)) (callStep act (nested (σ := σ) act limit levels)) e) u rest

structure ArgumentsMet (u : List Token) (found : List act.Expression) (n : Nat) : Prop where
  leads : kindAhead u = some (.mark .leftParen)
  met : ∀ levels rest, Meets limit (n ≤ levels) (arguments act (nested (σ := σ) act limit levels)) (u ++ rest) rest
    (· = found)

-- An operand where it does not go on, and what may be an operand only where no operator follows.
structure UnaryMet (goes : Option TokenKind → Bool) (u : List Token) (e : act.Expression) (n : Nat) : Prop where
  leads : ∃ kind, kindAhead u = some kind ∧ startsExpression kind = true
  met : ∀ levels rest, goes (kindAhead rest) = false →
    Meets limit (n ≤ levels) (unary act (nested (σ := σ) act limit levels)) (u ++ rest) rest (· = e)

structure ExpressionMet (u : List Token) (e : act.Expression) (n : Nat) : Prop where
  leads : ∃ kind, kindAhead u = some kind ∧ startsExpression kind = true
  met : ∀ levels rest, continuesExpression (kindAhead rest) = false →
    Meets limit (n ≤ levels) (assignment act (nested (σ := σ) act limit levels)) (u ++ rest) rest (· = e)

-- Items are put in front of those that are done.
structure ArgumentListMet (u : List Token) (found : List act.Expression) (n : Nat) : Prop where
  leads : ∃ kind, kindAhead u = some kind ∧ startsExpression kind = true
  met : ∀ levels rest done, kindAhead rest = some (.mark .rightParen) →
    Meets limit (n ≤ levels)
      (do
        let a ← (nested (σ := σ) act limit levels).expression
        repeatWhile (· == some (.mark .comma))
          (fun done => do
            let _ ← expect (.mark .comma)
            return (← (nested (σ := σ) act limit levels).expression) :: done) (a :: done))
      (u ++ rest) rest (· = found.reverse ++ done)

end Sorts

variable {act : Actions} {limit : Nat}

namespace Grouped

theorem expression_meets (u : List Token) (e : act.Expression) (n : Nat) (inside : ExpressionMet σ act limit u e n)
    (levels : Nat) (rest : List Token) (stops : continuesExpression (kindAhead rest) = false) :
    Meets limit (n + 1 ≤ levels) (nested (σ := σ) act limit levels).expression (u ++ rest) rest (· = e) := by
  cases levels with
  | zero => exact takes_until_too_deep (by omega)
  | succ levels => exact takes_deeper (meets_weaken (inside.met levels rest stops) (by omega) fun _ right => right)

theorem primary_of_token (t : Token) (e : act.Expression) (starts : startsPrimary t.kind = true)
    (taken : ∀ levels rest, TakesUnless False limit (primary act (nested (σ := σ) act limit levels)) (t :: rest)
      (leaving rest (· = e))) : PrimaryMet σ act limit [t] e 0 where
  leads := ⟨t.kind, rfl, starts⟩
  met levels rest := by
    apply takes_if_deep _ False.elim
    apply takes_weaken (taken levels rest)
    rintro a left ⟨rfl, same⟩
    exact ⟨rfl, Nat.zero_le _, same⟩

theorem primary_of_word (t : Token) (keyword : Keyword) (e : act.Expression) (kind : t.kind = .keyword keyword)
    (known : IsWord act keyword e) : PrimaryMet σ act limit [t] e 0 :=
  primary_of_token t e (word_starts t keyword e kind known) fun _ rest =>
    takes_word_token t rest keyword e kind known

theorem primary_of_parentheses (u : List Token) (open_ close : Token) (e : act.Expression) (n : Nat)
    (opens : open_.kind = .mark .leftParen) (inside : ExpressionMet σ act limit u e n)
    (closes : close.kind = .mark .rightParen) : PrimaryMet σ act limit (open_ :: (u ++ [close])) e (n + 1) where
  leads := ⟨open_.kind, rfl, by rw [opens]; rfl⟩
  met levels rest := by
    have stops : continuesExpression (kindAhead (close :: rest)) = false := by
      rw [kind_ahead_cons, closes]
      rfl
    rw [List.cons_append, List.append_assoc, List.singleton_append]
    apply takes_look
    rw [kind_ahead_cons, opens]
    apply takes_expect opens
    apply meets_then (expression_meets u e n inside levels (close :: rest) stops) id
    rintro _ enough rfl
    apply takes_expect closes
    exact meets_pure enough rfl

theorem primary_of_new (word : Token) (u v : List Token) (callee : act.Expression) (found : List act.Expression)
    (m n : Nat) (kind : word.kind = .keyword .newWord) (member : MemberMet σ act limit u callee m)
    (list : ArgumentsMet σ act limit v found n) :
    PrimaryMet σ act limit (word :: (u ++ v)) (act.new callee found) (max m n + 1) where
  leads := ⟨word.kind, rfl, by rw [kind]; rfl⟩
  met levels rest := by
    rw [List.cons_append, List.append_assoc]
    apply takes_look
    rw [kind_ahead_cons, kind]
    change Meets _ _ (nested (σ := σ) act limit levels).construction _ _ _
    cases levels with
    | zero => exact takes_until_too_deep (by omega)
    | succ levels =>
        have ahead := kind_ahead_append v rest _ list.leads
        have first := meets_of_goes_on (member.goesOn levels (v ++ rest)) fun enough =>
          takes_loop_end (by rw [ahead]; rfl) ⟨rfl, enough, rfl⟩
        apply takes_deeper
        apply takes_expect kind
        apply meets_then first (by omega)
        rintro _ enough rfl
        apply meets_then (list.met levels rest) (by omega)
        rintro _ enough' rfl
        exact meets_pure (by omega) rfl

theorem member_of_primary (u : List Token) (e : act.Expression) (n : Nat) (primary : PrimaryMet σ act limit u e n) :
    MemberMet σ act limit u e n where
  leads := primary.leads
  goesOn levels rest := goes_on_of_meets (primary.met levels rest)

-- A member and one step behind it.
theorem member_of_step (u v : List Token) (object e : act.Expression) (m n : Nat)
    (member : MemberMet σ act limit u object m) (goes : ∀ rest, startsMember (kindAhead (v ++ rest)) = true)
    (step : ∀ levels rest, Meets limit (n ≤ levels) (memberStep act (nested (σ := σ) act limit levels) object)
      (v ++ rest) rest (· = e)) : MemberMet σ act limit (u ++ v) e (max m n) where
  leads := leads_append u _ member.leads
  goesOn levels rest := by
    have sound : (nested (σ := σ) act limit levels).Sound := nested_sound limit levels
    have later : GoesOn limit (n ≤ levels)
        (repeatWhile startsMember (memberStep act (nested (σ := σ) act limit levels)) object)
        (repeatWhile startsMember (memberStep act (nested (σ := σ) act limit levels)) e) v rest := by
      intro fits left value needed later
      apply takes_loop_step rfl (lowers_member_step sound) (goes rest)
      exact goes_on_of_meets (step levels rest) fits left value needed later
    exact goes_on_weaken (goes_on_trans (member.goesOn levels (v ++ rest)) later) (by omega)

theorem member_of_name (u : List Token) (dot id : Token) (object : act.Expression) (n : Nat)
    (member : MemberMet σ act limit u object n) (isDot : dot.kind = .mark .dot) (kind : id.kind = .identifier) :
    MemberMet σ act limit (u ++ [dot, id]) (act.member object (act.identifier id.text)) n := by
  have found := member_of_step u [dot, id] object (act.member object (act.identifier id.text)) n 0 member
    (by intro rest; simp [startsMember, isDot]) fun levels rest => by
      apply takes_ahead
      rw [List.cons_append, kind_ahead_cons, isDot]
      apply takes_expect isDot
      apply takes_assoc
      apply takes_expect kind
      apply takes_pure_bind
      exact meets_pure (Nat.zero_le _) rfl
  rwa [Nat.max_zero] at found

theorem member_of_index (u v : List Token) (open_ close : Token) (object property : act.Expression) (m n : Nat)
    (member : MemberMet σ act limit u object m) (opens : open_.kind = .mark .leftBracket)
    (inside : ExpressionMet σ act limit v property n) (closes : close.kind = .mark .rightBracket) :
    MemberMet σ act limit (u ++ open_ :: (v ++ [close])) (act.computedMember object property) (max m (n + 1)) := by
  apply member_of_step u _ object _ m (n + 1) member (by intro rest; simp [startsMember, opens])
  intro levels rest
  have stops : continuesExpression (kindAhead (close :: rest)) = false := by
    rw [kind_ahead_cons, closes]
    rfl
  rw [List.cons_append, List.append_assoc, List.singleton_append]
  apply takes_ahead
  rw [kind_ahead_cons, opens]
  apply takes_expect opens
  apply meets_then (expression_meets v property n inside levels (close :: rest) stops) id
  rintro _ enough rfl
  apply takes_expect closes
  exact meets_pure enough rfl

theorem call_step_meets (v : List Token) (callee : act.Expression) (found : List act.Expression) (n : Nat)
    (list : ArgumentsMet σ act limit v found n) (levels : Nat) (rest : List Token) :
    Meets limit (n ≤ levels) (callStep act (nested (σ := σ) act limit levels) callee) (v ++ rest) rest
      (· = act.call callee found) := by
  apply meets_then (list.met levels rest) id
  rintro _ enough rfl
  exact meets_pure enough rfl

theorem calls_of_super (word : Token) (v : List Token) (found : List act.Expression) (n : Nat)
    (kind : word.kind = .keyword .superWord) (list : ArgumentsMet σ act limit v found n) :
    CallsMet σ act limit (word :: v) (act.call act.super found) n where
  leads := ⟨word.kind, rfl, by rw [kind]; rfl⟩
  goesOn levels rest := by
    intro fits left value needed later
    apply takes_ahead
    rw [List.cons_append, kind_ahead_cons, kind]
    apply takes_expect kind
    exact goes_on_of_meets (call_step_meets v act.super found n list levels rest) fits left value needed later

theorem callee_goes_on (u rest : List Token) (e : act.Expression) (n : Nat) (member : MemberMet σ act limit u e n)
    (levels : Nat) (stops : startsMember (kindAhead rest) = false) :
    GoesOn limit (n ≤ levels) (callExpression act (nested (σ := σ) act limit levels))
      (do
        if ← isAhead (.mark .leftParen) then calls act (nested (σ := σ) act limit levels) e
        else return e) u rest := by
  obtain ⟨kind, ahead, starts⟩ := member.leads
  have taken := meets_of_goes_on (member.goesOn levels rest) fun enough => takes_loop_end stops ⟨rfl, enough, rfl⟩
  intro fits left value needed later
  apply takes_ahead
  rw [kind_ahead_append u rest kind ahead, primary_not_super kind starts]
  apply meets_then taken needed
  rintro _ enough rfl
  exact later enough

theorem calls_of_member (u v : List Token) (callee : act.Expression) (found : List act.Expression) (m n : Nat)
    (member : MemberMet σ act limit u callee m) (list : ArgumentsMet σ act limit v found n) :
    CallsMet σ act limit (u ++ v) (act.call callee found) (max m n) where
  leads := by
    obtain ⟨first, ahead, starts⟩ := member.leads
    exact ⟨first, kind_ahead_append u _ first ahead, primary_starts_operand first starts⟩
  goesOn levels rest := by
    have ahead := kind_ahead_append v rest _ list.leads
    have first := callee_goes_on u (v ++ rest) callee m member levels (by rw [ahead]; rfl)
    have second : GoesOn limit (n ≤ levels)
        (do
          if ← isAhead (.mark .leftParen) then calls act (nested (σ := σ) act limit levels) callee
          else return callee)
        (repeatWhile (· == some (.mark .leftParen)) (callStep act (nested (σ := σ) act limit levels))
          (act.call callee found)) v rest := by
      intro fits left value needed later
      apply takes_ahead
      rw [ahead]
      exact goes_on_of_meets (call_step_meets v callee found n list levels rest) fits left value needed later
    exact goes_on_weaken (goes_on_trans first second) (by omega)

theorem calls_of_calls (u v : List Token) (callee : act.Expression) (found : List act.Expression) (m n : Nat)
    (done : CallsMet σ act limit u callee m) (list : ArgumentsMet σ act limit v found n) :
    CallsMet σ act limit (u ++ v) (act.call callee found) (max m n) where
  leads := leads_append u _ done.leads
  goesOn levels rest := by
    have sound : (nested (σ := σ) act limit levels).Sound := nested_sound limit levels
    have ahead := kind_ahead_append v rest _ list.leads
    have second : GoesOn limit (n ≤ levels)
        (repeatWhile (· == some (.mark .leftParen)) (callStep act (nested (σ := σ) act limit levels)) callee)
        (repeatWhile (· == some (.mark .leftParen)) (callStep act (nested (σ := σ) act limit levels))
          (act.call callee found)) v rest := by
      intro fits left value needed later
      apply takes_loop_step rfl (lowers_call_step sound) (by simp [ahead])
      exact goes_on_of_meets (call_step_meets v callee found n list levels rest) fits left value needed later
    exact goes_on_weaken (goes_on_trans (done.goesOn levels (v ++ rest)) second) (by omega)

theorem operand_of_member (u : List Token) (e : act.Expression) (n : Nat) (member : MemberMet σ act limit u e n) :
    UnaryMet σ act limit continuesOperand u e n where
  leads := by
    obtain ⟨kind, ahead, starts⟩ := member.leads
    exact ⟨kind, ahead, expression_of_primary_start kind starts⟩
  met levels rest stops := by
    obtain ⟨kind, ahead, starts⟩ := member.leads
    have ends := stops
    simp only [continuesOperand, Bool.or_eq_false_iff] at ends
    apply takes_member_alone kind (kind_ahead_append u rest kind ahead) starts stops
    exact meets_of_goes_on (member.goesOn levels rest) fun enough => takes_loop_end ends.1 ⟨rfl, enough, rfl⟩

theorem operand_of_calls (u : List Token) (e : act.Expression) (n : Nat) (found : CallsMet σ act limit u e n) :
    UnaryMet σ act limit continuesOperand u e n where
  leads := by
    obtain ⟨kind, ahead, starts⟩ := found.leads
    exact ⟨kind, ahead, operand_starts_expression kind starts⟩
  met levels rest stops := by
    obtain ⟨kind, ahead, starts⟩ := found.leads
    simp only [continuesOperand, Bool.or_eq_false_iff] at stops
    apply unary_eq _ _ kind _ (kind_ahead_append u rest kind ahead) starts
    exact meets_of_goes_on (found.goesOn levels rest) fun enough => takes_loop_end stops.2 ⟨rfl, enough, rfl⟩

theorem arguments_of_none (open_ close : Token) (opens : open_.kind = .mark .leftParen)
    (closes : close.kind = .mark .rightParen) : ArgumentsMet σ act limit [open_, close] [] 0 where
  leads := by simp [opens]
  met levels rest := by
    change Meets _ _ _ (open_ :: close :: rest) _ _
    apply takes_expect opens
    apply takes_ahead
    rw [kind_ahead_cons, closes]
    apply takes_pure_bind
    apply takes_expect closes
    exact meets_pure (Nat.zero_le _) rfl

theorem arguments_of_list (u : List Token) (open_ close : Token) (found : List act.Expression) (n : Nat)
    (opens : open_.kind = .mark .leftParen) (list : ArgumentListMet σ act limit u found n)
    (closes : close.kind = .mark .rightParen) : ArgumentsMet σ act limit (open_ :: (u ++ [close])) found n where
  leads := by simp [opens]
  met levels rest := by
    obtain ⟨kind, ahead, starts⟩ := list.leads
    rw [List.cons_append, List.append_assoc, List.singleton_append]
    apply takes_expect opens
    apply takes_ahead
    rw [not_ahead u _ kind _ ahead starts rfl]
    have items := list.met levels (close :: rest) [] (by simp [closes])
    have whole : Meets limit (n ≤ levels) (commaList (nested (σ := σ) act limit levels).expression)
        (u ++ close :: rest) (close :: rest) (· = found) := by
      unfold commaList
      rw [← bind_assoc]
      apply meets_then items id
      rintro _ enough rfl
      exact meets_pure enough (by simp)
    apply meets_then whole id
    rintro _ enough rfl
    apply takes_expect closes
    exact meets_pure enough rfl

theorem list_of_one (u : List Token) (e : act.Expression) (n : Nat) (inside : ExpressionMet σ act limit u e n) :
    ArgumentListMet σ act limit u [e] (n + 1) where
  leads := inside.leads
  met levels rest done closes := by
    apply meets_then (expression_meets u e n inside levels rest (by rw [closes]; rfl)) id
    rintro _ enough rfl
    apply takes_loop_end (by rw [closes]; rfl)
    exact ⟨rfl, enough, rfl⟩

theorem list_of_more (u v : List Token) (comma : Token) (e : act.Expression) (found : List act.Expression) (m n : Nat)
    (inside : ExpressionMet σ act limit u e m) (isComma : comma.kind = .mark .comma)
    (list : ArgumentListMet σ act limit v found n) :
    ArgumentListMet σ act limit (u ++ comma :: v) (e :: found) (max (m + 1) n) where
  leads := leads_append u _ inside.leads
  met levels rest done closes := by
    have sound : (nested (σ := σ) act limit levels).Sound := nested_sound limit levels
    have stops : continuesExpression (kindAhead (comma :: (v ++ rest))) = false := by
      rw [kind_ahead_cons, isComma]
      rfl
    rw [List.append_assoc, List.cons_append]
    apply meets_then (expression_meets u e m inside levels _ stops) (by omega)
    rintro _ enough rfl
    apply takes_loop_step rfl (lowers_comma_step _ _ sound.expression) (by simp [isComma])
    apply takes_assoc
    apply takes_expect isComma
    apply takes_assoc
    apply meets_weaken (list.met levels rest (_ :: done) closes) (by omega)
    rintro _ rfl
    simp

end Grouped

end ScriptFront
