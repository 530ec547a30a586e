import ScriptFront.Proofs.Chain

set_option autoImplicit false

/-! The parser takes every expression that the grammar derives. -/

namespace ScriptFront

open Parse

-- Only names and members can be assigned to, and every member can.
structure Actions.NamesPlaces (act : Actions) : Prop where
  member : ∀ object id, (act.target? (act.member object id)).isSome = true
  computedMember : ∀ object property, (act.target? (act.computedMember object property)).isSome = true
  new : ∀ callee found, act.target? (act.new callee found) = none
  call : ∀ callee found, act.target? (act.call callee found) = none
  unary : ∀ operator e, act.target? (act.unary operator e) = none
  assignment : ∀ operator place value, act.target? (act.assignment operator place value) = none
  build : ∀ (rung : Rung) text build left right, rung.build? act text = some build →
    act.target? (build left right) = none

-- The parser may group the parts of an expression otherwise, but what can be assigned to still can.
def Actions.keeps (act : Actions) (e : act.Expression) : act.Expression → Prop :=
  fun e' => (act.target? e).isSome = true → (act.target? e').isSome = true

section Sorts

variable (σ : Type) [TokenSource σ] (act : Actions) (limit : Nat)

structure PrimaryTaken (u : List Token) (e : act.Expression) : Prop where
  leads : ∃ kind, kindAhead u = some kind ∧ startsPrimary kind = true
  taken : ∀ levels rest, Takes limit (Grammar.primary act (Grammar.nested (σ := σ) act limit levels))
    (u ++ rest) (leaving rest (act.keeps e))

-- Behind the tokens of a member the loop of the member production goes on.
structure MemberTaken (u : List Token) (e : act.Expression) : Prop where
  leads : ∃ kind, kindAhead u = some kind ∧ startsPrimary kind = true
  taken : ∀ levels rest ends,
    (∀ e', act.keeps e e' → Takes limit
      (repeatWhile Grammar.startsMember
        (Grammar.memberStep act (Grammar.nested (σ := σ) act limit levels)) e') rest ends) →
    Takes limit (Grammar.memberExpression act (Grammar.nested (σ := σ) act limit levels)) (u ++ rest) ends

-- Behind the tokens of a call the loop over argument lists goes on.
structure CallsTaken (u : List Token) (e : act.Expression) : Prop where
  leads : ∃ kind, kindAhead u = some kind ∧ startsOperand kind = true
  noPlace : act.target? e = none
  taken : ∀ levels rest ends,
    (∀ e', Takes limit
      (repeatWhile (· == some (.mark .leftParen))
        (Grammar.callStep act (Grammar.nested (σ := σ) act limit levels)) e') rest ends) →
    Takes limit (Grammar.callExpression act (Grammar.nested (σ := σ) act limit levels)) (u ++ rest) ends

structure ArgumentsTaken (u : List Token) : Prop where
  leads : kindAhead u = some (.mark .leftParen)
  taken : ∀ levels rest, Takes limit (Grammar.arguments act (Grammar.nested (σ := σ) act limit levels))
    (u ++ rest) (leaving rest fun _ => True)

-- A chain, and an operand if it can be assigned to.
structure ExpressionTaken (assigns : Bool) (u : List Token) (e : act.Expression) : Prop where
  chain : Chain σ act limit assigns u
  place : (act.target? e).isSome = true → Operand σ act limit (fun e => (act.target? e).isSome = true) u

end Sorts

variable {σ : Type} [TokenSource σ] {act : Actions} {limit : Nat}

theorem operand_weaken (value value' : act.Expression → Prop) (u : List Token)
    (operand : Operand σ act limit value u) (weaker : ∀ e, value e → value' e) :
    Operand σ act limit value' u where
  leads := operand.leads
  taken levels rest stops := by
    apply takes_weaken (operand.taken levels rest stops)
    intro e left fits
    exact ⟨fits.1, weaker e fits.2⟩

namespace Grammar

theorem takes_keeping (u rest : List Token) (e : act.Expression)
    (found : ExpressionTaken σ act limit true u e)
    (stops : continuesExpression (kindAhead rest) = false) (levels : Nat) :
    Takes limit (nested (σ := σ) act limit levels).expression (u ++ rest) (leaving rest (act.keeps e)) := by
  by_cases named : (act.target? e).isSome = true
  · apply takes_weaken (takes_place u rest (found.place named) stops levels)
    intro e' left fits
    exact ⟨fits.1, fun _ => fits.2⟩
  · apply takes_weaken (takes_chain u rest found.chain stops levels)
    intro e' left fits
    exact ⟨fits.1, fun named' => absurd named' named⟩

-- Items with commas between them are taken one after the other.
theorem takes_comma_items {α β : Type} (item : Parse σ α) (phrase : List Token → α → Prop)
    (yields : Yields item phrase) (sort : List Token → β → Prop) (rest : List Token)
    (apart : kindAhead rest ≠ some (.mark .comma))
    (each : ∀ u b after, sort u b → kindAhead after = some (.mark .comma) ∨ after = rest →
      Takes limit item (u ++ after) (leaving after fun _ => True))
    (u : List Token) (found : List β) (list : Phrase.CommaList sort u found) (done : List α) :
    Takes limit
      (do
        let a ← item
        repeatWhile (· == some (.mark .comma))
          (fun done => do
            let _ ← expect (.mark .comma)
            return (← item) :: done) (a :: done))
      (u ++ rest) (leaving rest fun _ => True) := by
  induction list generalizing done with
  | one u b first =>
      apply takes_then (each u b rest first (.inr rfl))
      intro a _
      apply takes_loop_end (by simpa using apart)
      exact ⟨rfl, trivial⟩
  | more u v comma b later first isComma _ ih =>
      rw [List.append_assoc, List.cons_append]
      apply takes_then (each u b _ first (.inl (by simp [isComma])))
      intro a _
      apply takes_loop_step rfl (lowers_comma_step item phrase yields) (by simp [isComma])
      apply takes_assoc
      apply takes_expect isComma
      apply takes_assoc
      exact ih (a :: done)

theorem takes_comma_list {α β : Type} (item : Parse σ α) (phrase : List Token → α → Prop)
    (yields : Yields item phrase) (sort : List Token → β → Prop) (rest : List Token)
    (apart : kindAhead rest ≠ some (.mark .comma))
    (each : ∀ u b after, sort u b → kindAhead after = some (.mark .comma) ∨ after = rest →
      Takes limit item (u ++ after) (leaving after fun _ => True))
    (u : List Token) (found : List β) (list : Phrase.CommaList sort u found) :
    Takes limit (commaList item) (u ++ rest) (leaving rest fun _ => True) := by
  have items := takes_comma_items item phrase yields sort rest apart each u found list []
  unfold commaList
  rw [← bind_assoc]
  apply takes_then items
  intro done _
  exact takes_pure ⟨rfl, trivial⟩

-- Behind an expression in a list stands a comma or what closes the list.
theorem takes_expressions (levels : Nat) (u rest : List Token) (found : List act.Expression)
    (list : Phrase.CommaList (ExpressionTaken σ act limit true) u found)
    (closes : kindAhead rest = some (.mark .rightParen)) :
    Takes limit (commaList (nested (σ := σ) act limit levels).expression) (u ++ rest)
      (leaving rest fun _ => True) := by
  have sound : (nested (σ := σ) act limit levels).Sound := nested_sound limit levels
  apply takes_comma_list _ _ sound.expression _ rest (by simp [closes]) _ u found list
  intro u e after taken next
  have stops : continuesExpression (kindAhead after) = false := by
    rcases next with next | rfl
    · rw [next]
      rfl
    · rw [closes]
      rfl
  exact takes_chain u after taken.chain stops levels

theorem comma_list_leads (u : List Token) (found : List act.Expression)
    (list : Phrase.CommaList (ExpressionTaken σ act limit true) u found) :
    ∃ kind, kindAhead u = some kind ∧ startsExpression kind = true := by
  cases list with
  | one _ e taken => exact chain_leads true u taken.chain
  | more u v comma e rest taken =>
      exact leads_append u _ (chain_leads true u taken.chain)

-- The first token of an expression is none of those that do not begin one.
theorem not_ahead (u v : List Token) (kind other : TokenKind) (ahead : kindAhead u = some kind)
    (starts : startsExpression kind = true) (apart : startsExpression other = false) :
    (kindAhead (u ++ v) == some other) = false := by
  have different : kind ≠ other := by
    rintro rfl
    rw [starts] at apart
    contradiction
  simpa [kind_ahead_append u v kind ahead] using different

theorem arguments_none (open_ close : Token) (opens : open_.kind = .mark .leftParen)
    (closes : close.kind = .mark .rightParen) : ArgumentsTaken σ act limit [open_, close] where
  leads := by simp [opens]
  taken levels rest := by
    change Takes limit _ (open_ :: close :: rest) _
    apply takes_expect opens
    apply takes_ahead
    rw [kind_ahead_cons, closes]
    apply takes_pure_bind
    apply takes_expect closes
    exact takes_pure ⟨rfl, trivial⟩

theorem arguments_some (open_ close : Token) (u : List Token) (found : List act.Expression)
    (opens : open_.kind = .mark .leftParen) (closes : close.kind = .mark .rightParen)
    (list : Phrase.CommaList (ExpressionTaken σ act limit true) u found) :
    ArgumentsTaken σ act limit (open_ :: (u ++ [close])) where
  leads := by simp [opens]
  taken levels rest := by
    obtain ⟨kind, ahead, starts⟩ := comma_list_leads u found list
    rw [List.cons_append, List.append_assoc, List.singleton_append]
    apply takes_expect opens
    apply takes_ahead
    rw [not_ahead u _ kind _ ahead starts rfl]
    apply takes_then (takes_expressions levels u (close :: rest) found list (by simp [closes]))
    intro values _
    apply takes_expect closes
    exact takes_pure ⟨rfl, trivial⟩

theorem member_primary (u : List Token) (e : act.Expression) (primary : PrimaryTaken σ act limit u e) :
    MemberTaken σ act limit u e where
  leads := primary.leads
  taken levels rest _ later := takes_then (primary.taken levels rest) later

theorem member_named (u : List Token) (dot id : Token) (object : act.Expression)
    (names : act.NamesPlaces) (member : MemberTaken σ act limit u object) (isDot : dot.kind = .mark .dot)
    (kind : id.kind = .identifier) :
    MemberTaken σ act limit (u ++ [dot, id]) (act.member object (act.identifier id.text)) where
  leads := leads_append u _ member.leads
  taken levels rest ends later := by
    have sound : (nested (σ := σ) act limit levels).Sound := nested_sound limit levels
    rw [List.append_assoc]
    apply member.taken levels (dot :: id :: rest)
    intro object' _
    apply takes_loop_step rfl (lowers_member_step sound) (by simp [startsMember, isDot])
    have stepped : Takes limit (memberStep act (nested (σ := σ) act limit levels) object') (dot :: id :: rest)
        (leaving rest (act.keeps (act.member object (act.identifier id.text)))) := by
      apply takes_ahead
      rw [kind_ahead_cons, isDot]
      apply takes_expect isDot
      apply takes_assoc
      apply takes_expect kind
      apply takes_pure_bind
      exact takes_pure ⟨rfl, fun _ => names.member object' _⟩
    exact takes_then stepped later

theorem member_computed (u v : List Token) (open_ close : Token) (object property : act.Expression)
    (names : act.NamesPlaces) (member : MemberTaken σ act limit u object)
    (opens : open_.kind = .mark .leftBracket) (inside : ExpressionTaken σ act limit true v property)
    (closes : close.kind = .mark .rightBracket) :
    MemberTaken σ act limit (u ++ open_ :: (v ++ [close])) (act.computedMember object property) where
  leads := leads_append u _ member.leads
  taken levels rest ends later := by
    have sound : (nested (σ := σ) act limit levels).Sound := nested_sound limit levels
    rw [List.append_assoc, List.cons_append, List.append_assoc, List.singleton_append]
    apply member.taken levels
    intro object' _
    apply takes_loop_step rfl (lowers_member_step sound) (by simp [startsMember, opens])
    have stops : continuesExpression (kindAhead (close :: rest)) = false := by
      rw [kind_ahead_cons, closes]
      rfl
    have stepped : Takes limit (memberStep act (nested (σ := σ) act limit levels) object')
        (open_ :: (v ++ close :: rest)) (leaving rest (act.keeps (act.computedMember object property))) := by
      apply takes_ahead
      rw [kind_ahead_cons, opens]
      apply takes_expect opens
      apply takes_then (takes_chain v (close :: rest) inside.chain stops levels)
      intro property' _
      apply takes_expect closes
      exact takes_pure ⟨rfl, fun _ => names.computedMember object' _⟩
    exact takes_then stepped later

theorem takes_call_step (levels : Nat) (v rest : List Token) (callee : act.Expression)
    (list : ArgumentsTaken σ act limit v) :
    Takes limit (callStep act (nested (σ := σ) act limit levels) callee) (v ++ rest)
      (leaving rest fun _ => True) := by
  apply takes_then (list.taken levels rest)
  intro found _
  exact takes_pure ⟨rfl, trivial⟩

theorem takes_calls (levels : Nat) (v rest : List Token) (callee : act.Expression)
    (ends : act.Expression → List Token → Prop) (list : ArgumentsTaken σ act limit v)
    (later : ∀ e', Takes limit
      (repeatWhile (· == some (.mark .leftParen)) (callStep act (nested (σ := σ) act limit levels)) e')
      rest ends) :
    Takes limit (calls act (nested (σ := σ) act limit levels) callee) (v ++ rest) ends := by
  apply takes_then (takes_call_step levels v rest callee list)
  intro e _
  exact later e

theorem calls_super (word : Token) (v : List Token) (found : List act.Expression) (names : act.NamesPlaces)
    (kind : word.kind = .keyword .superWord) (list : ArgumentsTaken σ act limit v) :
    CallsTaken σ act limit (word :: v) (act.call act.super found) where
  leads := ⟨word.kind, rfl, by rw [kind]; rfl⟩
  noPlace := names.call _ _
  taken levels rest ends later := by
    apply takes_ahead
    rw [List.cons_append, kind_ahead_cons, kind]
    apply takes_expect kind
    exact takes_calls levels v rest _ ends list later

-- A member does not begin with `super`, so the call production takes it as its callee.
theorem takes_callee (levels : Nat) (u rest : List Token) (e : act.Expression)
    (ends : act.Expression → List Token → Prop) (member : MemberTaken σ act limit u e)
    (stops : startsMember (kindAhead rest) = false)
    (later : ∀ e', act.keeps e e' → Takes limit
      (do
        if ← isAhead (.mark .leftParen) then calls act (nested (σ := σ) act limit levels) e'
        else return e')
      rest ends) :
    Takes limit (callExpression act (nested (σ := σ) act limit levels)) (u ++ rest) ends := by
  obtain ⟨kind, ahead, starts⟩ := member.leads
  apply takes_ahead
  have plain : (kindAhead (u ++ rest) == some (.keyword .superWord)) = false := by
    rw [kind_ahead_append u rest kind ahead]
    have apart : kind ≠ .keyword .superWord := by
      rintro rfl
      contradiction
    simpa using apart
  rw [plain]
  have taken : Takes limit (memberExpression act (nested (σ := σ) act limit levels)) (u ++ rest)
      (leaving rest (act.keeps e)) := by
    apply member.taken levels rest
    intro e' kept
    apply takes_loop_end stops
    exact ⟨rfl, kept⟩
  exact takes_then taken later

theorem calls_member (u v : List Token) (callee : act.Expression) (found : List act.Expression)
    (names : act.NamesPlaces) (member : MemberTaken σ act limit u callee)
    (list : ArgumentsTaken σ act limit v) : CallsTaken σ act limit (u ++ v) (act.call callee found) where
  leads := by
    obtain ⟨first, ahead, starts⟩ := member.leads
    exact ⟨first, kind_ahead_append u _ first ahead, primary_starts_operand first starts⟩
  noPlace := names.call _ _
  taken levels rest ends later := by
    have ahead := kind_ahead_append v rest _ list.leads
    rw [List.append_assoc]
    apply takes_callee levels u (v ++ rest) callee ends member (by rw [ahead]; rfl)
    intro callee' _
    apply takes_ahead
    rw [ahead]
    exact takes_calls levels v rest callee' ends list later

theorem calls_more (u v : List Token) (callee : act.Expression) (found : List act.Expression)
    (names : act.NamesPlaces) (done : CallsTaken σ act limit u callee)
    (list : ArgumentsTaken σ act limit v) : CallsTaken σ act limit (u ++ v) (act.call callee found) where
  leads := leads_append u _ done.leads
  noPlace := names.call _ _
  taken levels rest ends later := by
    have sound : (nested (σ := σ) act limit levels).Sound := nested_sound limit levels
    have ahead := kind_ahead_append v rest _ list.leads
    rw [List.append_assoc]
    apply done.taken levels
    intro callee'
    apply takes_loop_step rfl (lowers_call_step sound) (by simp [ahead])
    apply takes_then (takes_call_step levels v rest callee' list)
    intro e _
    exact later e

theorem operand_of_member (u : List Token) (e : act.Expression) (member : MemberTaken σ act limit u e) :
    Operand σ act limit (act.keeps e) u where
  leads := by
    obtain ⟨kind, ahead, starts⟩ := member.leads
    exact ⟨kind, ahead, primary_starts_operand kind starts⟩
  taken levels rest stops := by
    simp only [continuesOperand, Bool.or_eq_false_iff] at stops
    apply takes_callee levels u rest e _ member stops.1
    intro e' kept
    apply takes_ahead
    rw [stops.2]
    exact takes_pure ⟨rfl, kept⟩

theorem operand_of_calls (u : List Token) (e : act.Expression) (found : CallsTaken σ act limit u e) :
    Operand σ act limit (act.keeps e) u where
  leads := found.leads
  taken levels rest stops := by
    simp only [continuesOperand, Bool.or_eq_false_iff] at stops
    apply found.taken levels rest
    intro e'
    apply takes_loop_end stops.2
    exact ⟨rfl, fun place => by simp [found.noPlace] at place⟩

-- A primary expression of one token is a production of its own.
theorem primary_token (t : Token) (e : act.Expression) (starts : startsPrimary t.kind = true)
    (taken : ∀ levels rest, Takes limit (primary act (nested (σ := σ) act limit levels)) (t :: rest)
      (leaving rest fun e' => e' = e)) : PrimaryTaken σ act limit [t] e where
  leads := ⟨t.kind, rfl, starts⟩
  taken levels rest := by
    apply takes_weaken (taken levels rest)
    intro e' left fits
    exact ⟨fits.1, fun place => fits.2 ▸ place⟩

section Tokens

variable {deep : Prop} {inner : Nested σ act} (t : Token) (rest : List Token)

theorem takes_number_token (value : Binary64) (kind : t.kind = .number)
    (digits : digitsValue? t.text.toList = some value) :
    TakesUnless deep limit (primary act inner) (t :: rest) (leaving rest (· = act.number value)) := by
  apply takes_look
  rw [kind_ahead_cons, kind]
  apply takes_expect kind
  rw [digits]
  exact takes_pure ⟨rfl, rfl⟩

theorem takes_string_token (kind : t.kind = .string) :
    TakesUnless deep limit (primary act inner) (t :: rest) (leaving rest (· = act.string (unquoted t.text))) := by
  apply takes_look
  rw [kind_ahead_cons, kind]
  apply takes_expect kind
  exact takes_pure ⟨rfl, rfl⟩

theorem takes_name_token (kind : t.kind = .identifier) :
    TakesUnless deep limit (primary act inner) (t :: rest)
      (leaving rest (· = act.identifierExpression (act.identifier t.text))) := by
  apply takes_look
  rw [kind_ahead_cons, kind]
  apply takes_assoc
  apply takes_expect kind
  apply takes_pure_bind
  exact takes_pure ⟨rfl, rfl⟩

-- What a keyword that is an expression builds.
inductive IsWord (act : Actions) : Keyword → act.Expression → Prop where
  | true : IsWord act .trueWord (act.boolean true)
  | false : IsWord act .falseWord (act.boolean false)
  | null : IsWord act .nullWord act.null
  | this : IsWord act .thisWord act.this

omit [TokenSource σ] in
theorem word_starts (keyword : Keyword) (e : act.Expression) (kind : t.kind = .keyword keyword)
    (known : IsWord act keyword e) : startsPrimary t.kind = true := by
  rw [kind]
  cases known <;> rfl

theorem takes_word_token (keyword : Keyword) (e : act.Expression) (kind : t.kind = .keyword keyword)
    (known : IsWord act keyword e) :
    TakesUnless deep limit (primary act inner) (t :: rest) (leaving rest (· = e)) := by
  apply takes_look
  rw [kind_ahead_cons, kind]
  cases known
  all_goals
    apply takes_expect kind
    exact takes_pure ⟨rfl, rfl⟩

end Tokens

theorem primary_number (t : Token) (value : Binary64) (kind : t.kind = .number)
    (digits : digitsValue? t.text.toList = some value) :
    PrimaryTaken σ act limit [t] (act.number value) :=
  primary_token t _ (by rw [kind]; rfl) fun _ rest => takes_number_token t rest value kind digits

theorem primary_string (t : Token) (kind : t.kind = .string) :
    PrimaryTaken σ act limit [t] (act.string (unquoted t.text)) :=
  primary_token t _ (by rw [kind]; rfl) fun _ rest => takes_string_token t rest kind

theorem primary_identifier (t : Token) (kind : t.kind = .identifier) :
    PrimaryTaken σ act limit [t] (act.identifierExpression (act.identifier t.text)) :=
  primary_token t _ (by rw [kind]; rfl) fun _ rest => takes_name_token t rest kind

theorem primary_keyword (keyword : Keyword) (t : Token) (e : act.Expression)
    (kind : t.kind = .keyword keyword) (known : IsWord act keyword e) : PrimaryTaken σ act limit [t] e :=
  primary_token t e (word_starts t keyword e kind known) fun _ rest => takes_word_token t rest keyword e kind known

theorem primary_parenthesized (u : List Token) (open_ close : Token) (e : act.Expression)
    (opens : open_.kind = .mark .leftParen) (inside : ExpressionTaken σ act limit true u e)
    (closes : close.kind = .mark .rightParen) :
    PrimaryTaken σ act limit (open_ :: (u ++ [close])) e where
  leads := ⟨open_.kind, rfl, by rw [opens]; rfl⟩
  taken levels rest := by
    have stops : continuesExpression (kindAhead (close :: rest)) = false := by
      rw [kind_ahead_cons, closes]
      rfl
    rw [List.cons_append, List.append_assoc, List.singleton_append]
    apply takes_look
    rw [kind_ahead_cons, opens]
    apply takes_expect opens
    apply takes_then (takes_keeping u (close :: rest) e inside stops levels)
    intro e' kept
    apply takes_expect closes
    exact takes_pure ⟨rfl, kept⟩

theorem takes_construction (levels : Nat) (word : Token) (u v rest : List Token) (callee : act.Expression)
    (kind : word.kind = .keyword .newWord) (member : MemberTaken σ act limit u callee)
    (list : ArgumentsTaken σ act limit v) :
    Takes limit (nested (σ := σ) act limit levels).construction (word :: (u ++ (v ++ rest)))
      (leaving rest fun e => ∃ callee found, e = act.new callee found) := by
  cases levels with
  | zero => exact takes_too_deep
  | succ levels =>
      have ahead := kind_ahead_append v rest _ list.leads
      apply takes_deeper
      apply takes_expect kind
      have taken : Takes limit (memberExpression act (nested (σ := σ) act limit levels)) (u ++ (v ++ rest))
          (leaving (v ++ rest) fun _ => True) := by
        apply member.taken levels
        intro callee' _
        apply takes_loop_end (by rw [ahead]; rfl)
        exact ⟨rfl, trivial⟩
      apply takes_then taken
      intro callee' _
      apply takes_then (list.taken levels rest)
      intro found _
      exact takes_pure ⟨rfl, callee', found, rfl⟩

theorem primary_new (word : Token) (u v : List Token) (callee : act.Expression)
    (found : List act.Expression) (names : act.NamesPlaces) (kind : word.kind = .keyword .newWord)
    (member : MemberTaken σ act limit u callee) (list : ArgumentsTaken σ act limit v) :
    PrimaryTaken σ act limit (word :: (u ++ v)) (act.new callee found) where
  leads := ⟨word.kind, rfl, by rw [kind]; rfl⟩
  taken levels rest := by
    rw [List.cons_append, List.append_assoc]
    apply takes_look
    rw [kind_ahead_cons, kind]
    apply takes_weaken (takes_construction levels word u v rest callee kind member list)
    rintro _ left ⟨rfl, _⟩
    exact ⟨rfl, fun place => by simp [names.new] at place⟩

theorem expression_of_operand (u : List Token) (e : act.Expression)
    (operand : Operand σ act limit (act.keeps e) u) : ExpressionTaken σ act limit false u e where
  chain := .operand u (operand_weaken _ _ u operand fun _ _ => trivial)
  place named := operand_weaken _ _ u operand fun _ kept => kept named

end Grammar

namespace Phrase

open Grammar

mutual
theorem assignment_taken (names : act.NamesPlaces) (u : List Token) (e : act.Expression)
    (found : Assignment act u e) : ExpressionTaken σ act limit true u e := by
  match u, e, found with
  | _, _, .level u e ladder =>
      have taken := ladder_taken names _ u e ladder
      exact ⟨.level u taken.chain, taken.place⟩
  | _, _, .assign u v op left value place operator ladder target assigns spelled found =>
      have target' : (act.target? left).isSome = true := by simp [target]
      refine ⟨.assign u v op operator ((ladder_taken names _ u left ladder).place target') assigns spelled
        (assignment_taken names v value found).chain, ?_⟩
      simp [names.assignment]

theorem ladder_taken (names : act.NamesPlaces) (rung : Option Rung) (u : List Token) (e : act.Expression)
    (found : Ladder act rung u e) : ExpressionTaken σ act limit false u e := by
  match rung, u, e, found with
  | _, _, _, .tighter rung u e ladder => exact ladder_taken names _ u e ladder
  | _, _, _, .operator rung u v op left right build ladder kind built ladder' =>
      have chain := (ladder_taken names _ u left ladder).chain
      have chain' := (ladder_taken names _ v right ladder').chain
      refine ⟨chain_operator false u v rung op build chain kind built chain', ?_⟩
      simp [names.build rung op.text build left right built]
  | _, _, _, .unary op v operator e kind spelled found =>
      refine ⟨.prefixed op v operator kind spelled (assignment_taken names v e found).chain, ?_⟩
      simp [names.unary]
  | _, _, _, .leftHandSide u e found =>
      exact expression_of_operand u e (left_hand_side_taken names u e found)

theorem left_hand_side_taken (names : act.NamesPlaces) (u : List Token) (e : act.Expression)
    (found : LeftHandSide act u e) : Operand σ act limit (act.keeps e) u := by
  match u, e, found with
  | _, _, .member u e found => exact operand_of_member u e (member_taken names u e found)
  | _, _, .calls u e found => exact operand_of_calls u e (calls_taken names u e found)

theorem calls_taken (names : act.NamesPlaces) (u : List Token) (e : act.Expression)
    (found : Calls act u e) : CallsTaken σ act limit u e := by
  match u, e, found with
  | _, _, .super word v found kind list =>
      exact calls_super word v found names kind (arguments_taken names v found list)
  | _, _, .member u v callee found member list =>
      have taken := arguments_taken names v found list
      exact calls_member u v callee found names (member_taken names u callee member) taken
  | _, _, .more u v callee found done list =>
      have taken := arguments_taken names v found list
      exact calls_more u v callee found names (calls_taken names u callee done) taken

theorem member_taken (names : act.NamesPlaces) (u : List Token) (e : act.Expression)
    (found : Member act u e) : MemberTaken σ act limit u e := by
  match u, e, found with
  | _, _, .primary u e found => exact member_primary u e (primary_taken names u e found)
  | _, _, .named u dot id object found isDot kind =>
      exact member_named u dot id object names (member_taken names u object found) isDot kind
  | _, _, .computed u v open_ close object property found opens inside closes =>
      exact member_computed u v open_ close object property names (member_taken names u object found) opens
        (assignment_taken names v property inside) closes

theorem primary_taken (names : act.NamesPlaces) (u : List Token) (e : act.Expression)
    (found : Primary act u e) : PrimaryTaken σ act limit u e := by
  match u, e, found with
  | _, _, .number t value kind digits => exact primary_number t value kind digits
  | _, _, .string t kind => exact primary_string t kind
  | _, _, .true t kind => exact primary_keyword .trueWord t _ kind .true
  | _, _, .false t kind => exact primary_keyword .falseWord t _ kind .false
  | _, _, .null t kind => exact primary_keyword .nullWord t _ kind .null
  | _, _, .parenthesized u open_ close e opens found closes =>
      exact primary_parenthesized u open_ close e opens (assignment_taken names u e found) closes
  | _, _, .identifier t kind => exact primary_identifier t kind
  | _, _, .this t kind => exact primary_keyword .thisWord t _ kind .this
  | _, _, .new word u v callee found kind member list =>
      exact primary_new word u v callee found names kind (member_taken names u callee member)
        (arguments_taken names v found list)

theorem arguments_taken (names : act.NamesPlaces) (u : List Token) (found : List act.Expression)
    (list : Arguments act u found) : ArgumentsTaken σ act limit u := by
  match u, found, list with
  | _, _, .none open_ close opens closes => exact arguments_none open_ close opens closes
  | _, _, .some u open_ close found opens list closes =>
      exact arguments_some open_ close u found opens closes (argument_list_taken names u found list)

theorem argument_list_taken (names : act.NamesPlaces) (u : List Token) (found : List act.Expression)
    (list : ArgumentList act u found) : CommaList (ExpressionTaken σ act limit true) u found := by
  match u, found, list with
  | _, _, .one u e found => exact .one u e (assignment_taken names u e found)
  | _, _, .more u v comma e rest found isComma list =>
      have taken := argument_list_taken names v rest list
      exact .more u v comma e rest (assignment_taken names u e found) isComma taken
end

end Phrase

end ScriptFront
