import ScriptFront.Proofs.ExpressionsTaken
import ScriptFront.Proofs.PrintedText
import ScriptFront.Proofs.TreeRoundTrip
import ScriptFront.Tree.Actions

set_option autoImplicit false

/-! The tokens of an expression are parsed to the expression, if enough levels of nesting are left. -/

namespace ScriptFront

open Parse Grammar

-- The productions of trees with `levels` more levels of nesting.
abbrev Grammar.trees (σ : Type) [TokenSource σ] (limit levels : Nat) : Nested σ Program.actions :=
  nested Program.actions limit levels

variable {σ : Type} [TokenSource σ]

theorem primary_not_super (kind : TokenKind) (starts : startsPrimary kind = true) :
    (some kind == some (.keyword .superWord)) = false := by
  rw [beq_eq_false_iff_ne]
  rintro same
  injection same with same
  rw [same] at starts
  contradiction

theorem expression_of_primary_start (kind : TokenKind) (starts : startsPrimary kind = true) :
    startsExpression kind = true :=
  operand_starts_expression kind (primary_starts_operand kind starts)

theorem yields_level {act : Actions} {inner : Nested σ act} (sound : inner.Sound) (rung : Option Rung) :
    Yields (level inner rung) (Phrase.Ladder act rung) := by
  match rung with
  | some .or => exact yields_logical_or sound
  | some .and => exact yields_logical_and sound
  | some .equality => exact yields_equality sound
  | some .relational => exact yields_relational sound
  | some .additive => exact yields_additive sound
  | some .multiplicative => exact yields_multiplicative sound
  | none => exact yields_unary sound

section Alone

variable {act : Actions} {deep : Prop} {limit : Nat} {inner : Nested σ act} {tokens rest : List Token}
  {value : act.Expression → Prop}

-- A production that may go on with what follows is its first part where nothing goes on.
theorem takes_primary_alone (stops : startsMember (kindAhead rest) = false)
    (taken : TakesUnless deep limit (primary act inner) tokens (leaving rest value)) :
    TakesUnless deep limit (memberExpression act inner) tokens (leaving rest value) := by
  apply takes_then taken
  intro e fits
  apply takes_loop_end stops
  exact ⟨rfl, fits⟩

theorem takes_member_alone (kind : TokenKind) (ahead : kindAhead tokens = some kind)
    (starts : startsPrimary kind = true) (stops : continuesOperand (kindAhead rest) = false)
    (taken : TakesUnless deep limit (memberExpression act inner) tokens (leaving rest value)) :
    TakesUnless deep limit (unary act inner) tokens (leaving rest value) := by
  simp only [continuesOperand, Bool.or_eq_false_iff] at stops
  apply unary_eq _ _ kind _ ahead (primary_starts_operand kind starts)
  apply takes_ahead
  rw [ahead, primary_not_super kind starts]
  apply takes_then taken
  intro e fits
  apply takes_ahead
  rw [stops.2]
  exact takes_pure ⟨rfl, fits⟩

theorem takes_logical_alone (stops : continuesExpression (kindAhead rest) = false)
    (taken : TakesUnless deep limit (logicalOr act inner) tokens (leaving rest value)) :
    TakesUnless deep limit (assignment act inner) tokens (leaving rest value) := by
  apply takes_then taken
  intro e fits
  exact takes_no_assignment inner e value rest fits stops

theorem takes_unary_alone (stops : continuesExpression (kindAhead rest) = false)
    (taken : TakesUnless deep limit (unary act inner) tokens (leaving rest value)) :
    TakesUnless deep limit (assignment act inner) tokens (leaving rest value) := by
  have apart (rung : Rung) := rung_not_ahead rung _ stops
  have last := takes_tighter_alone .or (fun rung _ => apart rung) taken
  have first : TakesUnless deep limit (logicalOr act inner) tokens (leaving rest value) :=
    takes_operand_alone .or (apart .or) last
  exact takes_logical_alone stops first

end Alone

section Sorts

variable (σ) (limit : Nat)

-- An operand is parsed wherever it stands.
structure OperandParsed (e : Expression) : Prop where
  leads : ∃ kind, kindAhead (enclosed e.isCompound e.tokens) = some kind ∧ startsPrimary kind = true
  parsed : ∀ levels rest, Meets limit (enclosedLevels e.isCompound e.levels ≤ levels)
    (primary Program.actions (trees σ limit levels)) (enclosed e.isCompound e.tokens ++ rest) rest
    fun e' => e'.same e = true

-- An expression is parsed where it does not go on.
structure ExpressionParsed (e : Expression) : Prop where
  leads : ∃ kind, kindAhead e.tokens = some kind ∧ startsExpression kind = true
  parsed : ∀ levels rest, continuesExpression (kindAhead rest) = false → Meets limit (e.levels ≤ levels)
    (assignment Program.actions (trees σ limit levels)) (e.tokens ++ rest) rest fun e' => e'.same e = true

end Sorts

variable {limit : Nat}

theorem meets_nested_expression (tokens rest : List Token) (count : Nat) (value : Expression → Prop)
    (inside : ∀ levels, Meets limit (count ≤ levels) (assignment Program.actions (trees σ limit levels)) tokens
      rest value) (levels : Nat) :
    Meets limit (count + 1 ≤ levels) (trees σ limit levels).expression tokens rest value := by
  cases levels with
  | zero => exact takes_until_too_deep (by omega)
  | succ levels => exact takes_deeper (meets_weaken (inside levels) (by omega) fun _ right => right)

-- An expression in parentheses opens one more level.
theorem meets_parenthesized (e : Expression) (parsed : ExpressionParsed σ limit e) (levels : Nat)
    (rest : List Token) :
    Meets limit (e.levels + 1 ≤ levels) (primary Program.actions (trees σ limit levels))
      (parenthesized e.tokens ++ rest) rest fun e' => e'.same e = true := by
  rw [parenthesized, List.cons_append, List.append_assoc, List.singleton_append]
  apply takes_look
  rw [kind_ahead_cons]
  apply takes_expect rfl
  have inside := meets_nested_expression _ _ _ _ (fun levels =>
    parsed.parsed levels (Mark.rightParen.token :: rest) rfl) levels
  apply meets_then inside id
  intro e' enough same
  apply takes_expect rfl
  exact meets_pure enough same

theorem operand_of_expression (e : Expression) (compound : e.isCompound = true)
    (parsed : ExpressionParsed σ limit e) : OperandParsed σ limit e where
  leads := by
    rw [compound]
    exact ⟨_, rfl, rfl⟩
  parsed levels rest := by
    rw [compound]
    exact meets_parenthesized e parsed levels rest

section Operands

variable {e : Expression} (operand : OperandParsed σ limit e) (levels : Nat) (rest : List Token)

include operand

theorem meets_operand_alone (stops : continuesOperand (kindAhead rest) = false) :
    Meets limit (enclosedLevels e.isCompound e.levels ≤ levels)
      (unary Program.actions (trees σ limit levels)) (enclosed e.isCompound e.tokens ++ rest) rest
      fun e' => e'.same e = true := by
  obtain ⟨kind, ahead, starts⟩ := operand.leads
  have first := kind_ahead_append _ rest kind ahead
  apply takes_member_alone kind first starts stops
  simp only [continuesOperand, Bool.or_eq_false_iff] at stops
  exact takes_primary_alone stops.1 (operand.parsed levels rest)

theorem meets_operand_expression (stops : continuesExpression (kindAhead rest) = false) :
    Meets limit (enclosedLevels e.isCompound e.levels + 1 ≤ levels) (trees σ limit levels).expression
      (enclosed e.isCompound e.tokens ++ rest) rest fun e' => e'.same e = true := by
  apply meets_nested_expression
  intro levels
  exact takes_unary_alone stops (meets_operand_alone operand levels rest (operand_stops _ stops))

end Operands

section Lists

variable {α : Type} (limit : Nat) (item : Parse σ α) (phrase : List Token → α → Prop)
  (yields : Yields item phrase) (text : α → List Token) (fits : α → Prop) (same : α → α → Bool)
  (rest : List Token)

include yields

-- Items with commas between them are parsed one after the other. Those that are done are kept in reverse.
theorem meets_comma_items (apart : kindAhead rest ≠ some (.mark .comma)) (first : α) (items : List α)
    (each : ∀ b ∈ first :: items, ∀ after, kindAhead after = some (.mark .comma) ∨ after = rest →
      Meets limit (fits b) item (text b ++ after) after fun a => same a b = true) (done : List α) :
    Meets limit (∀ b ∈ first :: items, fits b)
      (do
        let a ← item
        repeatWhile (· == some (.mark .comma))
          (fun done => do
            let _ ← expect (.mark .comma)
            return (← item) :: done) (a :: done))
      (commas ((first :: items).map text) ++ rest) rest
      fun found => ∃ list, found = list.reverse ++ done ∧ sameList same list (first :: items) = true := by
  induction items generalizing first done with
  | nil =>
      have alone : commas ([first].map text) = text first := by simp [commas]
      rw [alone]
      apply meets_then (each first (by simp) rest (.inr rfl)) (fun all => all first (by simp))
      intro a enough right
      apply takes_loop_end (by simpa using apart)
      refine ⟨rfl, by simpa using enough, [a], rfl, ?_⟩
      simp [sameList, right]
  | cons next items ih =>
      have split : commas ((first :: next :: items).map text) ++ rest =
          text first ++ Mark.comma.token :: (commas ((next :: items).map text) ++ rest) := by
        simp [commas]
      rw [split]
      apply meets_then (each first (by simp) _ (.inl rfl)) (fun all => all first (by simp))
      intro a enough right
      apply takes_loop_step rfl (lowers_comma_step item phrase yields) rfl
      apply takes_assoc
      apply takes_expect rfl
      apply takes_assoc
      have later := ih next (fun b member => each b (List.mem_cons_of_mem first member)) (a :: done)
      apply meets_weaken later
      · simp [enough]
      · rintro _ ⟨list, rfl, same'⟩
        exact ⟨a :: list, by simp, by simp [sameList, right, same']⟩

theorem meets_comma_list (apart : kindAhead rest ≠ some (.mark .comma)) (first : α) (items : List α)
    (each : ∀ b ∈ first :: items, ∀ after, kindAhead after = some (.mark .comma) ∨ after = rest →
      Meets limit (fits b) item (text b ++ after) after fun a => same a b = true) :
    Meets limit (∀ b ∈ first :: items, fits b) (commaList item) (commas ((first :: items).map text) ++ rest)
      rest fun found => sameList same found (first :: items) = true := by
  have found := meets_comma_items limit item phrase yields text fits same rest apart first items each []
  unfold commaList
  rw [← bind_assoc]
  apply meets_then found id
  rintro _ enough ⟨list, rfl, right⟩
  exact meets_pure enough (by simpa using right)

end Lists

theorem commas_ahead (u : List Token) (rest : List (List Token)) (kind : TokenKind)
    (ahead : kindAhead u = some kind) : kindAhead (commas (u :: rest)) = some kind := by
  cases rest with
  | nil => simpa [commas] using ahead
  | cons v rest =>
      rw [commas, List.intercalate_cons_cons, List.append_assoc]
      exact kind_ahead_append _ _ kind ahead

theorem operand_tokens_eq (list : List Expression) :
    operandTokens list = list.map fun e => enclosed e.isCompound e.tokens := by
  induction list with
  | nil => rfl
  | cons e rest ih => rw [operandTokens, ih, List.map_cons]

theorem operand_levels_le_iff (list : List Expression) (levels : Nat) :
    operandLevels list ≤ levels ↔ ∀ e ∈ list, enclosedLevels e.isCompound e.levels + 1 ≤ levels := by
  induction list with
  | nil => simp [operandLevels]
  | cons e rest ih =>
      rw [operandLevels, Nat.max_le, ih]
      simp

section Arguments

variable (list : List Expression) (each : ∀ e ∈ list, OperandParsed σ limit e)

include each

theorem meets_arguments (levels : Nat) (rest : List Token) :
    Meets limit (operandLevels list ≤ levels) (arguments Program.actions (trees σ limit levels))
      (parenthesized (commas (operandTokens list)) ++ rest) rest
      fun found => sameExpressions found list = true := by
  have sound : (trees σ limit levels).Sound := nested_sound limit levels
  rw [parenthesized, List.cons_append, List.append_assoc, List.singleton_append]
  apply takes_expect rfl
  apply takes_ahead
  cases list with
  | nil =>
      apply takes_pure_bind
      apply takes_expect rfl
      exact meets_pure (Nat.zero_le _) (by simp [sameExpressions])
  | cons first items =>
      obtain ⟨kind, ahead, starts⟩ := (each first List.mem_cons_self).leads
      have begins : kindAhead (commas (operandTokens (first :: items))) = some kind :=
        commas_ahead _ _ kind ahead
      rw [not_ahead _ _ kind _ begins (expression_of_primary_start kind starts) rfl]
      have found := meets_comma_list limit (trees σ limit levels).expression _ sound.expression
        (fun e => enclosed e.isCompound e.tokens) (fun e => enclosedLevels e.isCompound e.levels + 1 ≤ levels)
        Expression.same (Mark.rightParen.token :: rest) (by simp) first items (by
          intro e member after next
          apply meets_operand_expression (each e member)
          rcases next with next | rfl
          · rw [next]
            rfl
          · rfl)
      rw [← operand_tokens_eq] at found
      apply meets_then found (operand_levels_le_iff _ _).mp
      intro list enough right
      apply takes_expect rfl
      exact meets_pure ((operand_levels_le_iff _ _).mpr enough) (by rwa [same_expressions_eq])

theorem meets_calls (callee callee' : Expression) (same : callee'.same callee = true) (levels : Nat)
    (rest : List Token) (stops : kindAhead rest ≠ some (.mark .leftParen)) :
    Meets limit (operandLevels list ≤ levels) (calls Program.actions (trees σ limit levels) callee')
      (parenthesized (commas (operandTokens list)) ++ rest) rest
      fun e => e.same (.call callee list) = true := by
  have called : Meets limit (operandLevels list ≤ levels)
      (callStep Program.actions (trees σ limit levels) callee')
      (parenthesized (commas (operandTokens list)) ++ rest) rest fun e => e.same (.call callee list) = true := by
    apply meets_then (meets_arguments list each levels rest) id
    intro found enough right
    exact meets_pure enough (by simp [Expression.same, same, right])
  apply meets_then called id
  intro e enough right
  apply takes_loop_end (by simpa using stops)
  exact ⟨rfl, enough, right⟩

end Arguments

theorem arguments_lead (u rest : List Token) : kindAhead (parenthesized u ++ rest) = some (.mark .leftParen) :=
  rfl

-- What the call production takes is parsed where an expression does not go on.
theorem expression_of_call (e : Expression)
    (leads : ∃ kind, kindAhead e.tokens = some kind ∧ startsOperand kind = true)
    (taken : ∀ levels rest, continuesOperand (kindAhead rest) = false → Meets limit (e.levels ≤ levels)
      (callExpression Program.actions (trees σ limit levels)) (e.tokens ++ rest) rest
      fun e' => e'.same e = true) : ExpressionParsed σ limit e := by
  obtain ⟨kind, ahead, starts⟩ := leads
  refine ⟨⟨kind, ahead, operand_starts_expression kind starts⟩, fun levels rest stops => ?_⟩
  apply takes_unary_alone stops
  exact unary_eq _ _ kind _ (kind_ahead_append _ rest kind ahead) starts
    (taken levels rest (operand_stops _ stops))

theorem expression_of_member (e : Expression)
    (leads : ∃ kind, kindAhead e.tokens = some kind ∧ startsPrimary kind = true)
    (taken : ∀ levels rest, continuesOperand (kindAhead rest) = false → Meets limit (e.levels ≤ levels)
      (memberExpression Program.actions (trees σ limit levels)) (e.tokens ++ rest) rest
      fun e' => e'.same e = true) : ExpressionParsed σ limit e := by
  obtain ⟨kind, ahead, starts⟩ := leads
  refine ⟨⟨kind, ahead, expression_of_primary_start kind starts⟩, fun levels rest stops => ?_⟩
  have first := kind_ahead_append _ rest kind ahead
  have ends := operand_stops _ stops
  exact takes_unary_alone stops (takes_member_alone kind first starts ends (taken levels rest ends))

section Applications

variable (list : List Expression) (each : ∀ e ∈ list, OperandParsed σ limit e)

include each

theorem new_parsed (callee : Expression) (operand : OperandParsed σ limit callee) :
    ExpressionParsed σ limit (.new callee list) := by
  apply expression_of_member _ ⟨_, rfl, rfl⟩
  intro levels rest stops
  simp only [continuesOperand, Bool.or_eq_false_iff] at stops
  apply takes_primary_alone stops.1
  rw [Expression.tokens, List.cons_append, List.append_assoc, Expression.levels]
  apply takes_look
  rw [kind_ahead_cons]
  change Meets _ _ (trees σ limit levels).construction _ _ _
  cases levels with
  | zero => exact takes_until_too_deep (by omega)
  | succ levels =>
      apply takes_deeper
      apply takes_expect rfl
      have first := takes_primary_alone (by rw [arguments_lead]; rfl) (operand.parsed levels
        (parenthesized (commas (operandTokens list)) ++ rest))
      apply meets_then first (by omega)
      intro callee' enough same
      apply meets_then (meets_arguments list each levels rest) (by omega)
      intro found enough' right
      exact meets_pure (by omega) (by simp [Expression.same, same, right])

theorem super_call_parsed : ExpressionParsed σ limit (.call .super list) := by
  apply expression_of_call _ ⟨_, rfl, rfl⟩
  intro levels rest stops
  simp only [continuesOperand, Bool.or_eq_false_iff] at stops
  have apart : kindAhead rest ≠ some (.mark .leftParen) := by simpa using stops.2
  have split : (Expression.call .super list).tokens ++ rest =
      Keyword.superWord.token :: (parenthesized (commas (operandTokens list)) ++ rest) := rfl
  have deep : (Expression.call .super list).levels = operandLevels list := by
    simp [Expression.levels, enclosedLevels, Expression.isCompound]
  rw [split, deep]
  apply takes_ahead
  rw [kind_ahead_cons]
  apply takes_expect rfl
  exact meets_calls list each .super .super (by simp [Expression.same]) levels rest apart

theorem call_parsed (callee : Expression) (operand : OperandParsed σ limit callee) :
    ExpressionParsed σ limit (.call callee list) := by
  obtain ⟨kind, ahead, starts⟩ := operand.leads
  have wider := primary_starts_operand kind starts
  have first : kindAhead (Expression.call callee list).tokens = some kind := by
    rw [Expression.tokens]
    exact kind_ahead_append _ _ kind ahead
  apply expression_of_call _ ⟨kind, first, wider⟩
  intro levels rest stops
  simp only [continuesOperand, Bool.or_eq_false_iff] at stops
  have apart : kindAhead rest ≠ some (.mark .leftParen) := by simpa using stops.2
  apply takes_ahead
  rw [kind_ahead_append _ rest kind first, primary_not_super kind starts, Expression.tokens, List.append_assoc,
    Expression.levels]
  have called := takes_primary_alone (by rw [arguments_lead]; rfl) (operand.parsed levels
    (parenthesized (commas (operandTokens list)) ++ rest))
  apply meets_then called (by omega)
  intro callee' enough same
  apply takes_ahead
  rw [arguments_lead]
  exact meets_weaken (meets_calls list each callee callee' same levels rest apart) (by omega) fun _ right => right

end Applications

-- An operand and one step behind it, which is a name or a property in brackets.
theorem member_of_step (place : Member) (object : Expression) (operand : OperandParsed σ limit object)
    (step : List Token) (inside : Nat) (tokens : place.tokens = enclosed object.isCompound object.tokens ++ step)
    (deep : place.levels = max (enclosedLevels object.isCompound object.levels) inside)
    (goes : ∀ rest, startsMember (kindAhead (step ++ rest)) = true)
    (taken : ∀ object' : Expression, object'.same object = true → ∀ levels rest,
      Meets limit (inside ≤ levels) (memberStep Program.actions (trees σ limit levels) object') (step ++ rest) rest
        fun e => e.same (.member place) = true) : ExpressionParsed σ limit (.member place) := by
  obtain ⟨kind, ahead, starts⟩ := operand.leads
  have first : kindAhead (Expression.member place).tokens = some kind := by
    rw [Expression.tokens, tokens]
    exact kind_ahead_append _ _ kind ahead
  apply expression_of_member _ ⟨kind, first, starts⟩
  intro levels rest stops
  have sound : (trees σ limit levels).Sound := nested_sound limit levels
  simp only [continuesOperand, Bool.or_eq_false_iff] at stops
  rw [Expression.tokens, Expression.levels, tokens, deep, List.append_assoc]
  apply meets_then (operand.parsed levels (step ++ rest)) (by omega)
  intro object' enough same
  apply takes_loop_step rfl (lowers_member_step sound) (goes rest)
  apply meets_then (taken object' same levels rest) (by omega)
  intro e enough' right
  apply takes_loop_end stops.1
  exact ⟨rfl, by omega, right⟩

theorem named_member_parsed (object : Expression) (property : Identifier)
    (operand : OperandParsed σ limit object) : ExpressionParsed σ limit (.member (.named object property)) := by
  apply member_of_step (.named object property) object operand [Mark.dot.token, property.token] 0 rfl
    (Nat.max_zero _).symm fun _ => rfl
  intro object' same levels rest
  apply takes_ahead
  rw [List.cons_append, kind_ahead_cons]
  apply takes_expect rfl
  apply takes_assoc
  apply takes_expect rfl
  apply takes_pure_bind
  exact meets_pure (Nat.zero_le _) (by simp [Expression.same, Member.same, same, Identifier.token])

theorem computed_member_parsed (object property : Expression) (operand : OperandParsed σ limit object)
    (inside : OperandParsed σ limit property) :
    ExpressionParsed σ limit (.member (.computed object property)) := by
  apply member_of_step (.computed object property) object operand _ _ rfl rfl fun _ => rfl
  intro object' same levels rest
  rw [List.cons_append, List.append_assoc]
  apply takes_ahead
  rw [kind_ahead_cons]
  apply takes_expect rfl
  apply meets_then (meets_operand_expression inside levels _ rfl) id
  intro property' enough same'
  apply takes_expect rfl
  exact meets_pure enough (by simp [Expression.same, Member.same, same, same'])

-- An operator is not taken by a tighter level.
theorem tighter_not_ahead (rung : Rung) (text : String) (rest : List Token) (rung' : Rung)
    (higher : rung.height < rung'.height) : kindAhead (rung.kind.written text :: rest) ≠ some rung'.kind := by
  rintro kinds
  injection kinds with kinds
  rw [Rung.kind_injective _ _ kinds] at higher
  exact absurd higher (Nat.lt_irrefl _)

-- What an operator with two operands makes of them.
theorem operation_parsed (e left right : Expression) (rung : Rung) (text : String)
    (build : Expression → Expression → Expression) (built : rung.build? Program.actions text = some build)
    (first : OperandParsed σ limit left) (second : OperandParsed σ limit right)
    (tokens : e.tokens = enclosed left.isCompound left.tokens ++
      rung.kind.written text :: enclosed right.isCompound right.tokens)
    (levels : e.levels =
      max (enclosedLevels left.isCompound left.levels) (enclosedLevels right.isCompound right.levels))
    (same : ∀ left' right', left'.same left = true → right'.same right = true →
      (build left' right').same e = true) : ExpressionParsed σ limit e := by
  obtain ⟨kind, ahead, starts⟩ := first.leads
  have wider := expression_of_primary_start kind starts
  refine ⟨⟨kind, by rw [tokens]; exact kind_ahead_append _ _ kind ahead, wider⟩, fun count rest stops => ?_⟩
  have apart (rung : Rung) := rung_not_ahead rung _ stops
  have sound : (trees σ limit count).Sound := nested_sound limit count
  obtain ⟨ω, _, make, builds, chain⟩ := level_eq (trees σ limit count) rung
  rw [builds] at built
  obtain ⟨known, spelled, rfl⟩ := Option.map_eq_some_iff.mp built
  apply takes_logical_alone stops
  apply takes_looser_alone rung apart
  rw [chain, tokens, levels, List.append_assoc, List.cons_append]
  have tighter := tighter_not_ahead rung text (enclosed right.isCompound right.tokens ++ rest)
  have one := takes_tighter_alone rung tighter (meets_operand_alone first count _ (continues_operand_rung rung))
  apply meets_then one (by omega)
  intro left' enough same'
  apply takes_loop_step rfl (lowers_operator_step rung.kind make (yields_level sound rung.tighter)) (by simp)
  have two := takes_tighter_alone rung (fun rung' _ => apart rung')
    (meets_operand_alone second count rest (operand_stops _ stops))
  have stepped : Meets limit (enclosedLevels right.isCompound right.levels ≤ count)
      (do
        let token ← expect rung.kind
        let operator ← operator token
        let right ← level (trees σ limit count) rung.tighter
        return make operator left' right)
      (rung.kind.written text :: (enclosed right.isCompound right.tokens ++ rest)) rest
      fun e' => e'.same e = true := by
    apply takes_expect rfl
    apply takes_operator spelled
    apply meets_then two id
    intro right' enough' same''
    exact meets_pure enough' (same left' right' same' same'')
  apply meets_then stepped (by omega)
  intro e' enough' right'
  apply takes_loop_end (by simpa using apart rung)
  exact ⟨rfl, by omega, right'⟩

theorem binary_parsed (operator : BinaryOperator) (left right : Expression) (first : OperandParsed σ limit left)
    (second : OperandParsed σ limit right) : ExpressionParsed σ limit (.binary operator left right) := by
  apply operation_parsed _ left right operator.rung (Spelled.spelling operator) (Expression.binary operator) _
    first second rfl rfl
  · intro left' right' same same'
    simp [Expression.same, same, same']
  · cases operator <;> rfl

theorem logical_parsed (operator : LogicalOperator) (left right : Expression)
    (first : OperandParsed σ limit left) (second : OperandParsed σ limit right) :
    ExpressionParsed σ limit (.logical operator left right) := by
  apply operation_parsed _ left right operator.rung (Spelled.spelling operator) (Expression.logical operator) _
    first second rfl rfl
  · intro left' right' same same'
    simp [Expression.same, same, same']
  · cases operator <;> rfl

theorem unary_parsed (operator : UnaryOperator) (argument : Expression) (operand : OperandParsed σ limit argument) :
    ExpressionParsed σ limit (.unary operator argument) := by
  have kind : operator.kind = .additive ∨ operator.kind = .logicalNot := by
    cases operator <;> first | exact .inl rfl | exact .inr rfl
  have spelled : Spelled.ofSpelling? (Spelled.spelling operator) = some operator :=
    (Spelled.of_spelling_eq_some_iff _ _).mpr rfl
  have starts := prefix_starts_expression operator.kind kind
  refine ⟨⟨operator.kind, rfl, starts⟩, fun levels rest stops => ?_⟩
  apply takes_unary_alone stops
  apply takes_prefixed _ _ _ operator _ kind spelled
  apply takes_weaken (meets_operand_expression operand levels rest stops)
  rintro e' left ⟨rfl, enough, same⟩
  exact ⟨rfl, enough, by simp [Expression.same, same]⟩

-- What is assigned to is printed like an operand.
theorem target_tokens_eq (target : Target) :
    target.tokens = enclosed target.toExpression.isCompound target.toExpression.tokens := by
  cases target <;> rfl

theorem target_levels_eq (target : Target) :
    target.levels = enclosedLevels target.toExpression.isCompound target.toExpression.levels := by
  cases target <;> rfl

theorem target_of_same (e : Expression) (target : Target) (same : e.same target.toExpression = true) :
    ∃ target', e.target? = some target' ∧ target'.same target = true := by
  cases target with
  | identifier id =>
      cases e with
      | identifier id' =>
          exact ⟨.identifier id', rfl, by simpa [Expression.same, Target.toExpression, Target.same] using same⟩
      | _ => simp [Expression.same, Target.toExpression] at same
  | member place =>
      cases e with
      | member place' =>
          exact ⟨.member place', rfl, by simpa [Expression.same, Target.toExpression, Target.same] using same⟩
      | _ => simp [Expression.same, Target.toExpression] at same

theorem assignment_parsed (operator : AssignmentOperator) (target : Target) (value : Expression)
    (place : OperandParsed σ limit target.toExpression) (operand : OperandParsed σ limit value) :
    ExpressionParsed σ limit (.assignment operator target value) := by
  obtain ⟨kind, ahead, starts⟩ := place.leads
  have wider := expression_of_primary_start kind starts
  have assigns : operator.kind.isAssignment = true := by cases operator <;> rfl
  have spelled : Spelled.ofSpelling? (Spelled.spelling operator) = some operator :=
    (Spelled.of_spelling_eq_some_iff _ _).mpr rfl
  rw [← target_tokens_eq] at ahead
  refine ⟨⟨kind, kind_ahead_append _ _ kind ahead, wider⟩, fun levels rest stops => ?_⟩
  rw [Expression.tokens, Expression.levels, List.append_assoc, List.cons_append, target_tokens_eq, target_levels_eq]
  have apart (rung : Rung) : kindAhead (operator.kind.written (Spelled.spelling operator) ::
      (enclosed value.isCompound value.tokens ++ rest)) ≠ some rung.kind := by
    intro same
    rw [kind_ahead_cons, Option.some.injEq, TokenKind.written_kind] at same
    rw [same] at assigns
    cases rung <;> contradiction
  have first := takes_operand_alone .or (apart .or) (takes_tighter_alone .or (fun rung _ => apart rung)
    (meets_operand_alone place levels _ (continues_operand_assignment _ assigns)))
  apply meets_then first (by omega)
  intro left enough same
  obtain ⟨target', named, same'⟩ := target_of_same left target same
  have named' : Program.actions.target? left = some target' := named
  have assigned : Meets limit
      (max (enclosedLevels target.toExpression.isCompound target.toExpression.levels)
        (enclosedLevels value.isCompound value.levels + 1) ≤ levels)
      (assignTo Program.actions (trees σ limit levels) operator.kind left)
      (operator.kind.written (Spelled.spelling operator) :: (enclosed value.isCompound value.tokens ++ rest)) rest
      fun e' => e'.same (.assignment operator target value) = true := by
    unfold assignTo
    rw [named']
    apply takes_expect rfl
    apply takes_operator spelled
    apply meets_then (meets_operand_expression operand levels rest stops) (by omega)
    intro value' enough' same''
    exact meets_pure (by omega) (by simp [Expression.same, same', same''])
  apply takes_look
  rw [kind_ahead_cons]
  cases operator <;> exact assigned

theorem digits_value (n : Nat) : digitsValue? (Nat.toDigits 10 n) = some (.ofNat n) := by
  have some_ : (Nat.toDigits 10 n).isEmpty = false := List.isEmpty_eq_false_iff.mpr Nat.toDigits_ne_nil
  have digits : (Nat.toDigits 10 n).all Char.isDigit = true := List.all_eq_true.mpr fun c member =>
    Nat.isDigit_of_mem_toDigits (by decide) (by decide) member
  have value : (Nat.toDigits 10 n).foldl (fun value digit => value * 10 + (digit.toNat - '0'.toNat)) 0 = n := by
    simpa [Nat.ofDigitChars, Nat.mul_comm] using Nat.ofDigitChars_toDigits (b := 10) (n := n) (by decide) (by decide)
  rw [digitsValue?, some_, digits, value]
  rfl

-- A natural number of at most 53 bits is the value of its digits.
theorem natural_value (value : Binary64) (safe : value.isSafeNatural = true) :
    (Binary64.ofNat value.natural == value) = true := by
  cases value with
  | nan => contradiction
  | infinite negative => contradiction
  | finite x =>
      cases found : x.safeInteger? with
      | none => simp [Binary64.isSafeNatural, found] at safe
      | some i =>
          have positive : 0 ≤ i := by simpa [Binary64.isSafeNatural, found] using safe
          obtain ⟨y, rounded, same⟩ := Finite64.of_safe_integer x i found
          have whole : Binary64.ofNat i.toNat = .ofInt i := by
            have size : i.toNat = i.natAbs := by omega
            have sign : decide (i < 0) = false := by simpa using positive
            rw [Binary64.ofNat, Binary64.ofInt, size, sign]
          simp only [Binary64.natural, found, Option.getD_some, whole, rounded]
          exact same

theorem unquoted_quote (text : String) (quote : Char) :
    unquoted (String.ofList (quote :: (text.toList ++ [quote]))) = text := by
  simp [unquoted]

theorem literal_parsed (value : Literal) (proper : value.isProper Binary64.isSafeNatural = true) :
    OperandParsed σ limit (.literal value) := by
  cases value with
  | number value =>
      refine ⟨⟨_, rfl, rfl⟩, fun levels rest => ?_⟩
      change Meets limit _ _ ((Literal.number value).token :: rest) _ _
      apply takes_look
      rw [kind_ahead_cons]
      apply takes_expect rfl
      have digits : digitsValue? (Literal.number value).token.text.toList = some (.ofNat value.natural) := by
        simpa [Literal.token] using digits_value value.natural
      rw [digits]
      exact meets_pure (Nat.zero_le _) (by simpa [Expression.same, Literal.same] using natural_value value proper)
  | string text =>
      refine ⟨⟨_, rfl, rfl⟩, fun levels rest => ?_⟩
      change Meets limit _ _ ((Literal.string text).token :: rest) _ _
      apply takes_look
      rw [kind_ahead_cons]
      apply takes_expect rfl
      have inside : unquoted (Literal.string text).token.text = text := unquoted_quote text (quoteOf text)
      rw [inside]
      exact meets_pure (Nat.zero_le _) (by simp [Expression.same, Literal.same])
  | boolean value =>
      cases value
      all_goals
        refine ⟨⟨_, rfl, rfl⟩, fun levels rest => ?_⟩
        apply takes_look
        apply takes_expect rfl
        exact meets_pure (Nat.zero_le _) (by simp [Expression.same, Literal.same])
  | null =>
      refine ⟨⟨_, rfl, rfl⟩, fun levels rest => ?_⟩
      apply takes_look
      apply takes_expect rfl
      exact meets_pure (Nat.zero_le _) (by simp [Expression.same, Literal.same])

theorem identifier_parsed (id : Identifier) : OperandParsed σ limit (.identifier id) where
  leads := ⟨_, rfl, rfl⟩
  parsed levels rest := by
    change Meets limit _ _ (id.token :: rest) _ _
    apply takes_look
    rw [kind_ahead_cons]
    apply takes_assoc
    apply takes_expect rfl
    apply takes_pure_bind
    exact meets_pure (Nat.zero_le _) (by simp [Expression.same, Identifier.token])

theorem this_parsed : OperandParsed σ limit .this where
  leads := ⟨_, rfl, rfl⟩
  parsed levels rest := by
    change Meets limit _ _ (Keyword.thisWord.token :: rest) _ _
    apply takes_look
    rw [kind_ahead_cons]
    apply takes_expect rfl
    exact meets_pure (Nat.zero_le _) (by simp [Expression.same])

theorem expression_of_atom (e : Expression) (atom : e.isCompound = false) (operand : OperandParsed σ limit e) :
    ExpressionParsed σ limit e := by
  obtain ⟨kind, ahead, starts⟩ := operand.leads
  have parsed := meets_operand_alone operand
  rw [atom] at ahead parsed
  refine ⟨⟨kind, ahead, expression_of_primary_start kind starts⟩, fun levels rest stops => ?_⟩
  exact takes_unary_alone stops (parsed levels rest (operand_stops _ stops))

theorem operand_of_proper (e : Expression) (proper : e.isProper Binary64.isSafeNatural = true)
    (parsed : ExpressionParsed σ limit e) : OperandParsed σ limit e := by
  match e with
  | .identifier id => exact identifier_parsed id
  | .literal value => exact literal_parsed value proper
  | .this => exact this_parsed
  | .super => contradiction
  | .new _ _ | .call _ _ | .member _ | .assignment _ _ _ | .binary _ _ _ | .logical _ _ _ | .unary _ _ =>
      exact operand_of_expression _ rfl parsed

mutual
theorem expression_parsed (e : Expression) (proper : e.isProper Binary64.isSafeNatural = true) :
    ExpressionParsed σ limit e := by
  match e with
  | .identifier id => exact expression_of_atom _ rfl (identifier_parsed id)
  | .literal value => exact expression_of_atom _ rfl (literal_parsed value proper)
  | .this => exact expression_of_atom _ rfl this_parsed
  | .super => contradiction
  | .new callee list =>
      simp only [Expression.isProper, Bool.and_eq_true] at proper
      exact new_parsed list (operands_parsed list proper.2) callee
        (operand_of_proper callee proper.1 (expression_parsed callee proper.1))
  | .call callee list =>
      simp only [Expression.isProper, Bool.and_eq_true, Bool.or_eq_true] at proper
      rcases proper.1 with base | proper'
      · cases callee <;> first | contradiction | exact super_call_parsed list (operands_parsed list proper.2)
      · exact call_parsed list (operands_parsed list proper.2) callee
          (operand_of_proper callee proper' (expression_parsed callee proper'))
  | .member place => exact member_parsed place proper
  | .assignment operator target value =>
      simp only [Expression.isProper, Bool.and_eq_true] at proper
      exact assignment_parsed operator target value (target_parsed target proper.1)
        (operand_of_proper value proper.2 (expression_parsed value proper.2))
  | .binary operator left right =>
      simp only [Expression.isProper, Bool.and_eq_true] at proper
      exact binary_parsed operator left right (operand_of_proper left proper.1 (expression_parsed left proper.1))
        (operand_of_proper right proper.2 (expression_parsed right proper.2))
  | .logical operator left right =>
      simp only [Expression.isProper, Bool.and_eq_true] at proper
      exact logical_parsed operator left right (operand_of_proper left proper.1 (expression_parsed left proper.1))
        (operand_of_proper right proper.2 (expression_parsed right proper.2))
  | .unary operator argument =>
      exact unary_parsed operator argument (operand_of_proper argument proper (expression_parsed argument proper))

theorem member_parsed (place : Member) (proper : place.isProper Binary64.isSafeNatural = true) :
    ExpressionParsed σ limit (.member place) := by
  match place with
  | .named object property =>
      simp only [Member.isProper, Bool.and_eq_true] at proper
      exact named_member_parsed object property
        (operand_of_proper object proper.1 (expression_parsed object proper.1))
  | .computed object property =>
      simp only [Member.isProper, Bool.and_eq_true] at proper
      exact computed_member_parsed object property
        (operand_of_proper object proper.1 (expression_parsed object proper.1))
        (operand_of_proper property proper.2 (expression_parsed property proper.2))

theorem target_parsed (target : Target) (proper : target.isProper Binary64.isSafeNatural = true) :
    OperandParsed σ limit target.toExpression := by
  match target with
  | .identifier id => exact identifier_parsed id
  | .member place => exact operand_of_expression _ rfl (member_parsed place proper)

theorem operands_parsed (list : List Expression) (proper : properExpressions Binary64.isSafeNatural list = true) :
    ∀ e ∈ list, OperandParsed σ limit e := by
  match list with
  | [] => simp
  | e :: rest =>
      simp only [properExpressions, Bool.and_eq_true] at proper
      exact List.forall_mem_cons.mpr
        ⟨operand_of_proper e proper.1 (expression_parsed e proper.1), operands_parsed rest proper.2⟩
end

end ScriptFront
