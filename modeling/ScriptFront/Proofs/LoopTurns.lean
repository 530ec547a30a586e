import ScriptFront.Proofs.NestingGuard
import ScriptFront.Proofs.PrintedExpressions
import ScriptFront.Proofs.TokenizerRuns

set_option autoImplicit false

/-! The loops of the productions. Every turn of a loop that ends well takes a token, so a loop begins at most as
many turns as tokens are left, and it ends where it does not go on or where a turn fails, but never for want of
rounds. -/

namespace ScriptFront

open Parse

-- A loop from a value and a state to its result, with the number of the turns that it begins.
inductive Turns {σ α : Type} (goesOn : Option TokenKind → Bool) (step : α → Parse σ α) :
    Nat → α → ParseState σ → EStateM.Result Error (ParseState σ) α → Prop where
  | ends (a : α) (s : ParseState σ) :
      goesOn (s.lookahead.map Token.kind) = false → Turns goesOn step 0 a s (.ok a s)
  | fails (a : α) (s t : ParseState σ) (fault : Error) :
      goesOn (s.lookahead.map Token.kind) = true → step a s = .error fault t →
      Turns goesOn step 1 a s (.error fault t)
  | again (count : Nat) (a b : α) (s t : ParseState σ) (result : EStateM.Result Error (ParseState σ) α) :
      goesOn (s.lookahead.map Token.kind) = true → step a s = .ok b t → Turns goesOn step count b t result →
      Turns goesOn step (count + 1) a s result

-- The tokens that are left, up to the first lexical error.
def ParseState.tokens (s : ParseState Tokenizer) : List Token :=
  s.lookahead.toList ++ s.source.leading

theorem Tokenizer.leading_of_read (t after : Tokenizer) (next : Option Token) (found : t.read = .ok next after) :
    t.leading = next.toList ++ after.leading := by
  cases next with
  | none =>
      have nothing := after.read_at_end (rest_of_scan _ t after (Nat.lt_succ_self _) found)
      rw [t.leading_of_end after found, after.leading_of_end after nothing]
      rfl
  | some token => exact t.leading_of_token after token found

-- What is taken comes first in what is left, and the rest is left behind it.
theorem tokens_of_taken (s s' : ParseState Tokenizer) (u : List Token) (read : Reads s.ahead u s'.ahead) :
    s.tokens = u ++ s'.tokens := by
  have taken (v : List Token) (p q : Option Token × Tokenizer) (read : Reads p v q) :
      p.1.toList ++ p.2.leading = v ++ (q.1.toList ++ q.2.leading) := by
    induction read with
    | nothing place => rfl
    | token t source after next rest place found _ ih =>
        change t :: source.leading = t :: (rest ++ _)
        rw [source.leading_of_read after next found, ih]
  exact taken u s.ahead s'.ahead read

theorem turns_of_takes {α : Type} (goesOn : Option TokenKind → Bool) (step : α → Parse Tokenizer α)
    (ends : goesOn none = false) (takes : ∀ a, Yields (step a) fun u _ => u ≠ []) (a : α)
    (s : ParseState Tokenizer) :
    ∃ count, count ≤ s.tokens.length ∧ Turns goesOn step count a s (repeatWhile goesOn step a s) := by
  have lowers (a : α) : Lowers (step a) := lowers_of_yields (takes a) fun _ _ some => some
  generalize size : s.tokens.length = n
  induction n using Nat.strongRecOn generalizing a s with
  | ind n ih =>
      rw [repeat_while_eq goesOn step ends lowers]
      by_cases goes : goesOn (s.lookahead.map Token.kind) = true
      · rw [if_pos goes]
        have some : 0 < n := by
          cases ahead : s.lookahead with
          | none => simp [ahead, ends] at goes
          | some token => simp [← size, ParseState.tokens, ahead]
        cases run : step a s with
        | ok b t =>
            obtain ⟨u, taken, read⟩ := takes a s b t run
            have fewer := List.length_pos_iff.mpr taken
            rw [tokens_of_taken s t u read, List.length_append] at size
            obtain ⟨count, low, turns⟩ := ih t.tokens.length (by omega) b t rfl
            rw [bind_of_ok _ _ s t b run]
            exact ⟨count + 1, by omega, .again count a b s t _ goes run turns⟩
        | error fault t =>
            rw [bind_of_error _ _ s t fault run]
            exact ⟨1, some, .fails a s t fault goes run⟩
      · rw [if_neg goes]
        exact ⟨0, Nat.zero_le n, .ends a s (by simpa using goes)⟩

theorem Grammar.yields_some_call_step {σ : Type} [TokenSource σ] {act : Actions} {inner : Nested σ act}
    (sound : inner.Sound) (callee : act.Expression) : Yields (callStep act inner callee) fun u _ => u ≠ [] :=
  yields_weaken (yields_call_step sound callee) fun u _ ⟨found, list, _⟩ => Phrase.arguments_ne_nil u found list

-- A production with a loop: what it does before the loop, the loop, and what it makes of the value.
structure Loop (α β : Type) where
  production : Parse Tokenizer β
  first : Parse Tokenizer α
  goesOn : Option TokenKind → Bool
  step : α → Parse Tokenizer α
  finish : α → β
  made : production = do
    let a ← first
    let b ← repeatWhile goesOn step a
    return finish b

namespace Loop

-- From any value and state, a turn that ends well takes tokens, and the loop runs to its end in no more turns
-- than there are tokens.
structure Ends {α β : Type} (loop : Loop α β) : Prop where
  takes : ∀ a s b t, loop.step a s = .ok b t →
    ∃ u, u ≠ [] ∧ Reads s.ahead u t.ahead ∧ s.tokens = u ++ t.tokens
  turns : ∀ a s, ∃ count, count ≤ s.tokens.length ∧
    Turns loop.goesOn loop.step count a s (repeatWhile loop.goesOn loop.step a s)

theorem ends_of_takes {α β : Type} {loop : Loop α β} (ends : loop.goesOn none = false)
    (takes : ∀ a, Yields (loop.step a) fun u _ => u ≠ []) : loop.Ends where
  takes a s b t run := by
    obtain ⟨u, taken, read⟩ := takes a s b t run
    exact ⟨u, taken, read, tokens_of_taken s t u read⟩
  turns := turns_of_takes loop.goesOn loop.step ends takes

open Grammar

-- Items with commas between them.
def items {α : Type} (item : Parse Tokenizer α) : Loop (List α) (List α) where
  production := commaList item
  first := do return [← item]
  goesOn := (· == some (.mark .comma))
  step done := do
    let _ ← expect (.mark .comma)
    return (← item) :: done
  finish := List.reverse
  made := by simp [commaList]

variable {act : Actions} (inner : Nested Tokenizer act)

def statements (stop : Option TokenKind) : Loop (List act.Statement) (List act.Statement) where
  production := Grammar.statements act inner stop
  first := pure []
  goesOn kind := kind.isSome && kind != stop
  step done := do return (← inner.statement) :: done
  finish := List.reverse
  made := rfl

def members : Loop act.Expression act.Expression where
  production := memberExpression act inner
  first := primary act inner
  goesOn := startsMember
  step := memberStep act inner
  finish := id
  made := by simp [memberExpression]

def calls (callee : act.Expression) : Loop act.Expression act.Expression where
  production := Grammar.calls act inner callee
  first := callStep act inner callee
  goesOn := (· == some (.mark .leftParen))
  step := callStep act inner
  finish := id
  made := by simp [Grammar.calls]

def chain {ω : Type} [Spelled ω] (build : ω → act.Expression → act.Expression → act.Expression)
    (kind : TokenKind) (operand : Parse Tokenizer act.Expression) : Loop act.Expression act.Expression where
  production := operatorChain act build kind operand
  first := operand
  goesOn := (· == some kind)
  step left := do
    let token ← expect kind
    let operator ← operator token
    let right ← operand
    return build operator left right
  finish := id
  made := by simp [operatorChain]

def operators : Rung → Loop act.Expression act.Expression
  | .or => chain act.logical .logicalOr (level inner (some .and))
  | .and => chain act.logical .logicalAnd (level inner (some .equality))
  | .equality => chain act.binary .equality (level inner (some .relational))
  | .relational => chain act.binary .relational (level inner (some .additive))
  | .additive => chain act.binary .additive (level inner (some .multiplicative))
  | .multiplicative => chain act.binary .multiplicative (level inner none)

theorem operators_production (rung : Rung) : (operators inner rung).production = level inner (some rung) := by
  cases rung <;> rfl

theorem items_ends {α : Type} {item : Parse Tokenizer α} {phrase : List Token → α → Prop}
    (each : Yields item phrase) : (items item).Ends := by
  refine ends_of_takes rfl fun done => ?_
  refine yields_bind (yields_expect _) fun _ comma ⟨one, _⟩ => ?_
  exact yields_bind each fun v a _ => yields_pure (by simp [one])

theorem chain_ends {ω : Type} [Spelled ω] {build : ω → act.Expression → act.Expression → act.Expression}
    {kind : TokenKind} {operand : Parse Tokenizer act.Expression} {phrase : List Token → act.Expression → Prop}
    (each : Yields operand phrase) : (chain build kind operand).Ends := by
  refine ends_of_takes rfl fun left => ?_
  refine yields_bind (yields_expect _) fun _ op ⟨one, _⟩ => ?_
  refine yields_bind (yields_operator op) fun _ operator _ => ?_
  exact yields_bind each fun v right _ => yields_pure (by simp [one])

variable {inner} (sound : inner.Sound)

include sound

theorem statements_ends (stop : Option TokenKind) : (statements inner stop).Ends := by
  refine ends_of_takes rfl fun done => ?_
  refine yields_bind sound.statement fun u s found => ?_
  exact yields_pure (by simpa using Phrase.statement_ne_nil u s found)

theorem members_ends : (members inner).Ends :=
  ends_of_takes rfl fun object => yields_weaken (yields_member_step sound object) fun _ _ found => found.1

theorem calls_ends (callee : act.Expression) : (calls inner callee).Ends :=
  ends_of_takes rfl (yields_some_call_step sound)

theorem operators_ends (rung : Rung) : (operators inner rung).Ends := by
  cases rung <;> exact chain_ends (yields_level sound _)

end Loop

-- All loops of the productions run to their ends.
structure Nested.LoopsEnd {act : Actions} (inner : Nested Tokenizer act) : Prop where
  statements : ∀ stop, (Loop.statements inner stop).Ends
  arguments : (Loop.items inner.expression).Ends
  declarations : (Loop.items (Grammar.variableDeclaration act inner)).Ends
  parameters : (Loop.items (Grammar.identifier (σ := Tokenizer) act)).Ends
  operators : ∀ rung, (Loop.operators inner rung).production = Grammar.level inner (some rung) ∧
    (Loop.operators inner rung).Ends
  calls : ∀ callee, (Loop.calls inner callee).Ends
  members : (Loop.members inner).Ends

theorem loops_end {act : Actions} {inner : Nested Tokenizer act} (sound : inner.Sound) : inner.LoopsEnd where
  statements := Loop.statements_ends sound
  arguments := Loop.items_ends sound.expression
  declarations := Loop.items_ends (Grammar.yields_variable_declaration sound)
  parameters := Loop.items_ends Grammar.yields_identifier
  operators rung := ⟨Loop.operators_production inner rung, Loop.operators_ends sound rung⟩
  calls := Loop.calls_ends sound
  members := Loop.members_ends sound

end ScriptFront
