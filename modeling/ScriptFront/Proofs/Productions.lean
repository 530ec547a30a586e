import ScriptFront.Proofs.LoopTurns
import ScriptFront.Proofs.NestingCounter

set_option autoImplicit false

/-! The productions one by one. Each leaves the nesting counter as it was and never has more levels open than the
limit allows, and each that ends well has taken a run of the tokens that were left, at least one unless it is
one that can be left out. -/

namespace ScriptFront

open Parse

-- The productions of statements and expressions, by what they build. Those that open a level are named for it.
inductive Production (act : Actions) : Type → Type where
  | openStatement : Production act act.Statement
  | openExpression : Production act act.Expression
  | openConstruction : Production act act.Expression
  | assignment : Production act act.Expression
  | level (rung : Option Rung) : Production act act.Expression
  | callExpression : Production act act.Expression
  | calls (callee : act.Expression) : Production act act.Expression
  | arguments : Production act (List act.Expression)
  | memberExpression : Production act act.Expression
  | primary : Production act act.Expression
  | parenthesized : Production act act.Expression
  | construction : Production act act.Expression
  | identifier : Production act act.Identifier
  | statements (stop : Option TokenKind) : Production act (List act.Statement)
  | statement : Production act act.Statement
  | emptyStatement : Production act act.Statement
  | block : Production act act.Block
  | variableDeclaration : Production act act.Declaration
  | variableDeclarations : Production act (List act.Declaration)
  | variableStatement : Production act act.Statement
  | ifStatement : Production act act.Statement
  | whileStatement : Production act act.Statement
  | doWhileStatement : Production act act.Statement
  | forInit : Production act (Option act.ForInit)
  | forStatement : Production act act.Statement
  | parameters : Production act (List act.Identifier)
  | functionDeclaration : Production act act.Statement
  | returnStatement : Production act act.Statement
  | classDeclaration : Production act act.Statement
  | expressionStatement : Production act act.Statement

namespace Production

variable {act : Actions} {α : Type}

def run {σ : Type} [TokenSource σ] (inner : Nested σ act) : {α : Type} → Production act α → Parse σ α
  | _, .openStatement => inner.statement
  | _, .openExpression => inner.expression
  | _, .openConstruction => inner.construction
  | _, .assignment => Grammar.assignment act inner
  | _, .level rung => Grammar.level inner rung
  | _, .callExpression => Grammar.callExpression act inner
  | _, .calls callee => Grammar.calls act inner callee
  | _, .arguments => Grammar.arguments act inner
  | _, .memberExpression => Grammar.memberExpression act inner
  | _, .primary => Grammar.primary act inner
  | _, .parenthesized => Grammar.parenthesized act inner
  | _, .construction => Grammar.construction act inner
  | _, .identifier => Grammar.identifier act
  | _, .statements stop => Grammar.statements act inner stop
  | _, .statement => Grammar.statement act inner
  | _, .emptyStatement => Grammar.emptyStatement act
  | _, .block => Grammar.block act inner
  | _, .variableDeclaration => Grammar.variableDeclaration act inner
  | _, .variableDeclarations => Grammar.variableDeclarations act inner
  | _, .variableStatement => Grammar.variableStatement act inner
  | _, .ifStatement => Grammar.ifStatement act inner
  | _, .whileStatement => Grammar.whileStatement act inner
  | _, .doWhileStatement => Grammar.doWhileStatement act inner
  | _, .forInit => Grammar.forInit act inner
  | _, .forStatement => Grammar.forStatement act inner
  | _, .parameters => commaList (Grammar.identifier act)
  | _, .functionDeclaration => Grammar.functionDeclaration act inner
  | _, .returnStatement => Grammar.returnStatement act inner
  | _, .classDeclaration => Grammar.classDeclaration act inner
  | _, .expressionStatement => Grammar.expressionStatement act inner

-- Statements up to `stop` and the first part of a `for` can be left out, which the next token tells.
def isLeftOut : {α : Type} → Production act α → Option TokenKind → Bool
  | _, .statements stop, next => !(next.isSome && next != stop)
  | _, .forInit, next => next == some (.mark .semicolon)
  | _, _, _ => false

end Production

-- Every level is reached from the last one.
theorem Rung.tighter_induction {motive : Option Rung → Prop} (last : motive none)
    (step : ∀ rung : Rung, motive rung.tighter → motive (some rung)) (rung : Option Rung) : motive rung := by
  have multiplicative := step .multiplicative last
  have additive := step .additive multiplicative
  have relational := step .relational additive
  have equality := step .equality relational
  have and := step .and equality
  have or := step .or and
  cases rung with
  | none => exact last
  | some rung => cases rung <;> assumption

namespace Phrase

variable {act : Actions}

theorem primary_ne_nil (u : List Token) (e : act.Expression) (found : Primary act u e) : u ≠ [] := by
  cases found <;> simp

theorem member_ne_nil (u : List Token) (e : act.Expression) (found : Member act u e) : u ≠ [] := by
  cases found with
  | primary _ _ found => exact primary_ne_nil u e found
  | _ => simp

theorem calls_ne_nil (u : List Token) (e : act.Expression) (found : Calls act u e) : u ≠ [] := by
  cases found with
  | super word v found => simp
  | member u v callee found _ list => simp [arguments_ne_nil v found list]
  | more u v callee found _ list => simp [arguments_ne_nil v found list]

theorem left_hand_side_ne_nil (u : List Token) (e : act.Expression) (found : LeftHandSide act u e) : u ≠ [] := by
  cases found with
  | member _ _ found => exact member_ne_nil u e found
  | calls _ _ found => exact calls_ne_nil u e found

theorem ladder_ne_nil (rung : Option Rung) (u : List Token) (e : act.Expression) (found : Ladder act rung u e) :
    u ≠ [] := by
  induction rung using Rung.tighter_induction generalizing u e with
  | last =>
      cases found with
      | unary => simp
      | leftHandSide _ _ found => exact left_hand_side_ne_nil u e found
  | step rung ih =>
      cases found with
      | tighter _ _ _ found => exact ih u e found
      | operator => simp

theorem assignment_ne_nil (u : List Token) (e : act.Expression) (found : Assignment act u e) : u ≠ [] := by
  cases found with
  | level _ _ found => exact ladder_ne_nil (some .or) u e found
  | assign => simp

theorem name_ne_nil (u : List Token) (id : act.Identifier) (found : Name act u id) : u ≠ [] := by
  cases found
  simp

theorem comma_list_ne_nil {α : Type} (item : List Token → α → Prop) (some : ∀ u a, item u a → u ≠ [])
    (u : List Token) (list : List α) (found : CommaList item u list) : u ≠ [] := by
  cases found with
  | one _ a first => exact some u a first
  | more => simp

end Phrase

namespace Production

variable {σ τ : Type} [TokenSource σ] [TokenSource τ] {act : Actions} {α : Type}

open Grammar

-- What two nested productions agree on, the productions made of them agree on.
theorem runs_agree {taken : Token → Prop} {c : Comparison σ τ taken} {inner : Nested σ act} {inner' : Nested τ act}
    (agree : inner.Agree c (act.identical taken) inner') (p : Production act α) :
    ∃ values : α → α → Prop, (∀ a b, values a b → a = b) ∧ c.Agree values (p.run inner) (p.run inner') := by
  have leads := c.leads_self
  have equal {α : Type} {p : Parse σ α} {q : Parse τ α} (same : c.Agree Eq p q) :
      ∃ values : α → α → Prop, (∀ a b, values a b → a = b) ∧ c.Agree values p q := ⟨Eq, fun _ _ same => same, same⟩
  have equalLists {α : Type} {p : Parse σ (List α)} {q : Parse τ (List α)} (same : c.Agree (List.Forall₂ Eq) p q) :
      ∃ values : List α → List α → Prop, (∀ a b, values a b → a = b) ∧ c.Agree values p q := ⟨_, eq_of_all, same⟩
  cases p with
  | openStatement => exact equal agree.statement
  | openExpression => exact equal agree.expression
  | openConstruction => exact equal agree.construction
  | assignment => exact equal (agree_assignment leads agree agree.construction)
  | level rung =>
      refine equal ?_
      cases rung with
      | none => exact agree_unary leads agree agree.construction
      | some rung =>
          cases rung with
          | or => exact agree_logical_or leads agree agree.construction
          | and => exact agree_logical_and leads agree agree.construction
          | equality => exact agree_equality leads agree agree.construction
          | relational => exact agree_relational leads agree agree.construction
          | additive => exact agree_additive leads agree agree.construction
          | multiplicative => exact agree_multiplicative leads agree agree.construction
  | callExpression => exact equal (agree_call_expression leads agree agree.construction)
  | calls callee => exact equal (agree_calls leads agree callee callee rfl)
  | arguments => exact equalLists (agree_arguments leads agree)
  | memberExpression => exact equal (agree_member_expression leads agree agree.construction)
  | primary => exact equal (agree_primary leads agree agree.construction)
  | parenthesized => exact equal (agree_parenthesized leads agree)
  | construction => exact equal (agree_construction leads agree)
  | identifier => exact equal (agree_identifier (act.identical taken))
  | statements stop => exact equalLists (agree_statements agree stop)
  | statement => exact equal (agree_statement leads agree agree.expression)
  | emptyStatement => exact equal (c.agree_bind (c.agree_expect _) fun _ _ _ => c.agree_pure rfl)
  | block => exact equal (agree_block leads agree)
  | variableDeclaration => exact equal (agree_variable_declaration agree)
  | variableDeclarations => exact equalLists (agree_variable_declarations leads agree)
  | variableStatement => exact equal (agree_variable_statement leads agree)
  | ifStatement => exact equal (agree_if_statement leads agree)
  | whileStatement => exact equal (agree_while_statement leads agree)
  | doWhileStatement => exact equal (agree_do_while_statement leads agree)
  | forInit => exact ⟨_, eq_of_part, agree_for_init agree⟩
  | forStatement => exact equal (agree_for_statement leads agree)
  | parameters =>
      exact equalLists (agree_comma_list Eq _ _ _ _ yields_identifier yields_identifier
        (agree_identifier (act.identical taken)))
  | functionDeclaration => exact equal (agree_function_declaration leads agree)
  | returnStatement => exact equal (agree_return_statement leads agree)
  | classDeclaration => exact equal (agree_class_declaration leads agree)
  | expressionStatement =>
      refine equal (c.agree_bind agree.expression fun _ _ same => ?_)
      exact c.agree_bind (c.agree_expect _) fun _ _ _ => c.agree_pure (congrArg act.expressionStatement same)

-- What a run takes that ends well, and when that is nothing.
def Takes (p : Parse σ α) (leftOut : Option TokenKind → Bool) : Prop :=
  ∀ s a s', p s = .ok a s' →
    ∃ u, Reads s.ahead u s'.ahead ∧ (u = [] ↔ leftOut (s.lookahead.map Token.kind) = true)

omit [TokenSource τ] in
theorem takes_of_yields {p : Parse σ α} {phrase : List Token → α → Prop} (yields : Yields p phrase)
    (some : ∀ u a, phrase u a → u ≠ []) : Takes p fun _ => false := by
  intro s a s' run
  obtain ⟨u, found, read⟩ := yields s a s' run
  exact ⟨u, read, by simp [some u a found]⟩

variable {inner : Nested σ act} (sound : inner.Sound)

include sound

theorem statements_takes (stop : Option TokenKind) :
    Takes (Grammar.statements act inner stop) (Production.statements stop : Production act _).isLeftOut := by
  intro s list s' run
  obtain ⟨u, _, read⟩ := yields_statements sound stop s list s' run
  obtain ⟨done, t, looped, ended⟩ := (bind_ok_iff _ _ _ _ _).mp run
  injection ended with _ same
  subst same
  have lowers := lowers_statement_step sound
  have goesOn : (Production.statements stop : Production act _).isLeftOut (s.lookahead.map Token.kind) = true ↔
      ((s.lookahead.map Token.kind).isSome && s.lookahead.map Token.kind != stop) = false := by
    rw [isLeftOut, Bool.not_eq_true']
  refine ⟨u, read, fun nothing => ?_, fun leftOut => ?_⟩
  · have stops := repeat_while_stops _ _ rfl lowers [] done s t looped
    have ahead : s.lookahead = t.lookahead := by
      have head := head_of_reads s.ahead t.ahead u read
      rwa [nothing] at head
    rw [goesOn, ahead, stops]
  · rw [repeat_while_eq _ _ rfl lowers, if_neg (by rw [goesOn.mp leftOut]; exact Bool.false_ne_true)] at looped
    injection looped with _ same
    exact reads_nothing t.ahead u (same ▸ read)

theorem for_init_takes : Takes (Grammar.forInit act inner) (Production.forInit : Production act _).isLeftOut := by
  intro s init s' run
  change (if s.lookahead.map Token.kind == some (.mark .semicolon) then pure none else _ : Parse σ _) s = _ at run
  by_cases absent : (s.lookahead.map Token.kind == some (.mark .semicolon)) = true
  · rw [if_pos absent] at run
    injection run with _ same
    exact ⟨[], same ▸ .nothing _, by simpa [isLeftOut] using absent⟩
  · rw [if_neg absent] at run
    have present : Yields (do
        if ← isAhead (.keyword .letWord) then
          let declarations ← Grammar.variableDeclarations act inner
          return some (act.forVariables declarations)
        else
          let e ← inner.expression
          return some (act.forExpression e) : Parse σ (Option act.ForInit)) fun u _ => u ≠ [] := by
      refine yields_ahead fun declares => ?_
      split
      · refine yields_bind (yields_variable_declarations sound) fun u declarations list => ?_
        exact yields_pure (by cases list; simp)
      · refine yields_bind sound.expression fun u e found => ?_
        exact yields_pure (by simpa using Phrase.assignment_ne_nil u e found)
    obtain ⟨u, some, read⟩ := present s init s' run
    exact ⟨u, read, by simpa [isLeftOut, some] using absent⟩

theorem calls_takes (callee : act.Expression) : Takes (Grammar.calls act inner callee) fun _ => false := by
  have calls : Yields (Grammar.calls act inner callee) fun u _ => u ≠ [] := by
    refine yields_bind (yields_some_call_step sound callee) fun u e some => ?_
    refine yields_repeat_while (fun u _ => u ≠ []) (fun u e some => ?_) u e some
    exact yields_weaken (yields_some_call_step sound e) fun v _ _ => by simp [some]
  exact takes_of_yields calls fun _ _ some => some

-- A run of a production that ends well takes tokens, unless it is left out.
theorem takes (p : Production act α) : Takes (p.run inner) p.isLeftOut := by
  cases p with
  | openStatement => exact takes_of_yields sound.statement Phrase.statement_ne_nil
  | openExpression => exact takes_of_yields sound.expression Phrase.assignment_ne_nil
  | openConstruction => exact takes_of_yields sound.construction Phrase.primary_ne_nil
  | assignment => exact takes_of_yields (yields_assignment sound) Phrase.assignment_ne_nil
  | level rung => exact takes_of_yields (yields_level sound rung) (Phrase.ladder_ne_nil rung)
  | callExpression => exact takes_of_yields (yields_call_expression sound) Phrase.left_hand_side_ne_nil
  | calls callee => exact calls_takes sound callee
  | arguments => exact takes_of_yields (yields_arguments sound) Phrase.arguments_ne_nil
  | memberExpression => exact takes_of_yields (yields_member_expression sound) Phrase.member_ne_nil
  | primary => exact takes_of_yields (yields_primary sound) Phrase.primary_ne_nil
  | parenthesized => exact takes_of_yields (yields_parenthesized sound) Phrase.primary_ne_nil
  | construction => exact takes_of_yields (yields_construction sound) Phrase.primary_ne_nil
  | identifier => exact takes_of_yields yields_identifier Phrase.name_ne_nil
  | statements stop => exact statements_takes sound stop
  | statement => exact takes_of_yields (yields_statement sound) Phrase.statement_ne_nil
  | emptyStatement => exact takes_of_yields yields_empty_statement Phrase.statement_ne_nil
  | block => exact takes_of_yields (yields_block sound) fun u body found => by cases found; simp
  | variableDeclaration =>
      exact takes_of_yields (yields_variable_declaration sound) fun u d found => by cases found <;> simp
  | variableDeclarations =>
      exact takes_of_yields (yields_variable_declarations sound) fun u list found => by cases found; simp
  | variableStatement => exact takes_of_yields (yields_variable_statement sound) Phrase.statement_ne_nil
  | ifStatement => exact takes_of_yields (yields_if_statement sound) Phrase.statement_ne_nil
  | whileStatement => exact takes_of_yields (yields_while_statement sound) Phrase.statement_ne_nil
  | doWhileStatement => exact takes_of_yields (yields_do_while_statement sound) Phrase.statement_ne_nil
  | forInit => exact for_init_takes sound
  | forStatement => exact takes_of_yields (yields_for_statement sound) Phrase.statement_ne_nil
  | parameters =>
      exact takes_of_yields (yields_comma_list _ _ yields_identifier)
        (Phrase.comma_list_ne_nil _ Phrase.name_ne_nil)
  | functionDeclaration => exact takes_of_yields (yields_function_declaration sound) Phrase.statement_ne_nil
  | returnStatement => exact takes_of_yields (yields_return_statement sound) Phrase.statement_ne_nil
  | classDeclaration => exact takes_of_yields (yields_class_declaration sound) Phrase.statement_ne_nil
  | expressionStatement => exact takes_of_yields (yields_expression_statement sound) Phrase.statement_ne_nil

omit sound

-- What a run does to the state that it starts in, on which `limit` bounds the levels that are open at once. It is
-- the run with as many levels to go as the counter leaves.
structure WellRun (limit : Nat) (p : Production act α) (s : ParseState Tokenizer)
    (result : EStateM.Result Error (ParseState Tokenizer) α) : Prop where
  levels : result = p.run (nested act limit (limit - s.depth)) s
  balanced : (stateAfter result).depth = s.depth
  recorded : s.deepest ≤ (stateAfter result).deepest
  within : (stateAfter result).deepest ≤ max s.deepest limit
  takes : ∀ a s', result = .ok a s' → ∃ u, Reads s.ahead u s'.ahead ∧ s.tokens = u ++ s'.tokens ∧
    (u = [] ↔ p.isLeftOut (s.lookahead.map Token.kind) = true)

theorem recorded (limit levels : Nat) (p : Production act α) (s : ParseState σ) :
    s.deepest ≤ (stateAfter (p.run (nested act limit levels) s)).deepest := by
  have agree (least : Nat) : (deepFrom σ least).Agree (fun _ _ => True) (p.run (nested act limit levels))
      (p.run (nested act limit levels)) := by
    intro s t related
    obtain ⟨_, _, same⟩ := p.runs_agree (nested_agree (act.identical _) (deepFrom σ least).comparison limit levels)
    exact alike_weaken (fun _ _ found => found) (fun _ _ _ => trivial) _ _ (same s t related)
  exact deepens_of_agree _ agree s

theorem well_run (limit : Nat) (p : Production act α) (s : ParseState Tokenizer) :
    p.WellRun limit s (p.run (counted act limit) s) := by
  have nested_at := counted_at (σ := Tokenizer) act (Nat.le_max_right s.deepest limit) s.depth
  obtain ⟨values, equal, same⟩ := p.runs_agree nested_at
  have alike := same s rfl (Nat.le_max_left s.deepest limit)
  have levels : p.run (counted act limit) s = p.run (nested act limit (limit - s.depth)) s :=
    eq_of_alike (fun _ _ found => found) _ _ (alike_weaken (fun _ _ found => found.1) equal _ _ alike)
  obtain ⟨balanced, within⟩ := stays_of_alike alike
  exact
    { levels
      balanced
      recorded := levels ▸ p.recorded limit (limit - s.depth) s
      within
      takes := fun a s' run => by
        obtain ⟨u, read, leftOut⟩ := takes (counted_sound act) p s a s' run
        exact ⟨u, read, tokens_of_taken s s' u read, leftOut⟩ }

end Production

theorem bind_of_same {σ α β : Type} (p q : Parse σ α) (f : α → Parse σ β) (s : ParseState σ) (same : p s = q s) :
    (p >>= f) s = (q >>= f) s := by
  cases run : q s with
  | ok a t => rw [bind_of_ok q f s t a run, bind_of_ok p f s t a (same.trans run)]
  | error fault t => rw [bind_of_error q f s t fault run, bind_of_error p f s t fault (same.trans run)]

-- A parse starts with no level open, so it goes as the counter tells.
theorem program_counted (act : Actions) (limit : Nat) (s : ParseState Tokenizer) (outside : s.depth = 0) :
    Grammar.program act limit s = Grammar.programOf act (Grammar.counted act limit) s := by
  have kept := (Guarded.refill_kept s).1
  rw [Grammar.program, Grammar.programOf]
  cases filled : refill s with
  | error fault t => rw [bind_of_error _ _ s t fault filled, bind_of_error _ _ s t fault filled]
  | ok _ t =>
      rw [filled] at kept
      have begun : t.depth = 0 := kept.trans outside
      have levels := (Production.well_run limit (.statements none : Production act _) t).levels
      rw [begun, Nat.sub_zero] at levels
      rw [bind_of_ok _ _ s t _ filled, bind_of_ok _ _ s t _ filled]
      exact (bind_of_same _ _ _ t levels).symm

open Grammar in
-- From every state, every production balances the nesting counter and takes a run of the tokens that are left; every
-- loop runs to its end; and the productions that open a level, of which all others are made, come to the same however
-- they would go on behind the limit.
theorem productions_progress (act : Actions) :
    (∀ {α : Type} (p : Production act α) (s : ParseState Tokenizer),
        p.WellRun maxNesting s (p.run (counted act maxNesting) s)) ∧
      (counted (σ := Tokenizer) act maxNesting).LoopsEnd ∧
      counted (σ := Tokenizer) act maxNesting = guarding act maxNesting (counted act maxNesting) ∧
      (∀ beyond : Nested Tokenizer act, beyond.Sound →
        (guarding act maxNesting)^[maxNesting + 1] beyond = counted act maxNesting) ∧
      ∀ s : ParseState Tokenizer, s.depth = 0 →
        program act maxNesting s = programOf act (counted act maxNesting) s :=
  ⟨fun p s => p.well_run maxNesting s, loops_end (counted_sound act), counted_eq act,
    fun _ sound => guarding_iterate act sound, program_counted act maxNesting⟩

def endsWell {ε ρ α : Type} : EStateM.Result ε ρ α → Bool
  | .ok _ _ => true
  | .error _ _ => false

theorem ok_of_ends_well {ε ρ α : Type} (result : EStateM.Result ε ρ α) (ends : endsWell result = true) :
    ∃ a s, result = .ok a s := by
  cases result with
  | ok a s => exact ⟨a, s, rfl⟩
  | error fault s => contradiction

theorem error_of_ends_badly {ε ρ α : Type} (result : EStateM.Result ε ρ α) (ends : endsWell result = false) :
    ∃ fault s, result = .error fault s := by
  cases result with
  | ok a s => contradiction
  | error fault s => exact ⟨fault, s, rfl⟩

-- With two more levels to go, parentheses are taken as an expression; a statement would need a third.
theorem productions_progress_at_parentheses :
    ∃ (s t t' : ParseState Tokenizer) (e : SExpr) (fault : Error),
      s.depth = 62 ∧
      (Production.openExpression : Production SExpr.actions SExpr).run (Grammar.counted SExpr.actions maxNesting) s =
        .ok e t ∧
      t.depth = 62 ∧ (∃ u, u ≠ [] ∧ s.tokens = u ++ t.tokens) ∧
      (Production.openStatement : Production SExpr.actions SExpr).run (Grammar.counted SExpr.actions maxNesting) s =
        .error fault t' ∧
      t'.depth = 62 ∧ t'.deepest ≤ maxNesting ∧
      (Grammar.guarding SExpr.actions maxNesting)^[maxNesting + 1] (Grammar.nested (σ := Tokenizer) SExpr.actions 0 0) =
        Grammar.counted SExpr.actions maxNesting ∧
      Grammar.program SExpr.actions maxNesting (.start (Tokenizer.ofSource "(a);")) =
        Grammar.programOf SExpr.actions (Grammar.counted SExpr.actions maxNesting)
          (.start (Tokenizer.ofSource "(a);")) := by
  obtain ⟨runs, _, _, same, programs⟩ := productions_progress SExpr.actions
  let s : ParseState Tokenizer := stateAfter (refill ⟨none, Tokenizer.ofSource "(a);", 62, 62⟩)
  have expression := runs (.openExpression : Production SExpr.actions SExpr) s
  have statement := runs (.openStatement : Production SExpr.actions SExpr) s
  obtain ⟨e, t, taken⟩ := ok_of_ends_well
    ((Production.openExpression : Production SExpr.actions SExpr).run (Grammar.counted SExpr.actions maxNesting) s)
    (by decide +kernel)
  obtain ⟨fault, t', stopped⟩ := error_of_ends_badly
    ((Production.openStatement : Production SExpr.actions SExpr).run (Grammar.counted SExpr.actions maxNesting) s)
    (by decide +kernel)
  obtain ⟨u, _, left, leftOut⟩ := expression.takes e t taken
  rw [taken] at expression
  rw [stopped] at statement
  have some : u ≠ [] := fun nothing => Bool.false_ne_true (leftOut.mp nothing)
  exact ⟨s, t, t', e, fault, rfl, taken, expression.balanced, ⟨u, some, left⟩, stopped, statement.balanced,
    statement.within, same _ (Grammar.nested_sound 0 0), programs _ rfl⟩

end ScriptFront
