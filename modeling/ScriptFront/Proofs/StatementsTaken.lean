import ScriptFront.Proofs.ExpressionsTaken

set_option autoImplicit false

/-! The parser takes every list of statements that the grammar derives. An `else` that can belong to
several conditionals goes to the last of them. -/

namespace ScriptFront

open Parse

def startsStatement : TokenKind → Bool
  | .mark .semicolon | .mark .leftBrace | .keyword .letWord | .keyword .defWord | .keyword .classWord
  | .keyword .returnWord | .keyword .ifWord | .keyword .whileWord | .keyword .doWord
  | .keyword .forWord => true
  | kind => startsExpression kind

section Sorts

variable (σ : Type) [TokenSource σ] (act : Actions) (limit : Nat)

-- Tokens of a statement that is complete whatever follows.
structure StatementTaken (u : List Token) : Prop where
  leads : ∃ kind, kindAhead u = some kind ∧ startsStatement kind = true
  taken : ∀ levels rest, Takes limit (Grammar.statement act (Grammar.nested (σ := σ) act limit levels))
    (u ++ rest) (leaving rest fun _ => True)

-- The tokens of a loop before its body.
structure LoopTaken (u : List Token) : Prop where
  leads : ∃ kind, kindAhead u = some kind ∧ startsStatement kind = true
  taken : ∀ levels tokens rest,
    Takes limit (Grammar.nested (σ := σ) act limit levels).statement tokens (leaving rest fun _ => True) →
    Takes limit (Grammar.statement act (Grammar.nested (σ := σ) act limit levels)) (u ++ tokens)
      (leaving rest fun _ => True)

structure BlockTaken (u : List Token) : Prop where
  leads : kindAhead u = some (.mark .leftBrace)
  taken : ∀ levels rest, Takes limit (Grammar.block act (Grammar.nested (σ := σ) act limit levels))
    (u ++ rest) (leaving rest fun _ => True)

-- A statement at whose end `waiting` conditionals have no `else` yet.
inductive Sentence : (waiting : Nat) → List Token → Prop where
  | simple (u : List Token) : StatementTaken σ act limit u → Sentence 0 u
  | loop (waiting : Nat) (u v : List Token) :
      LoopTaken σ act limit u → Sentence waiting v → Sentence waiting (u ++ v)
  | conditional (waiting : Nat) (word : Token) (u v : List Token) (test : act.Expression) :
      word.kind = .keyword .ifWord → Phrase.Condition act u test → Sentence waiting v →
      Sentence (waiting + 1) (word :: (u ++ v))
  | alternative (waiting : Nat) (word otherwise : Token) (u v w : List Token) (test : act.Expression) :
      word.kind = .keyword .ifWord → Phrase.Condition act u test → Sentence 0 v →
      otherwise.kind = .keyword .elseWord → Sentence waiting w →
      Sentence waiting (word :: (u ++ (v ++ otherwise :: w)))

inductive Sentences : List Token → Prop where
  | none : Sentences []
  | more (waiting : Nat) (u v : List Token) :
      Sentence σ act limit waiting u → Sentences v → Sentences (u ++ v)

end Sorts

section Statements

variable {σ : Type} [TokenSource σ] {act : Actions} {limit : Nat}

theorem sentence_leads (waiting : Nat) (u : List Token) (sentence : Sentence σ act limit waiting u) :
    ∃ kind, kindAhead u = some kind ∧ startsStatement kind = true := by
  cases sentence with
  | simple _ simple => exact simple.leads
  | loop _ u v head =>
      obtain ⟨kind, ahead, starts⟩ := head.leads
      exact ⟨kind, kind_ahead_append u v kind ahead, starts⟩
  | conditional _ word u v test kind => exact ⟨word.kind, rfl, by rw [kind]; rfl⟩
  | alternative _ word _ u v w test kind => exact ⟨word.kind, rfl, by rw [kind]; rfl⟩

-- An `else` behind a statement belongs to the last conditional that waits for one.
theorem sentence_else (waiting waiting' : Nat) (u w : List Token) (otherwise : Token)
    (sentence : Sentence σ act limit (waiting + 1) u) (isElse : otherwise.kind = .keyword .elseWord)
    (alternate : Sentence σ act limit waiting' w) :
    Sentence σ act limit (waiting + waiting') (u ++ otherwise :: w) := by
  generalize more : waiting + 1 = count at sentence
  induction sentence generalizing waiting with
  | simple => omega
  | loop count u v head _ ih =>
      rw [List.append_assoc]
      exact .loop _ u _ head (ih waiting more)
  | conditional count word u v test kind tested consequent ih =>
      rw [List.cons_append, List.append_assoc]
      cases count with
      | zero =>
          have last : waiting = 0 := by omega
          rw [last, Nat.zero_add]
          exact .alternative waiting' word otherwise u v w test kind tested consequent isElse alternate
      | succ count =>
          have inner := ih count rfl
          have same : waiting + waiting' = (count + waiting') + 1 := by omega
          rw [same]
          exact .conditional _ word u _ test kind tested inner
  | alternative count word between u v x test kind tested consequent isElse' _ _ ih =>
      rw [List.cons_append, List.append_assoc, List.append_assoc, List.cons_append]
      exact .alternative _ word between u v _ test kind tested consequent isElse' (ih waiting more)

namespace Grammar

-- What follows an expression in a statement.
def closes : TokenKind → Bool
  | .mark .semicolon | .mark .comma | .mark .rightParen => true
  | _ => false

theorem ahead_of_kind (t : Token) (rest : List Token) (kind : TokenKind) (fits : t.kind = kind) :
    kindAhead (t :: rest) = some kind :=
  congrArg some fits

theorem closes_stops (tokens : List Token) (kind : TokenKind) (ahead : kindAhead tokens = some kind)
    (ends : closes kind = true) : continuesExpression (kindAhead tokens) = false := by
  rw [ahead]
  unfold closes at ends
  split at ends <;> first | rfl | contradiction

theorem starts_statement (kind : TokenKind) (starts : startsExpression kind = true) :
    startsStatement kind = true := by
  unfold startsStatement
  split <;> first | rfl | exact starts

-- A token that begins an expression begins no other statement.
theorem takes_expression_statement {deep : Prop} (inner : Nested σ act) (tokens : List Token) (kind : TokenKind)
    (ends : act.Statement → List Token → Prop) (ahead : kindAhead tokens = some kind)
    (starts : startsExpression kind = true)
    (taken : TakesUnless deep limit (expressionStatement act inner) tokens ends) :
    TakesUnless deep limit (statement act inner) tokens ends := by
  apply takes_look
  rw [ahead]
  unfold startsExpression startsOperand startsPrimary at starts
  split
  all_goals first | exact taken | (rename_i same; injection same with same; subst same; contradiction)

theorem takes_names (u rest : List Token) (params : List act.Identifier)
    (list : Phrase.CommaList (Phrase.Name act) u params) (apart : kindAhead rest ≠ some (.mark .comma)) :
    Takes limit (commaList (identifier (σ := σ) act)) (u ++ rest) (leaving rest fun _ => True) := by
  apply takes_comma_list _ _ yields_identifier _ rest apart _ u params list
  intro u name after found _
  cases found with
  | intro id kind =>
      apply takes_expect kind
      exact takes_pure ⟨rfl, trivial⟩

theorem takes_super_class (u rest : List Token) (parent : Option act.Identifier)
    (found : Phrase.SuperClass act u parent) (apart : kindAhead rest ≠ some (.keyword .extendsWord)) :
    Takes limit (superClass (σ := σ) act) (u ++ rest) (leaving rest fun _ => True) := by
  cases found with
  | none =>
      apply takes_ahead
      have absent : (kindAhead ([] ++ rest) == some (.keyword .extendsWord)) = false := by simpa using apart
      rw [absent]
      exact takes_pure ⟨rfl, trivial⟩
  | some word id kind named =>
      change Takes limit _ (word :: id :: rest) _
      apply takes_ahead
      rw [kind_ahead_cons, kind]
      apply takes_expect kind
      apply takes_assoc
      apply takes_expect named
      apply takes_pure_bind
      exact takes_pure ⟨rfl, trivial⟩

section Expressions

variable (names : act.NamesPlaces)

include names

theorem takes_expression (levels : Nat) (u rest : List Token) (e : act.Expression)
    (found : Phrase.Assignment act u e) (stops : continuesExpression (kindAhead rest) = false) :
    Takes limit (nested (σ := σ) act limit levels).expression (u ++ rest) (leaving rest fun _ => True) :=
  takes_chain u rest (Phrase.assignment_taken names u e found).chain stops levels

theorem expression_leads (u : List Token) (e : act.Expression) (found : Phrase.Assignment act u e) :
    ∃ kind, kindAhead u = some kind ∧ startsExpression kind = true := by
  have taken : ExpressionTaken (List Token) act 0 true u e := Phrase.assignment_taken names u e found
  exact chain_leads true u taken.chain

theorem takes_condition (levels : Nat) (u rest : List Token) (test : act.Expression)
    (found : Phrase.Condition act u test) :
    Takes limit (condition act (nested (σ := σ) act limit levels)) (u ++ rest)
      (leaving rest fun _ => True) := by
  cases found with
  | intro u open_ close _ opens inside closes =>
      have ahead : kindAhead (close :: rest) = some (.mark .rightParen) := congrArg some closes
      rw [List.cons_append, List.append_assoc, List.singleton_append]
      apply takes_expect opens
      apply takes_then (takes_expression names levels u _ test inside (closes_stops _ _ ahead rfl))
      intro e _
      apply takes_expect closes
      exact takes_pure ⟨rfl, trivial⟩

theorem takes_optional_expression (levels : Nat) (u rest : List Token) (e : Option act.Expression)
    (follower : Mark) (ends : closes (.mark follower) = true) (ahead : kindAhead rest = some (.mark follower))
    (found : Phrase.OptionalExpression act u e) :
    Takes limit (optionalExpression act (nested (σ := σ) act limit levels) follower) (u ++ rest)
      (leaving rest fun _ => True) := by
  cases found with
  | none =>
      apply takes_ahead
      rw [List.nil_append, ahead, beq_self_eq_true]
      exact takes_pure ⟨rfl, trivial⟩
  | some _ e found =>
      obtain ⟨kind, first, starts⟩ := expression_leads names u e found
      have apart : startsExpression (.mark follower) = false := by
        cases follower <;> first | rfl | contradiction
      apply takes_ahead
      rw [not_ahead u rest kind _ first starts apart]
      apply takes_then (takes_expression names levels u rest e found (closes_stops _ _ ahead ends))
      intro e' _
      exact takes_pure ⟨rfl, trivial⟩

theorem takes_variable_declaration (levels : Nat) (u rest : List Token) (d : act.Declaration)
    (found : Phrase.VariableDeclaration act u d)
    (ahead : kindAhead rest = some (.mark .comma) ∨ kindAhead rest = some (.mark .semicolon)) :
    Takes limit (variableDeclaration act (nested (σ := σ) act limit levels)) (u ++ rest)
      (leaving rest fun _ => True) := by
  cases found with
  | bare id kind =>
      change Takes limit _ (id :: rest) _
      apply takes_assoc
      apply takes_expect kind
      apply takes_pure_bind
      apply takes_ahead
      apply takes_ahead
      have ends : (kindAhead rest == some (.mark .semicolon) ||
          kindAhead rest == some (.mark .comma)) = true := by
        rcases ahead with ahead | ahead <;> rw [ahead] <;> rfl
      rw [if_pos ends]
      exact takes_pure ⟨rfl, trivial⟩
  | initial id equals u e kind fits found =>
      have stops : continuesExpression (kindAhead rest) = false := by
        rcases ahead with ahead | ahead
        · exact closes_stops rest _ ahead rfl
        · exact closes_stops rest _ ahead rfl
      change Takes limit _ (id :: equals :: (u ++ rest)) _
      apply takes_assoc
      apply takes_expect kind
      apply takes_pure_bind
      apply takes_ahead
      apply takes_ahead
      rw [kind_ahead_cons, fits]
      apply takes_expect fits
      apply takes_then (takes_expression names levels u rest e found stops)
      intro init _
      exact takes_pure ⟨rfl, trivial⟩

theorem takes_variables (levels : Nat) (u rest : List Token) (declarations : List act.Declaration)
    (found : Phrase.Variables act u declarations) (ahead : kindAhead rest = some (.mark .semicolon)) :
    Takes limit (variableDeclarations act (nested (σ := σ) act limit levels)) (u ++ rest)
      (leaving rest fun _ => True) := by
  cases found with
  | intro word u _ kind list =>
      have sound : (nested (σ := σ) act limit levels).Sound := nested_sound limit levels
      apply takes_expect kind
      apply takes_comma_list _ _ (yields_variable_declaration sound) _ rest (by simp [ahead]) _ u _ list
      intro u d after found next
      apply takes_variable_declaration names levels u after d found
      rcases next with next | rfl
      · exact .inl next
      · exact .inr ahead

theorem takes_for_init (levels : Nat) (u rest : List Token) (init : Option act.ForInit)
    (found : Phrase.ForInit act u init) (ahead : kindAhead rest = some (.mark .semicolon)) :
    Takes limit (forInit act (nested (σ := σ) act limit levels)) (u ++ rest)
      (leaving rest fun _ => True) := by
  match u, init, found with
  | _, _, .none =>
      apply takes_ahead
      rw [List.nil_append, ahead, beq_self_eq_true]
      exact takes_pure ⟨rfl, trivial⟩
  | _, _, .variables u declarations found =>
      have first : kindAhead (u ++ rest) = some (.keyword .letWord) := by
        cases found with
        | intro word u _ kind list => exact congrArg some kind
      apply takes_ahead
      rw [first]
      apply takes_ahead
      rw [first]
      apply takes_then (takes_variables names levels u rest declarations found ahead)
      intro found' _
      exact takes_pure ⟨rfl, trivial⟩
  | _, _, .expression u e found =>
      obtain ⟨kind, first, starts⟩ := expression_leads names u e found
      apply takes_ahead
      rw [not_ahead u rest kind _ first starts rfl]
      apply takes_ahead
      rw [not_ahead u rest kind _ first starts rfl]
      apply takes_then (takes_expression names levels u rest e found (closes_stops _ _ ahead rfl))
      intro e' _
      exact takes_pure ⟨rfl, trivial⟩

theorem statement_variables (u : List Token) (stop : Token) (declarations : List act.Declaration)
    (found : Phrase.Variables act u declarations) (ends : stop.kind = .mark .semicolon) :
    StatementTaken σ act limit (u ++ [stop]) where
  leads := by
    cases found with
    | intro word u _ kind list => exact ⟨word.kind, rfl, by rw [kind]; rfl⟩
  taken levels rest := by
    have first : kindAhead (u ++ stop :: rest) = some (.keyword .letWord) := by
      cases found with
      | intro word u _ kind list => exact congrArg some kind
    rw [List.append_assoc, List.singleton_append]
    apply takes_look
    rw [first]
    apply takes_then (takes_variables names levels u (stop :: rest) declarations found (ahead_of_kind stop _ _ ends))
    intro _ _
    apply takes_expect ends
    exact takes_pure ⟨rfl, trivial⟩

theorem statement_returning (word stop : Token) (u : List Token) (argument : Option act.Expression)
    (kind : word.kind = .keyword .returnWord) (found : Phrase.OptionalExpression act u argument)
    (ends : stop.kind = .mark .semicolon) : StatementTaken σ act limit (word :: (u ++ [stop])) where
  leads := ⟨word.kind, rfl, by rw [kind]; rfl⟩
  taken levels rest := by
    rw [List.cons_append, List.append_assoc, List.singleton_append]
    apply takes_look
    rw [kind_ahead_cons, kind]
    apply takes_expect kind
    apply takes_then (takes_optional_expression names levels u (stop :: rest) argument .semicolon rfl
      (ahead_of_kind stop _ _ ends) found)
    intro _ _
    apply takes_expect ends
    exact takes_pure ⟨rfl, trivial⟩

theorem statement_expression (u : List Token) (stop : Token) (e : act.Expression)
    (found : Phrase.Assignment act u e) (ends : stop.kind = .mark .semicolon) :
    StatementTaken σ act limit (u ++ [stop]) where
  leads := by
    obtain ⟨kind, ahead, starts⟩ := expression_leads names u e found
    refine ⟨kind, kind_ahead_append u _ kind ahead, ?_⟩
    exact starts_statement kind starts
  taken levels rest := by
    obtain ⟨kind, ahead, starts⟩ := expression_leads names u e found
    have stops := closes_stops (stop :: rest) _ (ahead_of_kind stop _ _ ends) rfl
    rw [List.append_assoc, List.singleton_append]
    apply takes_expression_statement _ _ kind _ (kind_ahead_append u _ kind ahead) starts
    apply takes_then (takes_expression names levels u (stop :: rest) e found stops)
    intro _ _
    apply takes_expect ends
    exact takes_pure ⟨rfl, trivial⟩

theorem loop_while (word : Token) (u : List Token) (test : act.Expression)
    (kind : word.kind = .keyword .whileWord) (tested : Phrase.Condition act u test) :
    LoopTaken σ act limit (word :: u) where
  leads := ⟨word.kind, rfl, by rw [kind]; rfl⟩
  taken levels tokens rest body := by
    apply takes_look
    rw [List.cons_append, kind_ahead_cons, kind]
    apply takes_expect kind
    apply takes_then (takes_condition names levels u tokens test tested)
    intro _ _
    apply takes_then body
    intro _ _
    exact takes_pure ⟨rfl, trivial⟩

theorem loop_for (word open_ first second close : Token) (u v w : List Token) (init : Option act.ForInit)
    (test update : Option act.Expression) (kind : word.kind = .keyword .forWord)
    (opens : open_.kind = .mark .leftParen) (found : Phrase.ForInit act u init)
    (ends : first.kind = .mark .semicolon) (tested : Phrase.OptionalExpression act v test)
    (ends' : second.kind = .mark .semicolon) (updated : Phrase.OptionalExpression act w update)
    (shuts : close.kind = .mark .rightParen) :
    LoopTaken σ act limit (word :: open_ :: (u ++ first :: (v ++ second :: (w ++ [close])))) where
  leads := ⟨word.kind, rfl, by rw [kind]; rfl⟩
  taken levels tokens rest body := by
    simp only [List.cons_append, List.append_assoc, List.nil_append]
    apply takes_look
    rw [kind_ahead_cons, kind]
    apply takes_expect kind
    apply takes_expect opens
    apply takes_then (takes_for_init names levels u _ init found (ahead_of_kind first _ _ ends))
    intro _ _
    apply takes_expect ends
    apply takes_then (takes_optional_expression names levels v _ test .semicolon rfl
      (ahead_of_kind second _ _ ends') tested)
    intro _ _
    apply takes_expect ends'
    apply takes_then (takes_optional_expression names levels w _ update .rightParen rfl
      (ahead_of_kind close _ _ shuts) updated)
    intro _ _
    apply takes_expect shuts
    apply takes_then body
    intro _ _
    exact takes_pure ⟨rfl, trivial⟩

-- A statement is taken wherever no `else` that it waits for follows.
theorem takes_sentence (waiting : Nat) (u : List Token) (sentence : Sentence σ act limit waiting u)
    (levels : Nat) (rest : List Token)
    (apart : 0 < waiting → kindAhead rest ≠ some (.keyword .elseWord)) :
    Takes limit (nested (σ := σ) act limit levels).statement (u ++ rest) (leaving rest fun _ => True) := by
  induction sentence generalizing levels rest with
  | simple u simple =>
      cases levels with
      | zero => exact takes_too_deep
      | succ levels => exact takes_deeper (simple.taken levels rest)
  | loop waiting u v head _ ih =>
      cases levels with
      | zero => exact takes_too_deep
      | succ levels =>
          rw [List.append_assoc]
          exact takes_deeper (head.taken levels (v ++ rest) rest (ih levels rest apart))
  | conditional waiting word u v test kind tested _ ih =>
      cases levels with
      | zero => exact takes_too_deep
      | succ levels =>
          have plain := apart (Nat.succ_pos _)
          apply takes_deeper
          apply takes_look
          rw [List.cons_append, List.append_assoc, kind_ahead_cons, kind]
          apply takes_expect kind
          apply takes_then (takes_condition names levels u (v ++ rest) test tested)
          intro _ _
          apply takes_then (ih levels rest fun _ => plain)
          intro _ _
          apply takes_ahead
          have absent : (kindAhead rest == some (.keyword .elseWord)) = false := by simpa using plain
          rw [absent]
          exact takes_pure ⟨rfl, trivial⟩
  | alternative waiting word otherwise u v w test kind tested _ isElse _ consequent alternate =>
      cases levels with
      | zero => exact takes_too_deep
      | succ levels =>
          apply takes_deeper
          apply takes_look
          rw [List.cons_append, List.append_assoc, List.append_assoc, List.cons_append, kind_ahead_cons, kind]
          apply takes_expect kind
          apply takes_then (takes_condition names levels u _ test tested)
          intro _ _
          apply takes_then (consequent levels (otherwise :: (w ++ rest)) fun more => absurd more (by omega))
          intro _ _
          apply takes_ahead
          rw [kind_ahead_cons, isElse]
          apply takes_expect isElse
          apply takes_then (alternate levels rest apart)
          intro _ _
          exact takes_pure ⟨rfl, trivial⟩

-- Statements are taken up to the token that the list ends at.
theorem takes_sentences (levels : Nat) (stop : Option TokenKind)
    (ends : stop = none ∨ stop = some (.mark .rightBrace)) (u rest : List Token)
    (sentences : Sentences σ act limit u) (ahead : kindAhead rest = stop) (done : List act.Statement) :
    Takes limit
      (repeatWhile (fun kind => kind.isSome && kind != stop)
        (fun done => do return (← (nested (σ := σ) act limit levels).statement) :: done) done)
      (u ++ rest) (leaving rest fun _ => True) := by
  induction sentences generalizing done with
  | none =>
      apply takes_loop_end (by simp [ahead])
      exact ⟨rfl, trivial⟩
  | more waiting u v first later ih =>
      have sound : (nested (σ := σ) act limit levels).Sound := nested_sound limit levels
      obtain ⟨kind, begins, starts⟩ := sentence_leads waiting u first
      have goes : (kindAhead (u ++ (v ++ rest))).isSome && kindAhead (u ++ (v ++ rest)) != stop := by
        rw [kind_ahead_append u _ kind begins]
        rcases ends with rfl | rfl
        · rfl
        · have apart : kind ≠ .mark .rightBrace := by rintro rfl; contradiction
          simpa using apart
      have apart : kindAhead (v ++ rest) ≠ some (.keyword .elseWord) := by
        cases later with
        | none =>
            rw [List.nil_append, ahead]
            rcases ends with rfl | rfl <;> simp
        | more waiting' u' v' second =>
            obtain ⟨kind', begins', starts'⟩ := sentence_leads waiting' u' second
            rw [List.append_assoc, kind_ahead_append u' _ kind' begins']
            rintro same
            injection same with same
            subst same
            contradiction
      rw [List.append_assoc]
      apply takes_loop_step (by simp) (lowers_statement_step sound) goes
      apply takes_assoc
      apply takes_then (takes_sentence names waiting u first levels (v ++ rest) fun _ => apart)
      intro s _
      apply takes_pure_bind
      exact ih (s :: done)

theorem takes_statements (levels : Nat) (stop : Option TokenKind)
    (ends : stop = none ∨ stop = some (.mark .rightBrace)) (u rest : List Token)
    (sentences : Sentences σ act limit u) (ahead : kindAhead rest = stop) :
    Takes limit (statements act (nested (σ := σ) act limit levels) stop) (u ++ rest)
      (leaving rest fun _ => True) := by
  apply takes_then (takes_sentences names levels stop ends u rest sentences ahead [])
  intro done _
  exact takes_pure ⟨rfl, trivial⟩

theorem block_of_sentences (open_ close : Token) (u : List Token) (opens : open_.kind = .mark .leftBrace)
    (sentences : Sentences σ act limit u) (shuts : close.kind = .mark .rightBrace) :
    BlockTaken σ act limit (open_ :: (u ++ [close])) where
  leads := ahead_of_kind open_ _ _ opens
  taken levels rest := by
    rw [List.cons_append, List.append_assoc, List.singleton_append]
    apply takes_expect opens
    apply takes_then (takes_statements names levels _ (.inr rfl) u (close :: rest) sentences
      (ahead_of_kind close _ _ shuts))
    intro body _
    apply takes_expect shuts
    exact takes_pure ⟨rfl, trivial⟩

end Expressions

theorem statement_empty (stop : Token) (ends : stop.kind = .mark .semicolon) :
    StatementTaken σ act limit [stop] where
  leads := ⟨stop.kind, rfl, by rw [ends]; rfl⟩
  taken levels rest := by
    change Takes limit _ (stop :: rest) _
    apply takes_look
    rw [kind_ahead_cons, ends]
    apply takes_expect ends
    exact takes_pure ⟨rfl, trivial⟩

theorem statement_block (u : List Token) (block : BlockTaken σ act limit u) :
    StatementTaken σ act limit u where
  leads := ⟨_, block.leads, rfl⟩
  taken levels rest := by
    apply takes_look
    rw [kind_ahead_append u rest _ block.leads]
    apply takes_then (block.taken levels rest)
    intro _ _
    exact takes_pure ⟨rfl, trivial⟩

theorem statement_function (word name : Token) (u v : List Token) (params : List act.Identifier)
    (kind : word.kind = .keyword .defWord) (named : name.kind = .identifier)
    (found : Phrase.Parameters act u params) (block : BlockTaken σ act limit v) :
    StatementTaken σ act limit (word :: name :: (u ++ v)) where
  leads := ⟨word.kind, rfl, by rw [kind]; rfl⟩
  taken levels rest := by
    rw [List.cons_append, List.cons_append, List.append_assoc]
    apply takes_look
    rw [kind_ahead_cons, kind]
    apply takes_expect kind
    apply takes_assoc
    apply takes_expect named
    apply takes_pure_bind
    cases found with
    | none open_ close opens shuts =>
        change Takes limit _ (open_ :: close :: (v ++ rest)) _
        apply takes_expect opens
        apply takes_ahead
        rw [kind_ahead_cons, shuts]
        apply takes_pure_bind
        apply takes_expect shuts
        apply takes_then (block.taken levels rest)
        intro _ _
        exact takes_pure ⟨rfl, trivial⟩
    | some u open_ close _ opens list shuts =>
        have first : ∃ kind, kindAhead u = some kind ∧ startsExpression kind = true := by
          cases list with
          | one _ _ found =>
              cases found with
              | intro id kind => exact ⟨_, ahead_of_kind id _ _ kind, rfl⟩
          | more _ _ _ _ _ found =>
              cases found with
              | intro id kind => exact ⟨_, ahead_of_kind id _ _ kind, rfl⟩
        obtain ⟨other, ahead, starts⟩ := first
        rw [List.cons_append, List.append_assoc, List.singleton_append]
        apply takes_expect opens
        apply takes_ahead
        rw [not_ahead u _ other _ ahead starts rfl]
        apply takes_then (takes_names u (close :: (v ++ rest)) params list (by simp [shuts]))
        intro _ _
        apply takes_expect shuts
        apply takes_then (block.taken levels rest)
        intro _ _
        exact takes_pure ⟨rfl, trivial⟩

theorem statement_class (word id : Token) (u v : List Token) (parent : Option act.Identifier)
    (kind : word.kind = .keyword .classWord) (named : id.kind = .identifier)
    (found : Phrase.SuperClass act u parent) (block : BlockTaken σ act limit v) :
    StatementTaken σ act limit (word :: id :: (u ++ v)) where
  leads := ⟨word.kind, rfl, by rw [kind]; rfl⟩
  taken levels rest := by
    have apart : kindAhead (v ++ rest) ≠ some (.keyword .extendsWord) := by
      rw [kind_ahead_append v rest _ block.leads]
      simp
    rw [List.cons_append, List.cons_append, List.append_assoc]
    apply takes_look
    rw [kind_ahead_cons, kind]
    apply takes_expect kind
    apply takes_assoc
    apply takes_expect named
    apply takes_pure_bind
    apply takes_then (takes_super_class u (v ++ rest) parent found apart)
    intro _ _
    apply takes_then (block.taken levels rest)
    intro _ _
    exact takes_pure ⟨rfl, trivial⟩

theorem statement_do_while (names : act.NamesPlaces) (word again stop : Token) (u v : List Token)
    (test : act.Expression) (waiting : Nat) (kind : word.kind = .keyword .doWord)
    (body : Sentence σ act limit waiting u) (kind' : again.kind = .keyword .whileWord)
    (tested : Phrase.Condition act v test) (ends : stop.kind = .mark .semicolon) :
    StatementTaken σ act limit (word :: (u ++ again :: (v ++ [stop]))) where
  leads := ⟨word.kind, rfl, by rw [kind]; rfl⟩
  taken levels rest := by
    simp only [List.cons_append, List.append_assoc, List.nil_append]
    apply takes_look
    rw [kind_ahead_cons, kind]
    apply takes_expect kind
    apply takes_then (takes_sentence names waiting u body levels (again :: (v ++ stop :: rest)) fun _ => by
      simp [kind'])
    intro _ _
    apply takes_expect kind'
    apply takes_then (takes_condition names levels v (stop :: rest) test tested)
    intro _ _
    apply takes_expect ends
    exact takes_pure ⟨rfl, trivial⟩

end Grammar

namespace Phrase

open Grammar

mutual
theorem statement_taken (names : act.NamesPlaces) (u : List Token) (s : act.Statement)
    (found : Statement act u s) : ∃ waiting, Sentence σ act limit waiting u := by
  match u, s, found with
  | _, _, .empty stop ends => exact ⟨0, .simple _ (statement_empty stop ends)⟩
  | _, _, .block u body found =>
      exact ⟨0, .simple u (statement_block u (block_taken names u body found))⟩
  | _, _, .variables u stop declarations found ends =>
      exact ⟨0, .simple _ (statement_variables names u stop declarations found ends)⟩
  | _, _, .function word name u v params body kind named list found =>
      exact ⟨0, .simple _ (statement_function word name u v params kind named list
        (block_taken names v body found))⟩
  | _, _, .classDeclaration word id u v parent body kind named super found =>
      exact ⟨0, .simple _ (statement_class word id u v parent kind named super
        (block_taken names v body found))⟩
  | _, _, .returning word stop u argument kind found ends =>
      exact ⟨0, .simple _ (statement_returning names word stop u argument kind found ends)⟩
  | _, _, .conditional word u v test consequent kind tested found =>
      obtain ⟨waiting, sentence⟩ := statement_taken names v consequent found
      exact ⟨waiting + 1, .conditional waiting word u v test kind tested sentence⟩
  | _, _, .alternative word otherwise u v w test consequent alternate kind tested found isElse found' =>
      obtain ⟨waiting, sentence⟩ := statement_taken names v consequent found
      obtain ⟨waiting', sentence'⟩ := statement_taken names w alternate found'
      cases waiting with
      | zero =>
          exact ⟨waiting', .alternative waiting' word otherwise u v w test kind tested sentence isElse
            sentence'⟩
      | succ waiting =>
          have longer := sentence_else waiting waiting' v w otherwise sentence isElse sentence'
          exact ⟨_, .conditional _ word u _ test kind tested longer⟩
  | _, _, .whileLoop word u v test body kind tested found =>
      obtain ⟨waiting, sentence⟩ := statement_taken names v body found
      exact ⟨waiting, .loop waiting (word :: u) v (loop_while names word u test kind tested) sentence⟩
  | _, _, .doWhileLoop word again stop u v body test kind found kind' tested ends =>
      obtain ⟨waiting, sentence⟩ := statement_taken names u body found
      exact ⟨0, .simple _ (statement_do_while names word again stop u v test waiting kind sentence kind'
        tested ends)⟩
  | _, _, .forLoop word open_ first second close u v w x init test update body kind opens found ends tested
      ends' updated shuts found' =>
      obtain ⟨waiting, sentence⟩ := statement_taken names x body found'
      have head : LoopTaken σ act limit _ := loop_for names word open_ first second close u v w init test
        update kind opens found ends tested ends' updated shuts
      refine ⟨waiting, ?_⟩
      simpa using Sentence.loop waiting _ x head sentence
  | _, _, .expression u stop e found ends =>
      exact ⟨0, .simple _ (statement_expression names u stop e found ends)⟩

theorem block_taken (names : act.NamesPlaces) (u : List Token) (body : act.Block)
    (found : Block act u body) : BlockTaken σ act limit u := by
  match u, body, found with
  | _, _, .intro open_ close u body opens found shuts =>
      exact block_of_sentences names open_ close u opens (statements_taken names u body found) shuts

theorem statements_taken (names : act.NamesPlaces) (u : List Token) (body : List act.Statement)
    (found : Statements act u body) : Sentences σ act limit u := by
  match u, body, found with
  | _, _, .none => exact .none
  | _, _, .more u v first rest found later =>
      obtain ⟨waiting, sentence⟩ := statement_taken names u first found
      exact .more waiting u v sentence (statements_taken names v rest later)
end

end Phrase

end Statements

end ScriptFront
