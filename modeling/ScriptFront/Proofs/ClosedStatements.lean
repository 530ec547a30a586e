import ScriptFront.Proofs.Replay
import ScriptFront.Proofs.StatementsTaken

set_option autoImplicit false

/-! A statement that ends the input is a statement before other tokens too. The parser has seen no token
behind it, and a statement that it has taken goes on at an `else` only. -/

namespace ScriptFront

open Parse

namespace Phrase

variable {act : Actions}

-- The first token is of a kind that can start an expression.
def LeadsExpression (u : List Token) : Prop :=
  ∃ kind, kindAhead u = some kind ∧ startsExpression kind = true

theorem leads_append (u v : List Token) (leads : LeadsExpression u) : LeadsExpression (u ++ v) := by
  obtain ⟨kind, ahead, starts⟩ := leads
  exact ⟨kind, kind_ahead_append u v kind ahead, starts⟩

theorem leads_cons (t : Token) (u : List Token) (kind : TokenKind) (fits : t.kind = kind)
    (starts : startsExpression kind = true) : LeadsExpression (t :: u) :=
  ⟨t.kind, rfl, fits ▸ starts⟩

theorem primary_leads (u : List Token) (e : act.Expression) (derived : Primary act u e) : LeadsExpression u := by
  cases derived with
  | number t value kind => exact leads_cons t [] _ kind rfl
  | string t kind => exact leads_cons t [] _ kind rfl
  | true t kind => exact leads_cons t [] _ kind rfl
  | false t kind => exact leads_cons t [] _ kind rfl
  | null t kind => exact leads_cons t [] _ kind rfl
  | parenthesized u open_ close e kind => exact leads_cons open_ _ _ kind rfl
  | identifier t kind => exact leads_cons t [] _ kind rfl
  | this t kind => exact leads_cons t [] _ kind rfl
  | new word u v callee found kind => exact leads_cons word _ _ kind rfl

theorem member_leads (u : List Token) (e : act.Expression) (derived : Member act u e) : LeadsExpression u := by
  match u, e, derived with
  | _, _, .computed u v open_ close object property found _ _ _ =>
      exact leads_append u _ (member_leads u object found)
  | _, _, .named u dot id object found _ _ => exact leads_append u _ (member_leads u object found)
  | _, _, .primary u e found => exact primary_leads u e found

theorem calls_leads (u : List Token) (e : act.Expression) (derived : Calls act u e) : LeadsExpression u := by
  match u, e, derived with
  | _, _, .more u v callee found calls _ => exact leads_append u v (calls_leads u callee calls)
  | _, _, .member u v callee found member _ => exact leads_append u v (member_leads u callee member)
  | _, _, .super word v found kind _ => exact leads_cons word v _ kind rfl

theorem ladder_leads (rung : Option Rung) (u : List Token) (e : act.Expression)
    (derived : Ladder act rung u e) : LeadsExpression u := by
  match rung, u, e, derived with
  | _, _, _, .tighter rung u e found => exact ladder_leads _ u e found
  | _, _, _, .operator rung u v op left right build found _ _ _ => exact leads_append u _ (ladder_leads _ u left found)
  | _, _, _, .unary op v operator e kind _ _ =>
      rcases kind with kind | kind
      · exact leads_cons op v _ kind rfl
      · exact leads_cons op v _ kind rfl
  | _, _, _, .leftHandSide u e (.member _ _ found) => exact member_leads u e found
  | _, _, _, .leftHandSide u e (.calls _ _ found) => exact calls_leads u e found

theorem assignment_leads (u : List Token) (e : act.Expression) (derived : Assignment act u e) :
    LeadsExpression u := by
  cases derived with
  | level u e found => exact ladder_leads _ u e found
  | assign u v op left value place operator found => exact leads_append u _ (ladder_leads _ u left found)

theorem block_opens (u : List Token) (body : act.Block) (derived : Block act u body) :
    kindAhead u = some (.mark .leftBrace) := by
  cases derived with
  | intro open_ close u body kind => exact congrArg some kind

theorem variables_open (u : List Token) (declarations : List act.Declaration)
    (derived : Variables act u declarations) : kindAhead u = some (.keyword .letWord) := by
  cases derived with
  | intro word u declarations kind => exact congrArg some kind

-- No statement starts with the brace that closes a block.
theorem statement_leads (u : List Token) (s : act.Statement) (derived : Statement act u s) :
    ∃ kind, kindAhead u = some kind ∧ startsStatement kind = true := by
  cases derived with
  | empty stop kind => exact ⟨_, congrArg some kind, rfl⟩
  | block _ body found => exact ⟨_, block_opens u body found, rfl⟩
  | «variables» u stop declarations found =>
      exact ⟨_, kind_ahead_append u _ _ (variables_open u declarations found), rfl⟩
  | function word name u v params body kind => exact ⟨_, congrArg some kind, rfl⟩
  | classDeclaration word id u v parent body kind => exact ⟨_, congrArg some kind, rfl⟩
  | returning word stop u argument kind => exact ⟨_, congrArg some kind, rfl⟩
  | conditional word u v test consequent kind => exact ⟨_, congrArg some kind, rfl⟩
  | alternative word otherwise u v w test consequent alternate kind => exact ⟨_, congrArg some kind, rfl⟩
  | whileLoop word u v test body kind => exact ⟨_, congrArg some kind, rfl⟩
  | doWhileLoop word again stop u v body test kind => exact ⟨_, congrArg some kind, rfl⟩
  | forLoop word open_ first second close u v w x init test update body kind =>
      exact ⟨_, congrArg some kind, rfl⟩
  | expression u stop e found =>
      obtain ⟨kind, ahead, starts⟩ := assignment_leads u e found
      refine ⟨kind, kind_ahead_append u _ kind ahead, ?_⟩
      unfold startsStatement
      split <;> first | rfl | exact starts

end Phrase

variable {σ τ : Type} [TokenSource σ] [TokenSource τ] {α β γ : Type}

-- Tokens like those in `u` come before `stop`. There stands a token like `next` or, where `next` is the end
-- of the input, anything but an `else`.
def Follows (place : Option Token × τ) (u : List Token) (next : Option Token) (stop : Option Token × τ) : Prop :=
  ∃ v, Reads place v stop ∧ v.map Token.lexeme = u.map Token.lexeme ∧
    (stop.1.map Token.lexeme = next.map Token.lexeme ∨
      next = none ∧ stop.1.map Token.kind ≠ some (.keyword .elseWord))

omit [TokenSource τ] in
theorem head_at_end (s s' : ParseState σ) (u : List Token) (read : Reads s.ahead u s'.ahead)
    (atEnd : s'.lookahead = none) : s.lookahead = u.head? := by
  rw [show s.lookahead = s.ahead.1 from rfl, head_of_reads _ _ u read, show s'.ahead.1 = none from atEnd,
    Option.or_none]

theorem follows_of_retraces (place stop : Option Token × τ) (u : List Token) (next : Option Token)
    (retraces : Retraces place u next stop) : Follows place u next stop := by
  obtain ⟨v, read, same, last⟩ := retraces
  exact ⟨v, read, same, .inl last⟩

theorem follows_append (p q : Option Token × σ) (place stop : Option Token × τ) (u v : List Token)
    (some : v ≠ []) (read : Reads p v q) (follows : Follows place (u ++ v) q.1 stop) :
    ∃ middle, Retraces place u p.1 middle ∧ Follows middle v q.1 stop := by
  obtain ⟨w, read', same, last⟩ := follows
  rw [List.map_append] at same
  obtain ⟨x, y, rfl, first, second⟩ := List.map_eq_append_iff.mp same
  obtain ⟨middle, before, behind⟩ := reads_split place stop x y read'
  obtain ⟨t, v', rfl⟩ := List.exists_cons_of_ne_nil some
  obtain ⟨t', y', rfl, lexeme, _⟩ := List.map_eq_cons_iff.mp second
  refine ⟨middle, ⟨x, before, first, ?_⟩, t' :: y', behind, second, last⟩
  rw [head_of_reads p q _ read, head_of_reads middle stop _ behind]
  exact congrArg Option.some lexeme

-- Where tokens like those in `u` come, `q` ends with the same value, and if nothing came behind `u`, then
-- whatever comes now but an `else`.
structure EndsBehind (q : Parse τ α) (a : α) (u : List Token) (next : Option Token) : Prop where
  ok : ∀ (t : ParseState τ) stop, Follows t.ahead u next stop → ∃ t', q t = .ok a t' ∧ t'.ahead = stop
  broken : next = none → ∀ (t : ParseState τ) v fault, Breaks t.ahead v fault →
    v.map Token.lexeme = u.map Token.lexeme → ∃ t', q t = .error (.lexical fault) t'

-- Every run of `p` that ends well takes tokens, and `q` ends behind like ones.
def Closes (p : Parse σ α) (q : Parse τ α) : Prop :=
  ∀ s a s', p s = .ok a s' → ∃ u, u ≠ [] ∧ Reads s.ahead u s'.ahead ∧ EndsBehind q a u s'.lookahead

theorem closes_fail (fault : GrammarError) (q : Parse τ α) : Closes (fail fault : Parse σ α) q := by
  intro s a s' run
  cases run

theorem closes_last (kind : TokenKind) (a : α) :
    Closes (expect kind >>= fun _ => pure a : Parse σ α) (expect kind >>= fun _ => pure a : Parse τ α) := by
  intro s b s' run
  obtain ⟨token, m, taken, ended⟩ := (bind_ok_iff _ _ _ _ _).mp run
  injection ended with same after
  subst same after
  obtain ⟨u, ⟨one, fits⟩, read⟩ := yields_expect kind s token m taken
  subst one
  refine ⟨[token], by simp, read, fun t stop follows => ?_, fun _ t v fault breaks same => ?_⟩
  · obtain ⟨v, read', same, _⟩ := follows
    obtain ⟨token', rfl, lexeme⟩ := List.map_eq_singleton_iff.mp same
    obtain ⟨t', taken', place⟩ := expect_of_reads kind t token' stop ((Prod.mk.inj lexeme).1.trans fits) read'
    exact ⟨t', (bind_ok_iff _ _ _ _ _).mpr ⟨token', t', taken', rfl⟩, place⟩
  · obtain ⟨token', rfl, lexeme⟩ := List.map_eq_singleton_iff.mp same
    obtain ⟨t', failed⟩ := expect_of_breaks kind t token' fault ((Prod.mk.inj lexeme).1.trans fits) breaks
    exact ⟨t', (bind_error_iff _ _ _ _ _).mpr (.inl failed)⟩

theorem closes_map (f : α → β) (p : Parse σ α) (q : Parse τ α) (closes : Closes p q) :
    Closes (p >>= fun a => pure (f a)) (q >>= fun a => pure (f a)) := by
  intro s b s' run
  obtain ⟨a, m, front, ended⟩ := (bind_ok_iff _ _ _ _ _).mp run
  injection ended with same after
  subst same after
  obtain ⟨u, some, read, ends⟩ := closes s a m front
  refine ⟨u, some, read, fun t stop follows => ?_, fun atEnd t v fault breaks same => ?_⟩
  · obtain ⟨t', front', place⟩ := ends.ok t stop follows
    exact ⟨t', (bind_ok_iff _ _ _ _ _).mpr ⟨a, t', front', rfl⟩, place⟩
  · obtain ⟨t', failed⟩ := ends.broken atEnd t v fault breaks same
    exact ⟨t', (bind_error_iff _ _ _ _ _).mpr (.inl failed)⟩

-- Only the last part of a statement has the end of the input behind it.
theorem closes_bind {δ : Type} {first : γ → δ → Prop} {p : Parse σ γ} {q : Parse τ δ} {p' : γ → Parse σ α}
    {q' : δ → Parse τ α} (begun : Replays first p q) (later : ∀ a b, first a b → Closes (p' a) (q' b)) :
    Closes (p >>= p') (q >>= q') := by
  intro s c s' run
  obtain ⟨a, m, front, back⟩ := (bind_ok_iff _ _ _ _ _).mp run
  obtain ⟨⟨b, same⟩, u, read, begins⟩ := begun.ok s a m front
  obtain ⟨v, some, read', _⟩ := later a b same m c s' back
  have ends (b : δ) (same : first a b) : EndsBehind (q' b) c v s'.lookahead := by
    obtain ⟨w, _, read'', ends⟩ := later a b same m c s' back
    exact reads_unique _ _ v w read' read'' ▸ ends
  refine ⟨u ++ v, by simp [some], reads_append _ _ _ u v read read', fun t stop follows => ?_,
    fun atEnd t w fault breaks equal => ?_⟩
  · obtain ⟨middle, retraces, behind⟩ := follows_append _ _ _ _ u v some read' follows
    obtain ⟨b, m', front', place, same⟩ := begins t middle retraces
    obtain ⟨t', back', place'⟩ := (ends b same).ok m' stop (place ▸ behind)
    exact ⟨t', (bind_ok_iff _ _ _ _ _).mpr ⟨b, m', front', back'⟩, place'⟩
  · have ahead : m.lookahead = v.head? := head_at_end m s' v read' atEnd
    obtain ⟨middle, y, retraces, breaks', like⟩ := breaks_retraces _ u v w _ fault some ahead breaks equal
    obtain ⟨b, m', front', place, same⟩ := begins t middle retraces
    obtain ⟨t', failed⟩ := (ends b same).broken atEnd m' y fault (place ▸ breaks') like
    exact ⟨t', (bind_error_iff _ _ _ _ _).mpr (.inr ⟨b, m', front', failed⟩)⟩

theorem closes_look {p : Option TokenKind → Parse σ α} {q : Option TokenKind → Parse τ α}
    (each : ∀ kind, Closes (p kind) (q kind)) : Closes (lookaheadKind >>= p) (lookaheadKind >>= q) := by
  intro s a s' run
  obtain ⟨u, some, read, ends⟩ := each (s.lookahead.map Token.kind) s a s' run
  obtain ⟨token, rest, rfl⟩ := List.exists_cons_of_ne_nil some
  -- The first token is a like one, so the same way is gone at it.
  have turn (t : ParseState τ) (token' : Token) (ahead : t.lookahead = Option.some token')
      (like : token'.lexeme = token.lexeme) : (lookaheadKind >>= q) t = q (s.lookahead.map Token.kind) t := by
    have first : s.lookahead = Option.some token := head_of_reads _ _ _ read
    have kind : token'.kind = token.kind := (Prod.mk.inj like).1
    change q (t.lookahead.map Token.kind) t = _
    rw [ahead, first, Option.map_some, Option.map_some, kind]
  refine ⟨token :: rest, some, read, fun t stop follows => ?_, fun atEnd t v fault breaks same => ?_⟩
  · obtain ⟨v, read', same, _⟩ := id follows
    obtain ⟨token', v', rfl, like, _⟩ := List.map_eq_cons_iff.mp same
    rw [turn t token' (head_of_reads _ _ _ read') like]
    exact ends.ok t stop follows
  · obtain ⟨token', v', rfl, like, _⟩ := List.map_eq_cons_iff.mp same
    rw [turn t token' (head_of_breaks _ _ _ breaks) like]
    exact ends.broken atEnd t _ fault breaks same

theorem closes_ahead {kind : TokenKind} {p : Bool → Parse σ α} {q : Bool → Parse τ α}
    (each : ∀ answer, Closes (p answer) (q answer)) : Closes (isAhead kind >>= p) (isAhead kind >>= q) :=
  closes_look fun found => each (found == some kind)

theorem closes_deeper {p : Parse σ α} {q : Parse τ α} (inside : Closes p q) : Closes (deeper p) (deeper q) := by
  intro s a s' run
  unfold deeper at run
  split at run
  · rename_i after result
    injection run with same ended
    subst same ended
    obtain ⟨u, some, read, ends⟩ := inside s.enter _ after result
    refine ⟨u, some, read, fun t stop follows => ?_, fun atEnd t v fault breaks same => ?_⟩
    · obtain ⟨t', result', place⟩ := ends.ok t.enter stop follows
      refine ⟨t'.leave, ?_, place⟩
      rw [deeper, result']
    · obtain ⟨t', failed⟩ := ends.broken atEnd t.enter v fault breaks same
      refine ⟨t'.leave, ?_⟩
      rw [deeper, failed]
  · cases run

omit [TokenSource σ] in
theorem look_run (q : Option TokenKind → Parse σ α) (s : ParseState σ) :
    (lookaheadKind >>= q) s = q (s.lookahead.map Token.kind) s :=
  rfl

omit [TokenSource σ] in
theorem ahead_run (kind : TokenKind) (p p' : Parse σ α) (s : ParseState σ) :
    (isAhead kind >>= fun found => if found = true then p else p') s =
      if s.lookahead.map Token.kind = some kind then p s else p' s := by
  change (if (s.lookahead.map Token.kind == some kind) = true then p else p') s = _
  by_cases found : s.lookahead.map Token.kind = some kind
  · rw [if_pos found, if_pos (beq_iff_eq.mpr found)]
  · rw [if_neg found, if_neg (fun same => found (beq_iff_eq.mp same))]

-- The part behind an `else` may be missing at the end of the input, and is missing then before any other
-- token.
theorem closes_otherwise (f : α → β) {p : Parse σ α} {q : Parse τ α} {p' : α → Parse σ β} {q' : α → Parse τ β}
    (closes : Closes p q) (later : ∀ a, Closes (p' a) (q' a)) :
    Closes
      (p >>= fun a => isAhead (.keyword .elseWord) >>= fun found => if found = true then p' a else pure (f a))
      (q >>= fun a => isAhead (.keyword .elseWord) >>= fun found => if found = true then q' a else pure (f a)) := by
  intro s c s' run
  obtain ⟨a, m, front, back⟩ := (bind_ok_iff _ _ _ _ _).mp run
  obtain ⟨u, some, read, ends⟩ := closes s a m front
  rw [ahead_run] at back
  by_cases otherwise : m.lookahead.map Token.kind = Option.some (.keyword .elseWord)
  · rw [if_pos otherwise] at back
    obtain ⟨v, some', read', ends'⟩ := later a m c s' back
    have goes (t m' : ParseState τ) (middle : Option Token × τ) (retraces : Retraces t.ahead u m.lookahead middle)
        (place : m'.ahead = middle) : m'.lookahead.map Token.kind = Option.some (.keyword .elseWord) := by
      obtain ⟨_, _, _, last⟩ := retraces
      subst place
      exact (same_lexeme _ _ last).1.trans otherwise
    refine ⟨u ++ v, by simp [some], reads_append _ _ _ u v read read', fun t stop follows => ?_,
      fun atEnd t w fault breaks equal => ?_⟩
    · obtain ⟨middle, retraces, behind⟩ := follows_append _ _ _ _ u v some' read' follows
      obtain ⟨m', front', place⟩ := ends.ok t middle (follows_of_retraces _ _ _ _ retraces)
      obtain ⟨t', back', place'⟩ := ends'.ok m' stop (place ▸ behind)
      refine ⟨t', (bind_ok_iff _ _ _ _ _).mpr ⟨a, m', front', ?_⟩, place'⟩
      rw [ahead_run, if_pos (goes t m' middle retraces place), back']
    · have ahead : m.lookahead = v.head? := head_at_end m s' v read' atEnd
      obtain ⟨middle, y, retraces, breaks', like⟩ := breaks_retraces _ u v w _ fault some' ahead breaks equal
      obtain ⟨m', front', place⟩ := ends.ok t middle (follows_of_retraces _ _ _ _ retraces)
      obtain ⟨t', failed⟩ := ends'.broken atEnd m' y fault (place ▸ breaks') like
      refine ⟨t', (bind_error_iff _ _ _ _ _).mpr (.inr ⟨a, m', front', ?_⟩)⟩
      rw [ahead_run, if_pos (goes t m' middle retraces place), failed]
  · rw [if_neg otherwise] at back
    injection back with same after
    subst same after
    refine ⟨u, some, read, fun t stop follows => ?_, fun atEnd t v fault breaks same => ?_⟩
    · obtain ⟨t', front', place⟩ := ends.ok t stop follows
      have passes : t'.lookahead.map Token.kind ≠ Option.some (.keyword .elseWord) := by
        obtain ⟨_, _, _, same | ⟨_, other⟩⟩ := follows
        · subst place
          exact (same_lexeme _ _ same).1 ▸ otherwise
        · subst place
          exact other
      refine ⟨t', (bind_ok_iff _ _ _ _ _).mpr ⟨a, t', front', ?_⟩, place⟩
      rw [ahead_run, if_neg passes]
      rfl
    · obtain ⟨t', failed⟩ := ends.broken atEnd t v fault breaks same
      exact ⟨t', (bind_error_iff _ _ _ _ _).mpr (.inl failed)⟩

namespace Grammar

variable {act : Actions} {inner : Nested σ act} {inner' : Nested τ act}
  (agree : inner.Agree (replay σ τ).toComparison (act.identical _) inner')

theorem identifier_replays (act : Actions) :
    Replays (· = ·) (identifier act : Parse σ act.Identifier) (identifier act : Parse τ act.Identifier) :=
  agree_identifier (c := (replay σ τ).toComparison) (act.identical _)

include agree

theorem closes_block : Closes (block act inner) (block act inner') := by
  refine closes_bind (.expect _) fun _ _ _ => ?_
  refine closes_bind (agree_statements agree _) fun _ _ body => ?_
  rw [eq_of_all _ _ body]
  exact closes_last _ _

theorem closes_variable_statement : Closes (variableStatement act inner) (variableStatement act inner') := by
  refine closes_bind (agree_variable_declarations (Comparison.leads_self _) agree) fun _ _ list => ?_
  rw [eq_of_all _ _ list]
  exact closes_last _ _

theorem closes_return_statement : Closes (returnStatement act inner) (returnStatement act inner') := by
  refine closes_bind (.expect _) fun _ _ _ => ?_
  refine closes_bind (agree_optional_expression agree _) fun _ _ argument => ?_
  rw [eq_of_part _ _ argument]
  exact closes_last _ _

theorem closes_function_declaration :
    Closes (functionDeclaration act inner) (functionDeclaration act inner') := by
  refine closes_bind (.expect _) fun _ _ _ => ?_
  refine closes_bind (identifier_replays act) fun _ name same => ?_
  obtain rfl := same
  refine closes_bind (.expect _) fun _ _ _ => ?_
  refine closes_ahead fun empty => ?_
  split
  · refine closes_bind (.pure rfl : Replays Eq _ _) fun _ _ same => ?_
    rw [same]
    refine closes_bind (.expect _) fun _ _ _ => ?_
    exact closes_map _ _ _ (closes_block agree)
  · have names := agree_comma_list (c := (replay σ τ).toComparison) _ _ _ _ _ yields_identifier
      yields_identifier (identifier_replays act)
    refine closes_bind names fun _ _ params => ?_
    rw [eq_of_all _ _ params]
    refine closes_bind (.expect _) fun _ _ _ => ?_
    exact closes_map _ _ _ (closes_block agree)

theorem closes_class_declaration : Closes (classDeclaration act inner) (classDeclaration act inner') := by
  refine closes_bind (.expect _) fun _ _ _ => ?_
  refine closes_bind (identifier_replays act) fun _ id same => ?_
  obtain rfl := same
  have parents := agree_super_class (c := (replay σ τ).toComparison) (act.identical _)
  refine closes_bind parents fun _ _ parent => ?_
  rw [eq_of_part _ _ parent]
  exact closes_map _ _ _ (closes_block agree)

theorem closes_expression_statement :
    Closes (expressionStatement act inner) (expressionStatement act inner') := by
  refine closes_bind agree.expression fun _ e same => ?_
  obtain rfl := same
  exact closes_last _ _

variable (closes : Closes inner.statement inner'.statement)

theorem closes_do_while_statement : Closes (doWhileStatement act inner) (doWhileStatement act inner') := by
  refine closes_bind (.expect _) fun _ _ _ => ?_
  refine closes_bind agree.statement fun _ body same => ?_
  obtain rfl := same
  refine closes_bind (.expect _) fun _ _ _ => ?_
  refine closes_bind (agree_condition agree) fun _ test same => ?_
  obtain rfl := same
  exact closes_last _ _

include closes

theorem closes_if_statement : Closes (ifStatement act inner) (ifStatement act inner') := by
  refine closes_bind (.expect _) fun _ _ _ => ?_
  refine closes_bind (agree_condition agree) fun _ test same => ?_
  obtain rfl := same
  refine closes_otherwise _ closes fun consequent => ?_
  refine closes_bind (.expect _) fun _ _ _ => ?_
  exact closes_map _ _ _ closes

theorem closes_while_statement : Closes (whileStatement act inner) (whileStatement act inner') := by
  refine closes_bind (.expect _) fun _ _ _ => ?_
  refine closes_bind (agree_condition agree) fun _ test same => ?_
  obtain rfl := same
  exact closes_map _ _ _ closes

theorem closes_for_statement : Closes (forStatement act inner) (forStatement act inner') := by
  refine closes_bind (.expect _) fun _ _ _ => ?_
  refine closes_bind (.expect _) fun _ _ _ => ?_
  refine closes_bind (agree_for_init agree) fun _ _ init => ?_
  rw [eq_of_part _ _ init]
  refine closes_bind (.expect _) fun _ _ _ => ?_
  refine closes_bind (agree_optional_expression agree _) fun _ _ test => ?_
  rw [eq_of_part _ _ test]
  refine closes_bind (.expect _) fun _ _ _ => ?_
  refine closes_bind (agree_optional_expression agree _) fun _ _ update => ?_
  rw [eq_of_part _ _ update]
  refine closes_bind (.expect _) fun _ _ _ => ?_
  exact closes_map _ _ _ closes

theorem closes_statement : Closes (statement act inner) (statement act inner') := by
  refine closes_look fun kind => ?_
  split
  · exact closes_last _ _
  · exact closes_map _ _ _ (closes_block agree)
  · exact closes_variable_statement agree
  · exact closes_function_declaration agree
  · exact closes_class_declaration agree
  · exact closes_return_statement agree
  · exact closes_if_statement agree closes
  · exact closes_while_statement agree closes
  · exact closes_do_while_statement agree
  · exact closes_for_statement agree closes
  · exact closes_expression_statement agree

omit agree closes in
theorem nested_closes (act : Actions) (limit levels : Nat) :
    Closes (nested (σ := σ) act limit levels).statement (nested (σ := τ) act limit levels).statement := by
  induction levels with
  | zero => exact closes_fail _ _
  | succ levels ih =>
      exact closes_deeper (closes_statement (nested_agree (act.identical _) (replay σ τ) limit levels) ih)

end Grammar

end ScriptFront
