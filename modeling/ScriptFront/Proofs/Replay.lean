import ScriptFront.Proofs.Agreement
import ScriptFront.Proofs.Lexemes
import ScriptFront.Proofs.Takes

set_option autoImplicit false

/-! A run depends only on the kinds and texts of the tokens that it takes and of the one that it stops
at. Over another source with those, it goes the same way and takes as many tokens. -/

namespace ScriptFront

open Parse

variable {σ τ : Type} [TokenSource σ] [TokenSource τ]

theorem reads_split (p r : Option Token × σ) (u v : List Token) (read : Reads p (u ++ v) r) :
    ∃ q, Reads p u q ∧ Reads q v r := by
  induction u generalizing p with
  | nil => exact ⟨p, .nothing p, read⟩
  | cons t u ih =>
      cases read with
      | token _ source after next _ _ found later =>
          obtain ⟨q, first, second⟩ := ih _ later
          exact ⟨q, .token t source after next u q found first, second⟩

theorem head_of_reads (p q : Option Token × σ) (u : List Token) (read : Reads p u q) :
    p.1 = u.head?.or q.1 := by
  cases read <;> rfl

theorem reads_nothing (p : Option Token × σ) (u : List Token) (read : Reads p u p) : u = [] := by
  have lowers := reads_lowers ⟨p.1, p.2, 0, 0⟩ ⟨p.1, p.2, 0, 0⟩ u read
  exact List.length_eq_zero_iff.mp (by omega)

theorem place_of_nothing (p q : Option Token × σ) (read : Reads p [] q) : q = p := by
  cases read
  rfl

theorem reads_unique (p q : Option Token × σ) (u v : List Token) (read : Reads p u q)
    (read' : Reads p v q) : u = v := by
  induction read generalizing v with
  | nothing place => exact (reads_nothing place v read').symm
  | token t source after next rest place found later ih =>
      cases read' with
      | nothing => exact reads_nothing _ _ (.token t source after next rest _ found later)
      | token _ _ after' next' rest' _ found' later' =>
          injection found.symm.trans found' with sameNext sameAfter
          subst sameNext sameAfter
          rw [ih rest' later']

-- Taking some tokens leads to a lexical error: it comes next when the last of them is taken.
inductive Breaks : Option Token × σ → List Token → LexicalError → Prop where
  | last (t : Token) (source after : σ) (fault : LexicalError) :
      TokenSource.next source = .error fault after → Breaks (some t, source) [t] fault
  | token (t : Token) (source after : σ) (next : Option Token) (rest : List Token) (fault : LexicalError) :
      TokenSource.next source = .ok next after → Breaks (next, after) rest fault →
      Breaks (some t, source) (t :: rest) fault

theorem breaks_append (p q : Option Token × σ) (u v : List Token) (fault : LexicalError) (read : Reads p u q)
    (breaks : Breaks q v fault) : Breaks p (u ++ v) fault := by
  induction read with
  | nothing place => exact breaks
  | token t source after next rest place found _ ih =>
      exact .token t source after next (rest ++ v) fault found (ih breaks)

theorem breaks_split (p : Option Token × σ) (u v : List Token) (fault : LexicalError) (some : v ≠ [])
    (breaks : Breaks p (u ++ v) fault) : ∃ q, Reads p u q ∧ Breaks q v fault := by
  induction u generalizing p with
  | nil => exact ⟨p, .nothing p, breaks⟩
  | cons t u ih =>
      generalize whole : t :: u ++ v = tokens at breaks
      cases breaks with
      | last _ source after _ found =>
          have empty := (List.cons.inj whole).2
          exact absurd (List.append_eq_nil_iff.mp empty).2 some
      | token _ source after next rest _ found later =>
          obtain ⟨rfl, rfl⟩ := List.cons.inj whole
          obtain ⟨q, read, breaks'⟩ := ih _ later
          exact ⟨q, .token t source after next u q found read, breaks'⟩

theorem head_of_breaks (p : Option Token × σ) (u : List Token) (fault : LexicalError)
    (breaks : Breaks p u fault) : p.1 = u.head? := by
  cases breaks <;> rfl

theorem breaks_head (p : Option Token × σ) (q : Option Token × τ) (u v : List Token) (fault fault' : LexicalError)
    (breaks : Breaks p u fault) (breaks' : Breaks q v fault') (same : v.map Token.lexeme = u.map Token.lexeme) :
    q.1.map Token.lexeme = p.1.map Token.lexeme := by
  rw [head_of_breaks p u fault breaks, head_of_breaks q v fault' breaks', ← List.head?_map, ← List.head?_map,
    same]

theorem breaks_some (p : Option Token × σ) (u : List Token) (fault : LexicalError)
    (breaks : Breaks p u fault) : u ≠ [] := by
  cases breaks <;> simp

theorem breaks_unique (p : Option Token × σ) (u v : List Token) (fault fault' : LexicalError)
    (breaks : Breaks p u fault) (breaks' : Breaks p v fault') : u = v ∧ fault = fault' := by
  induction breaks generalizing v with
  | last t source after fault found =>
      cases breaks' with
      | last _ _ after' _ found' =>
          injection found.symm.trans found' with same
          exact ⟨rfl, same⟩
      | token _ _ after' next rest _ found' _ => cases found.symm.trans found'
  | token t source after next rest fault found later ih =>
      cases breaks' with
      | last _ _ after' _ found' => cases found.symm.trans found'
      | token _ _ after' next' rest' _ found' later' =>
          injection found.symm.trans found' with sameNext sameAfter
          subst sameNext sameAfter
          obtain ⟨rfl, same⟩ := ih rest' later'
          exact ⟨rfl, same⟩

-- Where all tokens are offered, no lexical error comes.
theorem offers_not_breaks (p : Option Token × σ) (tokens u : List Token) (fault : LexicalError)
    (offers : Offers p tokens) (breaks : Breaks p u fault) : False := by
  induction breaks generalizing tokens with
  | last t source after fault found =>
      obtain ⟨next, after', rest, _, found', _⟩ := offers_next t source tokens offers
      cases found.symm.trans found'
  | token t source after next rest fault found _ ih =>
      obtain ⟨next', after', rest', _, found', offers'⟩ := offers_next t source tokens offers
      injection found.symm.trans found' with sameNext sameAfter
      subst sameNext sameAfter
      exact ih rest' offers'

-- Before `stop` come tokens like those in `u`, and at `stop` one like `next`.
def Retraces (place : Option Token × τ) (u : List Token) (next : Option Token)
    (stop : Option Token × τ) : Prop :=
  ∃ v, Reads place v stop ∧ v.map Token.lexeme = u.map Token.lexeme ∧
    stop.1.map Token.lexeme = next.map Token.lexeme

theorem retraces_head (p q : Option Token × σ) (place stop : Option Token × τ) (u : List Token)
    (read : Reads p u q) (retraces : Retraces place u q.1 stop) :
    place.1.map Token.lexeme = p.1.map Token.lexeme := by
  obtain ⟨v, read', same, last⟩ := retraces
  rw [head_of_reads p q u read, head_of_reads place stop v read', Option.map_or, Option.map_or,
    ← List.head?_map, ← List.head?_map, same, last]

theorem retraces_append (p q : Option Token × σ) (place stop : Option Token × τ) (u v : List Token)
    (read : Reads p v q) (retraces : Retraces place (u ++ v) q.1 stop) :
    ∃ middle, Retraces place u p.1 middle ∧ Retraces middle v q.1 stop := by
  obtain ⟨w, read', same, last⟩ := retraces
  rw [List.map_append] at same
  obtain ⟨x, y, rfl, first, second⟩ := List.map_eq_append_iff.mp same
  obtain ⟨middle, before, behind⟩ := reads_split place stop x y read'
  have rest : Retraces middle v q.1 stop := ⟨y, behind, second, last⟩
  exact ⟨middle, ⟨x, before, first, retraces_head p q middle stop v read rest⟩, rest⟩

theorem retraces_nothing (place stop : Option Token × τ) (next : Option Token)
    (retraces : Retraces place [] next stop) : stop = place ∧ place.1.map Token.lexeme = next.map Token.lexeme := by
  obtain ⟨v, read, same, last⟩ := retraces
  rw [List.map_nil, List.map_eq_nil_iff] at same
  subst same
  obtain rfl := place_of_nothing _ _ read
  exact ⟨rfl, last⟩

-- Where a lexical error comes behind tokens like those in `u ++ v`, those in `u` can be retraced before.
theorem breaks_retraces (place : Option Token × τ) (u v w : List Token) (next : Option Token)
    (fault : LexicalError) (some : v ≠ []) (ahead : next = v.head?) (breaks : Breaks place w fault)
    (same : w.map Token.lexeme = (u ++ v).map Token.lexeme) :
    ∃ middle y, Retraces place u next middle ∧ Breaks middle y fault ∧ y.map Token.lexeme = v.map Token.lexeme := by
  rw [List.map_append] at same
  obtain ⟨x, y, rfl, first, second⟩ := List.map_eq_append_iff.mp same
  have left : y ≠ [] := by
    rintro rfl
    exact some (List.map_eq_nil_iff.mp second.symm)
  obtain ⟨middle, read, breaks'⟩ := breaks_split place x y fault left breaks
  refine ⟨middle, y, ⟨x, read, first, ?_⟩, breaks', second⟩
  rw [head_of_breaks middle y fault breaks', ahead, ← List.head?_map, ← List.head?_map, second]

theorem expect_of_reads (kind : TokenKind) (t : ParseState τ) (token : Token) (stop : Option Token × τ)
    (fits : token.kind = kind) (read : Reads t.ahead [token] stop) :
    ∃ t', expect kind t = .ok token t' ∧ t'.ahead = stop := by
  generalize start : t.ahead = place at read
  cases read with
  | token _ source after next _ _ found rest =>
      cases rest
      obtain ⟨ahead, rfl⟩ := Prod.mk.inj start
      refine ⟨{ t with lookahead := next, source := after }, (expect_ok_iff kind _ _ token).mpr ⟨ahead, fits, ?_⟩, rfl⟩
      exact (refill_ok_iff _ _).mpr ⟨next, after, found, rfl⟩

theorem expect_of_breaks (kind : TokenKind) (t : ParseState τ) (token : Token) (fault : LexicalError)
    (fits : token.kind = kind) (breaks : Breaks t.ahead [token] fault) :
    ∃ t', expect kind t = .error (.lexical fault) t' := by
  generalize start : t.ahead = place at breaks
  cases breaks with
  | last _ source after _ failed =>
      obtain ⟨ahead, rfl⟩ := Prod.mk.inj start
      refine ⟨{ t with lookahead := none, source := after }, ?_⟩
      rw [expect_eq, ahead]
      dsimp only
      rw [if_pos fits, bind_error_iff]
      refine .inl ?_
      rw [refill, failed]
  | token _ _ _ _ rest _ _ later => exact absurd rfl (breaks_some _ _ _ later)

theorem same_lexeme (a b : Option Token) (same : a.map Token.lexeme = b.map Token.lexeme) :
    a.map Token.kind = b.map Token.kind ∧ a.map Token.text = b.map Token.text := by
  cases a <;> cases b <;> simp_all [Token.lexeme]

theorem GrammarError.fits_bare (fault : GrammarError) (bare : fault.isBare) (next : Option Token) :
    (Error.grammar fault).FitsAt next := by
  cases fault with
  | unexpectedToken _ _ _ => cases bare
  | _ => trivial

def offsetAhead (place : Option Token × τ) : Nat :=
  (place.1.map fun token => token.span.start).getD 0

theorem Error.moved_ahead (next : Option Token) (fault : Error) (fits : fault.FitsAt next)
    (syntactic : fault.isLexical = false) :
    fault.movedTo ((next.map fun token => token.span.start).getD 0) = fault := by
  cases fault with
  | lexical fault => cases syntactic
  | config fault => exact fits.elim
  | grammar fault =>
      cases fault with
      | unexpectedToken found expected offset =>
          obtain ⟨token, rfl, rfl⟩ := fits
          rfl
      | _ => rfl

-- Every run of `p` goes the same way with `q` where like tokens come, and is stopped by a lexical error
-- where one comes behind like tokens.
structure Replays {α β : Type} (values : α → β → Prop) (p : Parse σ α) (q : Parse τ β) : Prop where
  ok : ∀ s a s', p s = .ok a s' → (∃ b, values a b) ∧ ∃ u, Reads s.ahead u s'.ahead ∧
    ∀ (t : ParseState τ) stop, Retraces t.ahead u s'.lookahead stop →
      ∃ b t', q t = .ok b t' ∧ t'.ahead = stop ∧ values a b
  error : ∀ s fault s', p s = .error fault s' → fault.isLexical = false →
    ∃ u, Reads s.ahead u s'.ahead ∧ ∀ (t : ParseState τ) stop, Retraces t.ahead u s'.lookahead stop →
      ∃ t', q t = .error (fault.movedTo (offsetAhead stop)) t' ∧ t'.ahead = stop
  broken : ∀ s fault s', p s = .error (.lexical fault) s' → ∃ u, Breaks s.ahead u fault ∧
    ∀ (t : ParseState τ) v fault', Breaks t.ahead v fault' → v.map Token.lexeme = u.map Token.lexeme →
      ∃ t', q t = .error (.lexical fault') t'
  fits : ∀ s fault s', p s = .error fault s' → fault.FitsAt s'.lookahead

namespace Replays

variable {α β γ δ : Type} {values : α → β → Prop}

theorem pure {a : α} {b : β} (same : values a b) :
    Replays values (Pure.pure a : Parse σ α) (Pure.pure b : Parse τ β) where
  ok s a s' run := by
    injection run with equal after
    subst equal after
    refine ⟨⟨b, same⟩, [], .nothing _, fun t stop retraces => ⟨b, t, rfl, ?_, same⟩⟩
    exact (retraces_nothing _ _ _ retraces).1.symm
  error s fault s' run _ := by cases run
  broken s fault s' run := by cases run
  fits s fault s' run := by cases run

theorem bind {first : γ → δ → Prop} {p : Parse σ γ} {q : Parse τ δ} {p' : γ → Parse σ α}
    {q' : δ → Parse τ β} (begun : Replays first p q)
    (later : ∀ a b, first a b → Replays values (p' a) (q' b)) :
    Replays values (p >>= p') (q >>= q') where
  ok s c s' run := by
    obtain ⟨a, m, front, back⟩ := (bind_ok_iff _ _ _ _ _).mp run
    obtain ⟨⟨b, same⟩, u, read, begins⟩ := begun.ok s a m front
    obtain ⟨total, v, read', _⟩ := (later a b same).ok m c s' back
    refine ⟨total, u ++ v, reads_append _ _ _ u v read read', fun t stop retraces => ?_⟩
    obtain ⟨middle, before, behind⟩ := retraces_append _ _ _ _ u v read' retraces
    obtain ⟨b, m', front', place, same⟩ := begins t middle before
    obtain ⟨_, w, read'', ends⟩ := (later a b same).ok m c s' back
    rw [reads_unique _ _ v w read' read'', ← place] at behind
    obtain ⟨d, t', back', place', same'⟩ := ends m' stop behind
    exact ⟨d, t', (bind_ok_iff _ _ _ _ _).mpr ⟨b, m', front', back'⟩, place', same'⟩
  error s fault s' run syntactic := by
    rcases (bind_error_iff _ _ _ _ _).mp run with failed | ⟨a, m, front, failed⟩
    · obtain ⟨u, read, ends⟩ := begun.error s fault s' failed syntactic
      refine ⟨u, read, fun t stop retraces => ?_⟩
      obtain ⟨t', failed', place⟩ := ends t stop retraces
      exact ⟨t', (bind_error_iff _ _ _ _ _).mpr (.inl failed'), place⟩
    · obtain ⟨⟨b, same⟩, u, read, begins⟩ := begun.ok s a m front
      obtain ⟨v, read', _⟩ := (later a b same).error m fault s' failed syntactic
      refine ⟨u ++ v, reads_append _ _ _ u v read read', fun t stop retraces => ?_⟩
      obtain ⟨middle, before, behind⟩ := retraces_append _ _ _ _ u v read' retraces
      obtain ⟨b, m', front', place, same⟩ := begins t middle before
      obtain ⟨w, read'', ends⟩ := (later a b same).error m fault s' failed syntactic
      rw [reads_unique _ _ v w read' read'', ← place] at behind
      obtain ⟨t', failed', place'⟩ := ends m' stop behind
      exact ⟨t', (bind_error_iff _ _ _ _ _).mpr (.inr ⟨b, m', front', failed'⟩), place'⟩
  broken s fault s' run := by
    rcases (bind_error_iff _ _ _ _ _).mp run with failed | ⟨a, m, front, failed⟩
    · obtain ⟨u, breaks, ends⟩ := begun.broken s fault s' failed
      refine ⟨u, breaks, fun t v fault' breaks' same => ?_⟩
      obtain ⟨t', failed'⟩ := ends t v fault' breaks' same
      exact ⟨t', (bind_error_iff _ _ _ _ _).mpr (.inl failed')⟩
    · obtain ⟨⟨b, same⟩, u, read, begins⟩ := begun.ok s a m front
      obtain ⟨v, breaks, _⟩ := (later a b same).broken m fault s' failed
      refine ⟨u ++ v, breaks_append _ _ u v fault read breaks, fun t w fault' breaks' equal => ?_⟩
      obtain ⟨middle, y, retraces, breaks'', second⟩ := breaks_retraces t.ahead u v w m.lookahead fault'
        (breaks_some _ v fault breaks) (head_of_breaks _ v fault breaks) breaks' equal
      obtain ⟨b, m', front', place, same⟩ := begins t middle retraces
      obtain ⟨v', again, ends⟩ := (later a b same).broken m fault s' failed
      rw [(breaks_unique _ v v' fault fault breaks again).1] at second
      obtain ⟨t', failed'⟩ := ends m' y fault' (place ▸ breaks'') second
      exact ⟨t', (bind_error_iff _ _ _ _ _).mpr (.inr ⟨b, m', front', failed'⟩)⟩
  fits s fault s' run := by
    rcases (bind_error_iff _ _ _ _ _).mp run with failed | ⟨a, m, front, failed⟩
    · exact begun.fits s fault s' failed
    · obtain ⟨⟨b, same⟩, _⟩ := begun.ok s a m front
      exact (later a b same).fits m fault s' failed

-- An error of the state itself, before any token is taken.
theorem fault (values : α → β → Prop) (p : Parse σ α) (q : Parse τ β) (fault : ParseState σ → GrammarError)
    (fits : ∀ s, (Error.grammar (fault s)).FitsAt s.lookahead) (fails : ∀ s, p s = .error (.grammar (fault s)) s)
    (fails' : ∀ s (t : ParseState τ), t.lookahead.map Token.lexeme = s.lookahead.map Token.lexeme →
      q t = .error ((Error.grammar (fault s)).movedTo (offsetAhead t.ahead)) t) :
    Replays values p q where
  ok s a s' run := by
    rw [fails s] at run
    cases run
  error s fault s' run _ := by
    rw [fails s] at run
    injection run with same after
    subst same after
    refine ⟨[], .nothing _, fun t stop retraces => ?_⟩
    obtain ⟨rfl, same⟩ := retraces_nothing _ _ _ retraces
    exact ⟨t, fails' s t same, rfl⟩
  broken s fault s' run := by
    rw [fails s] at run
    cases run
  fits s found s' run := by
    rw [fails s] at run
    injection run with same after
    exact same ▸ after ▸ fits s

theorem fail (values : α → β → Prop) (found : GrammarError)
    (unmoved : ∀ offset, (Error.grammar found).movedTo offset = .grammar found)
    (fits : ∀ next, (Error.grammar found).FitsAt next) :
    Replays values (Parse.fail found : Parse σ α) (Parse.fail found : Parse τ β) := by
  refine fault values _ _ (fun _ => found) (fun _ => fits _) (fun _ => rfl) fun _ t _ => ?_
  rw [unmoved]
  rfl

theorem unexpected_primary (values : α → β → Prop) :
    Replays values (Grammar.unexpectedPrimary : Parse σ α) (Grammar.unexpectedPrimary : Parse τ β) := by
  refine fault values _ _ (fun s => .unexpectedPrimary (s.lookahead.map Token.text)) (fun _ => trivial)
    (fun _ => rfl) ?_
  intro s t same
  change EStateM.Result.error (Error.grammar (.unexpectedPrimary (t.lookahead.map Token.text))) t = _
  rw [(same_lexeme _ _ same).2]
  rfl

theorem look {p : Option TokenKind → Parse σ α} {q : Option TokenKind → Parse τ β}
    (each : ∀ kind, Replays values (p kind) (q kind)) :
    Replays values (lookaheadKind >>= p) (lookaheadKind >>= q) := by
  have turn (s : ParseState σ) (t : ParseState τ)
      (head : t.lookahead.map Token.lexeme = s.lookahead.map Token.lexeme) :
      (lookaheadKind >>= q) t = q (s.lookahead.map Token.kind) t :=
    congrFun (congrArg q (same_lexeme _ _ head).1) t
  constructor
  · intro s a s' run
    obtain ⟨total, u, read, ends⟩ := (each (s.lookahead.map Token.kind)).ok s a s' run
    refine ⟨total, u, read, fun t stop retraces => ?_⟩
    rw [turn s t (retraces_head _ _ _ _ u read retraces)]
    exact ends t stop retraces
  · intro s fault s' run syntactic
    obtain ⟨u, read, ends⟩ := (each (s.lookahead.map Token.kind)).error s fault s' run syntactic
    refine ⟨u, read, fun t stop retraces => ?_⟩
    rw [turn s t (retraces_head _ _ _ _ u read retraces)]
    exact ends t stop retraces
  · intro s fault s' run
    obtain ⟨u, breaks, ends⟩ := (each (s.lookahead.map Token.kind)).broken s fault s' run
    refine ⟨u, breaks, fun t v fault' breaks' same => ?_⟩
    rw [turn s t (breaks_head s.ahead t.ahead u v fault fault' breaks breaks' same)]
    exact ends t v fault' breaks' same
  · intro s
    exact (each (s.lookahead.map Token.kind)).fits s

theorem deeper {p : Parse σ α} {q : Parse τ β} (inside : Replays values p q) :
    Replays values (Parse.deeper p) (Parse.deeper q) where
  ok s a s' run := by
    unfold Parse.deeper at run
    split at run
    · rename_i after result
      injection run with same ended
      subst same ended
      obtain ⟨total, u, read, ends⟩ := inside.ok s.enter _ after result
      refine ⟨total, u, read, fun t stop retraces => ?_⟩
      obtain ⟨b, t', result', place, same⟩ := ends t.enter stop retraces
      refine ⟨b, t'.leave, ?_, place, same⟩
      rw [Parse.deeper, result']
    · cases run
  error s fault s' run syntactic := by
    unfold Parse.deeper at run
    split at run
    · cases run
    · rename_i after result
      injection run with same ended
      subst same ended
      obtain ⟨u, read, ends⟩ := inside.error s.enter _ after result syntactic
      refine ⟨u, read, fun t stop retraces => ?_⟩
      obtain ⟨t', result', place⟩ := ends t.enter stop retraces
      refine ⟨t'.leave, ?_, place⟩
      rw [Parse.deeper, result']
  broken s fault s' run := by
    unfold Parse.deeper at run
    split at run
    · cases run
    · rename_i after result
      injection run with same ended
      subst same ended
      obtain ⟨u, breaks, ends⟩ := inside.broken s.enter fault after result
      refine ⟨u, breaks, fun t v fault' breaks' same => ?_⟩
      obtain ⟨t', result'⟩ := ends t.enter v fault' breaks' same
      refine ⟨t'.leave, ?_⟩
      rw [Parse.deeper, result']
  fits s fault s' run := by
    unfold Parse.deeper at run
    split at run
    · cases run
    · rename_i after result
      injection run with same ended
      exact same ▸ ended ▸ inside.fits s.enter _ after result

theorem expect (kind : TokenKind) :
    Replays (fun a b => a.text = b.text ∧ True ∧ a.kind = kind) (Parse.expect kind : Parse σ Token)
      (Parse.expect kind : Parse τ Token) where
  ok s a s' run := by
    obtain ⟨ahead, fits, filled⟩ := (expect_ok_iff kind s s' a).mp run
    obtain ⟨next, after, found, rfl⟩ := (refill_ok_iff s s').mp filled
    refine ⟨⟨a, rfl, trivial, fits⟩, [a], ?_, fun t stop retraces => ?_⟩
    · rw [ParseState.ahead, ahead]
      exact .token a _ after next [] _ found (.nothing _)
    · obtain ⟨v, read, same, last⟩ := retraces
      obtain ⟨b, rfl, lexeme⟩ := List.map_eq_singleton_iff.mp same
      obtain ⟨kind', text'⟩ := Prod.mk.inj lexeme
      obtain ⟨t', run', place⟩ := expect_of_reads kind t b stop (kind'.trans fits) read
      exact ⟨b, t', run', place, text'.symm, trivial, fits⟩
  error s fault s' run syntactic := by
    rcases expect_error kind s s' fault run with
      ⟨rfl, ahead, rfl⟩ | ⟨rfl, token, ahead, unfit, rfl⟩ | ⟨token, found, _, _, _, _, rfl⟩
    · refine ⟨[], .nothing _, fun t stop retraces => ?_⟩
      obtain ⟨rfl, same⟩ := retraces_nothing _ _ _ retraces
      rw [ahead, Option.map_none, Option.map_eq_none_iff] at same
      refine ⟨t, ?_, rfl⟩
      rw [expect_eq, show t.lookahead = none from same]
      rfl
    · refine ⟨[], .nothing _, fun t stop retraces => ?_⟩
      obtain ⟨rfl, same⟩ := retraces_nothing _ _ _ retraces
      rw [ahead] at same
      obtain ⟨token', ahead', lexeme⟩ := Option.map_eq_some_iff.mp same
      obtain ⟨kind', text'⟩ := Prod.mk.inj lexeme
      refine ⟨t, ?_, rfl⟩
      rw [expect_eq, show t.lookahead = some token' from ahead']
      simp only [kind', if_neg unfit, text', Error.movedTo, offsetAhead, ahead', Option.map_some,
        Option.getD_some]
    · cases syntactic
  broken s fault s' run := by
    rcases expect_error kind s s' _ run with
      ⟨_, _, same⟩ | ⟨_, _, _, _, same⟩ | ⟨token, found, after, ahead, fits, failed, same⟩
    · cases same
    · cases same
    · injection same with same
      subst same
      refine ⟨[token], ?_, fun t v fault' breaks equal => ?_⟩
      · rw [ParseState.ahead, ahead]
        exact .last token s.source after fault failed
      · obtain ⟨token', rfl, lexeme⟩ := List.map_eq_singleton_iff.mp equal
        obtain ⟨kind', _⟩ := Prod.mk.inj lexeme
        exact expect_of_breaks kind t token' fault' (kind'.trans fits) breaks
  fits s fault s' run := by
    rcases expect_error kind s s' _ run with
      ⟨_, _, rfl⟩ | ⟨rfl, token, ahead, _, rfl⟩ | ⟨_, _, _, _, _, _, rfl⟩
    · trivial
    · exact ⟨token, ahead, rfl⟩
    · trivial

theorem rounds {goesOn : Option TokenKind → Bool} {p : α → Parse σ α} {q : β → Parse τ β}
    (each : ∀ a b, values a b → Replays values (p a) (q b)) (count : Nat) (a : α) (b : β)
    (start : values a b) :
    Replays values (Parse.rounds goesOn p count a) (Parse.rounds goesOn q count b) := by
  induction count generalizing a b with
  | zero => exact pure start
  | succ count ih =>
      refine look fun kind => ?_
      split
      · exact bind (each a b start) ih
      · exact pure start

-- The other source may have more tokens, so the rounds are counted for both.
theorem repeat_while {goesOn : Option TokenKind → Bool} (ends : goesOn none = false)
    {p : α → Parse σ α} {q : β → Parse τ β} (lowers : ∀ a, Lowers (p a)) (lowers' : ∀ b, Lowers (q b))
    (each : ∀ a b, values a b → Replays values (p a) (q b)) {a : α} {b : β} (start : values a b) :
    Replays values (repeatWhile goesOn p a) (repeatWhile goesOn q b) := by
  have enough (s : ParseState σ) (count : Nat) (more : s.bound ≤ count) :
      repeatWhile goesOn p a s = Parse.rounds goesOn p count a s :=
    rounds_enough goesOn p ends lowers _ _ a s s.left_le_bound (Nat.le_trans s.left_le_bound more)
  have enough' (t : ParseState τ) (count : Nat) (more : t.bound ≤ count) :
      repeatWhile goesOn q b t = Parse.rounds goesOn q count b t :=
    rounds_enough goesOn q ends lowers' _ _ b t t.left_le_bound (Nat.le_trans t.left_le_bound more)
  have counted (count : Nat) :
      Replays values (Parse.rounds goesOn p count a) (Parse.rounds goesOn q count b) :=
    rounds each count a b start
  constructor
  · intro s c s' run
    rw [enough s s.bound (Nat.le_refl _)] at run
    obtain ⟨total, u, read, _⟩ := (counted s.bound).ok s c s' run
    refine ⟨total, u, read, fun t stop retraces => ?_⟩
    rw [← enough s s.bound (Nat.le_refl _), enough s _ (Nat.le_max_left _ t.bound)] at run
    obtain ⟨_, v, read', goes⟩ := (counted _).ok s c s' run
    rw [enough' t _ (Nat.le_max_right s.bound _)]
    exact goes t stop (reads_unique _ _ u v read read' ▸ retraces)
  · intro s fault s' run syntactic
    rw [enough s s.bound (Nat.le_refl _)] at run
    obtain ⟨u, read, _⟩ := (counted s.bound).error s fault s' run syntactic
    refine ⟨u, read, fun t stop retraces => ?_⟩
    rw [← enough s s.bound (Nat.le_refl _), enough s _ (Nat.le_max_left _ t.bound)] at run
    obtain ⟨v, read', goes⟩ := (counted _).error s fault s' run syntactic
    rw [enough' t _ (Nat.le_max_right s.bound _)]
    exact goes t stop (reads_unique _ _ u v read read' ▸ retraces)
  · intro s fault s' run
    rw [enough s s.bound (Nat.le_refl _)] at run
    obtain ⟨u, breaks, _⟩ := (counted s.bound).broken s fault s' run
    refine ⟨u, breaks, fun t w fault' breaks' same => ?_⟩
    rw [← enough s s.bound (Nat.le_refl _), enough s _ (Nat.le_max_left _ t.bound)] at run
    obtain ⟨v, again, goes⟩ := (counted _).broken s fault s' run
    rw [enough' t _ (Nat.le_max_right s.bound _)]
    exact goes t w fault' breaks' (same.trans ((breaks_unique _ u v fault fault breaks again).1 ▸ rfl))
  · intro s fault s' run
    exact (counted s.bound).fits s fault s' run

end Replays

def replay (σ τ : Type) [TokenSource σ] [TokenSource τ] : LevelComparison σ τ fun _ => True where
  Agree := Replays
  agree_pure := .pure
  agree_bind := .bind
  agree_fail values fault bare := .fail values fault (fault.moved_bare bare) (fault.fits_bare bare)
  agree_look := .look
  agree_expect := .expect
  agree_unexpected_primary := .unexpected_primary
  agree_repeat_while := .repeat_while
  agree_too_deep values limit := .fail values (.nestingTooDeep limit) (fun _ => rfl) fun _ => trivial
  agree_deeper := .deeper

theorem eq_of_all {α : Type} (a b : List α) (all : List.Forall₂ Eq a b) : a = b := by
  rwa [List.forall₂_eq_eq_eq] at all

theorem eq_of_part {α : Type} (a b : Option α) (part : Option.Rel Eq a b) : a = b := by
  cases part with
  | none => rfl
  | some same => rw [same]

-- The same parts on both sides.
def Actions.identical (taken : Token → Prop) (act : Actions) : Actions.Relation taken act act where
  Program := Eq
  Block := Eq
  Statement := Eq
  Expression := Eq
  Identifier := Eq
  Declaration := Eq
  Target := Eq
  ForInit := Eq
  program _ _ body := congrArg act.program (eq_of_all _ _ body)
  block _ _ body := congrArg act.block (eq_of_all _ _ body)
  blockStatement _ _ same := congrArg act.blockStatement same
  emptyStatement := rfl
  expressionStatement _ _ same := congrArg act.expressionStatement same
  declaration i j a b id init := by rw [id, eq_of_part a b init]
  variableStatement _ _ list := congrArg act.variableStatement (eq_of_all _ _ list)
  ifStatement t u a b c d test consequent alternate := by rw [test, consequent, eq_of_part c d alternate]
  whileStatement t u a b test body := by rw [test, body]
  doWhileStatement t u a b test body := by rw [test, body]
  forVariables _ _ list := congrArg act.forVariables (eq_of_all _ _ list)
  forExpression _ _ same := congrArg act.forExpression same
  forStatement i j t u v w a b init test update body := by
    rw [eq_of_part i j init, eq_of_part t u test, eq_of_part v w update, body]
  functionDeclaration i j p q a b name params body := by rw [name, eq_of_all p q params, body]
  returnStatement _ _ argument := congrArg act.returnStatement (eq_of_part _ _ argument)
  classDeclaration i j p q a b id parent body := by rw [id, eq_of_part p q parent, body]
  identifier _ _ _ := rfl
  identifierExpression _ _ same := congrArg act.identifierExpression same
  number _ := rfl
  string _ := rfl
  boolean _ := rfl
  null := rfl
  this := rfl
  super := rfl
  new f g a b callee list := by rw [callee, eq_of_all a b list]
  call f g a b callee list := by rw [callee, eq_of_all a b list]
  member a b i j object property := by rw [object, property]
  computedMember a b c d object property := by rw [object, property]
  target a b same := by
    rw [same]
    cases act.target? b with
    | none => exact .none
    | some place => exact .some rfl
  assignment operator t u a b target value := by rw [target, value]
  binary operator a b c d left right := by rw [left, right]
  logical operator a b c d left right := by rw [left, right]
  unary operator a b argument := by rw [argument]

-- Without the first token, which is not taken by a production.
theorem body_replays (act : Actions) (limit : Nat) : Replays (· = ·)
    (Grammar.statements act (Grammar.nested (σ := σ) act limit limit) none >>= fun body =>
      pure (act.program body))
    (Grammar.statements act (Grammar.nested (σ := τ) act limit limit) none >>= fun body =>
      pure (act.program body)) := by
  have bodies := Grammar.agree_statements
    (Grammar.nested_agree (act.identical _) (replay σ τ) limit limit) none
  exact .bind bodies fun _ _ body => .pure (congrArg act.program (eq_of_all _ _ body))

-- A whole parse goes the same way over another source.
theorem program_replays (act : Actions) (limit : Nat) (source : σ) (source' : τ) (begun : ParseState σ)
    (begun' : ParseState τ) (tokens : List Token) (filled : refill (.start source) = .ok () begun)
    (filled' : refill (.start source') = .ok () begun') (offers : Offers begun.ahead tokens) :
    (∀ p after, Grammar.program act limit (.start source) = .ok p after →
      ∃ u, Reads begun.ahead u after.ahead ∧
        ∀ stop, Retraces begun'.ahead u after.lookahead stop →
          ∃ after', Grammar.program act limit (.start source') = .ok p after' ∧ after'.ahead = stop) ∧
      ∀ fault after, Grammar.program act limit (.start source) = .error fault after →
        ∃ u, Reads begun.ahead u after.ahead ∧
          ∀ stop, Retraces begun'.ahead u after.lookahead stop →
            ∃ after', Grammar.program act limit (.start source') =
              .error (fault.movedTo (offsetAhead stop)) after' ∧ after'.ahead = stop := by
  have whole := body_replays (σ := σ) (τ := τ) act limit
  rw [Grammar.program_eq act limit source begun filled, Grammar.program_eq act limit source' begun' filled']
  constructor
  · intro p after run
    obtain ⟨_, u, read, ends⟩ := whole.ok begun p after run
    refine ⟨u, read, fun stop retraces => ?_⟩
    obtain ⟨_, after', run', place, rfl⟩ := ends begun' stop retraces
    exact ⟨after', run', place⟩
  · intro fault after run
    have syntactic : fault.isLexical = false := by
      cases fault with
      | lexical fault =>
          obtain ⟨u, breaks, _⟩ := whole.broken begun fault after run
          exact (offers_not_breaks _ tokens u fault offers breaks).elim
      | _ => rfl
    obtain ⟨u, read, ends⟩ := whole.error begun fault after run syntactic
    exact ⟨u, read, fun stop retraces => ends begun' stop retraces⟩

theorem offers_split (place : Option Token × σ) (u rest : List Token) (offers : Offers place (u ++ rest)) :
    ∃ stop, Reads place u stop ∧ Offers stop rest := by
  obtain ⟨last, read⟩ := offers
  obtain ⟨stop, before, behind⟩ := reads_split place _ u rest read
  exact ⟨stop, before, last, behind⟩

-- Where the same tokens are offered, up to their places, every way through them can be retraced.
theorem retraces_of_offers (place stop : Option Token × σ) (place' : Option Token × τ)
    (tokens tokens' u : List Token) (same : tokens'.map Token.lexeme = tokens.map Token.lexeme)
    (offers : Offers place tokens) (offers' : Offers place' tokens') (read : Reads place u stop) :
    ∃ stop', Retraces place' u stop.1 stop' := by
  obtain ⟨rest, rfl, behind⟩ := offers_after place stop tokens u offers read
  rw [List.map_append] at same
  obtain ⟨v, rest', rfl, first, second⟩ := List.map_eq_append_iff.mp same
  obtain ⟨stop', read', behind'⟩ := offers_split place' v rest' offers'
  refine ⟨stop', v, read', first, ?_⟩
  rw [offers_head _ _ behind, offers_head _ _ behind', ← List.head?_map, ← List.head?_map, second]

-- The same tokens, up to their places, are parsed to the same result, up to the offset of an error.
theorem parse_from_same_lexemes (act : Actions) (limit : Nat) (source : σ) (source' : τ)
    (begun : ParseState σ) (begun' : ParseState τ) (tokens tokens' : List Token)
    (filled : refill (.start source) = .ok () begun) (filled' : refill (.start source') = .ok () begun')
    (offers : Offers begun.ahead tokens) (offers' : Offers begun'.ahead tokens')
    (same : tokens'.map Token.lexeme = tokens.map Token.lexeme) :
    (parseFrom act limit source').mapError (Error.movedTo 0) =
      (parseFrom act limit source).mapError (Error.movedTo 0) := by
  obtain ⟨succeeds, fails⟩ := program_replays act limit source source' begun begun' tokens filled filled' offers
  unfold parseFrom
  cases run : Grammar.program act limit (.start source) with
  | ok p after =>
      obtain ⟨u, read, ends⟩ := succeeds p after run
      obtain ⟨stop, retraces⟩ := retraces_of_offers _ _ _ _ _ u same offers offers' read
      obtain ⟨after', run', _⟩ := ends stop retraces
      rw [run']
  | error fault after =>
      obtain ⟨u, read, ends⟩ := fails fault after run
      obtain ⟨stop, retraces⟩ := retraces_of_offers _ _ _ _ _ u same offers offers' read
      obtain ⟨after', run', _⟩ := ends stop retraces
      rw [run']
      exact congrArg Except.error (fault.moved_again _ _)

end ScriptFront
