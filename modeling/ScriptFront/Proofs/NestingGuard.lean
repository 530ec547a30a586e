import ScriptFront.Proofs.FirstOffense
import ScriptFront.Proofs.Unlimited

set_option autoImplicit false

/-! The nesting limit stops a parse, and changes nothing else. A parse with the limit goes the same way
as one without it for as long as no more levels are open than the limit allows, and is stopped by the
limit as soon as there is one more. -/

namespace ScriptFront

open Parse

section Runs

variable {σ : Type}

def stateAfter {ε ρ α : Type} : EStateM.Result ε ρ α → ρ
  | .ok _ s => s
  | .error _ s => s

theorem bind_of_ok {α β : Type} (p : Parse σ α) (q : α → Parse σ β) (s t : ParseState σ) (a : α)
    (run : p s = .ok a t) : (p >>= q) s = q a t := by
  change EStateM.bind p q s = _
  rw [EStateM.bind, run]

theorem bind_of_error {α β : Type} (p : Parse σ α) (q : α → Parse σ β) (s t : ParseState σ) (fault : Error)
    (run : p s = .error fault t) : (p >>= q) s = .error fault t := by
  change EStateM.bind p q s = _
  rw [EStateM.bind, run]

theorem state_after_deeper {α : Type} (p : Parse σ α) (s : ParseState σ) :
    stateAfter (deeper p s) = (stateAfter (p s.enter)).leave := by
  unfold deeper
  cases p s.enter with
  | ok a t => rfl
  | error fault t => rfl

-- No level was opened on the way to this result, nor was the limit in the way.
def KeepsLevel {α : Type} (s : ParseState σ) (result : EStateM.Result Error (ParseState σ) α) : Prop :=
  (stateAfter result).depth = s.depth ∧ (stateAfter result).deepest = s.deepest ∧
    ∀ found s', result ≠ .error (.grammar (.nestingTooDeep found)) s'

end Runs

variable {σ : Type} [TokenSource σ]

-- Two parses in the same state, in which at least `least` levels were open at once.
def deepFrom (σ : Type) [TokenSource σ] (least : Nat) : Coupling σ σ where
  related s t := s = t ∧ least ≤ s.deepest
  taken _ := True
  ahead s t related := related.1 ▸ rfl
  enter s t related := ⟨related.1 ▸ rfl, Nat.le_trans related.2 (Nat.le_max_left _ _)⟩
  leave s t related := ⟨related.1 ▸ rfl, related.2⟩
  refill s t token related ahead := by
    obtain ⟨rfl, deep⟩ := related
    unfold Parse.refill
    cases TokenSource.next s.source with
    | ok next after => exact ⟨trivial, rfl, deep⟩
    | error fault after => exact ⟨rfl, rfl, deep⟩

-- What a run opened at once stays recorded.
def Deepens {α : Type} (p : Parse σ α) : Prop :=
  ∀ s, s.deepest ≤ (stateAfter (p s)).deepest

theorem deepens_of_agree {α : Type} {values : α → α → Prop} (p : Parse σ α)
    (agree : ∀ least, (deepFrom σ least).Agree values p p) : Deepens p := by
  intro s
  have alike := agree s.deepest s s ⟨rfl, Nat.le_refl _⟩
  generalize p s = result at alike
  cases result with
  | ok a t => exact alike.2.2
  | error fault t => exact alike.2.2

-- How a run of `p`, in which levels up to `top` can be open, goes beside one of `q`, in which more
-- can: it is stopped where `q` opens more, and else goes the same way and is not stopped.
structure Guarded {α β : Type} (limit top depth : Nat) (values : α → β → Prop) (p : Parse σ α)
    (q : Parse σ β) : Prop where
  total : ∀ s b s', q s = .ok b s' → ∃ a, values a b
  deepens : Deepens q
  compare : ∀ s, s.depth = depth → s.deepest ≤ top →
    (top < (stateAfter (q s)).deepest ∧ ∃ s', p s = .error (.grammar (.nestingTooDeep limit)) s') ∨
      Alike (fun t t' => t = t' ∧ t.depth = depth ∧ t.deepest ≤ top) values (p s) (q s) ∧
        ∀ found s', p s ≠ .error (.grammar (.nestingTooDeep found)) s'

namespace Guarded

variable {α β γ δ : Type} {limit top depth : Nat} {values : α → β → Prop}

omit [TokenSource σ]

theorem pure {a : α} {b : β} (same : values a b) :
    Guarded limit top depth values (Pure.pure a : Parse σ α) (Pure.pure b) where
  total s b' s' run := by
    injection run with equal
    exact ⟨a, equal ▸ same⟩
  deepens s := Nat.le_refl _
  compare s level low := .inr ⟨⟨same, rfl, level, low⟩, fun _ _ stopped => by cases stopped⟩

theorem bind {first : γ → δ → Prop} {p : Parse σ γ} {q : Parse σ δ} {p' : γ → Parse σ α}
    {q' : δ → Parse σ β} (begun : Guarded limit top depth first p q)
    (later : ∀ a b, first a b → Guarded limit top depth values (p' a) (q' b)) :
    Guarded limit top depth values (p >>= p') (q >>= q') where
  total s b s' run := by
    obtain ⟨d, m, front, back⟩ := (bind_ok_iff _ _ _ _ _).mp run
    obtain ⟨c, same⟩ := begun.total s d m front
    exact (later c d same).total m b s' back
  deepens s := by
    have front := begun.deepens s
    cases run : q s with
    | ok d m =>
        rw [run] at front
        obtain ⟨c, same⟩ := begun.total s d m run
        rw [bind_of_ok q q' s m d run]
        exact Nat.le_trans front ((later c d same).deepens m)
    | error fault m =>
        rw [run] at front
        rwa [bind_of_error q q' s m fault run]
  compare s level low := by
    rcases begun.compare s level low with ⟨deep, s', stopped⟩ | ⟨alike, free⟩
    · refine .inl ⟨?_, s', bind_of_error p p' s s' _ stopped⟩
      cases run : q s with
      | ok d m =>
          rw [run] at deep
          obtain ⟨c, same⟩ := begun.total s d m run
          rw [bind_of_ok q q' s m d run]
          exact Nat.lt_of_lt_of_le deep ((later c d same).deepens m)
      | error fault m =>
          rw [run] at deep
          rwa [bind_of_error q q' s m fault run]
    · cases run : p s with
      | ok c m =>
          cases run' : q s with
          | ok d m' =>
              rw [run, run'] at alike
              obtain ⟨same, rfl, level', low'⟩ := alike
              rw [bind_of_ok p p' s m c run, bind_of_ok q q' s m d run']
              exact (later c d same).compare m level' low'
          | error fault m' =>
              rw [run, run'] at alike
              exact alike.elim
      | error fault m =>
          cases run' : q s with
          | ok d m' =>
              rw [run, run'] at alike
              exact alike.elim
          | error fault' m' =>
              rw [run, run'] at alike
              rw [run] at free
              rw [bind_of_error p p' s m fault run, bind_of_error q q' s m' fault' run']
              refine .inr ⟨alike, fun found s' stopped => free found s' ?_⟩
              injection stopped with same ended
              rw [same, ended]

-- A step that fails in its own state, with no limit.
theorem bare (values : α → β → Prop) (p : Parse σ α) (q : Parse σ β) (fault : ParseState σ → GrammarError)
    (plain : ∀ s, (fault s).isBare) (fails : ∀ s, p s = .error (.grammar (fault s)) s)
    (fails' : ∀ s, q s = .error (.grammar (fault s)) s) : Guarded limit top depth values p q where
  total s b s' run := by
    rw [fails' s] at run
    cases run
  deepens s := by rw [fails' s]; exact Nat.le_refl _
  compare s level low := by
    rw [fails s, fails' s]
    refine .inr ⟨⟨rfl, rfl, level, low⟩, fun found s' stopped => ?_⟩
    injection stopped with same
    injection same with same
    have isBare := plain s
    rw [same] at isBare
    cases isBare

theorem look {p : Option TokenKind → Parse σ α} {q : Option TokenKind → Parse σ β}
    (each : ∀ kind, Guarded limit top depth values (p kind) (q kind)) :
    Guarded limit top depth values (lookaheadKind >>= p) (lookaheadKind >>= q) where
  total s := (each (s.lookahead.map Token.kind)).total s
  deepens s := (each (s.lookahead.map Token.kind)).deepens s
  compare s := (each (s.lookahead.map Token.kind)).compare s

theorem rounds {goesOn : Option TokenKind → Bool} {p : α → Parse σ α} {q : β → Parse σ β}
    (each : ∀ a b, values a b → Guarded limit top depth values (p a) (q b)) (count : Nat) (a : α) (b : β)
    (start : values a b) :
    Guarded limit top depth values (Parse.rounds goesOn p count a) (Parse.rounds goesOn q count b) := by
  induction count generalizing a b with
  | zero => exact pure start
  | succ count ih =>
      refine look fun kind => ?_
      split
      · exact bind (each a b start) ih
      · exact pure start

theorem deeper {p : Parse σ α} {q : Parse σ β} (inside : Guarded limit top (depth + 1) values p q)
    (room : depth < top) : Guarded limit top depth values (Parse.deeper p) (Parse.deeper q) where
  total s b s' run := by
    unfold Parse.deeper at run
    split at run
    · rename_i after result
      injection run with same
      exact same ▸ inside.total s.enter _ after result
    · cases run
  deepens s := by
    rw [state_after_deeper]
    exact Nat.le_trans (Nat.le_max_left _ _) (inside.deepens s.enter)
  compare s level low := by
    have entered : s.enter.deepest ≤ top := by
      simp only [ParseState.enter, level]
      omega
    rw [state_after_deeper]
    rcases inside.compare s.enter (by rw [← level]; rfl) entered with ⟨deep, s', stopped⟩ | ⟨alike, free⟩
    · refine .inl ⟨deep, s'.leave, ?_⟩
      rw [Parse.deeper, stopped]
    · unfold Parse.deeper
      generalize p s.enter = left at alike free
      generalize q s.enter = right at alike
      cases left with
      | ok a m =>
          cases right with
          | ok b m' =>
              obtain ⟨same, rfl, level', low'⟩ := alike
              refine .inr ⟨⟨same, rfl, ?_, low'⟩, fun _ _ stopped => by cases stopped⟩
              simp [ParseState.leave, level']
          | error fault m' => exact alike.elim
      | error fault m =>
          cases right with
          | ok b m' => exact alike.elim
          | error fault' m' =>
              obtain ⟨same, rfl, level', low'⟩ := alike
              refine .inr ⟨⟨same, rfl, ?_, low'⟩, fun found s' stopped => ?_⟩
              · simp [ParseState.leave, level']
              · injection stopped with equal
                exact free found m (equal ▸ rfl)

theorem level_kept (values : α → α → Prop) (p : Parse σ α) (total : ∀ s a s', p s = .ok a s' → values a a)
    (kept : ∀ s, KeepsLevel s (p s)) : Guarded limit top depth values p p where
  total s a s' run := ⟨a, total s a s' run⟩
  deepens s := Nat.le_of_eq (kept s).2.1.symm
  compare s level low := by
    obtain ⟨same, same', free⟩ := kept s
    refine .inr ⟨?_, free⟩
    cases run : p s with
    | ok a m =>
        rw [run] at same same'
        exact ⟨total s a m run, rfl, same.trans level, same'.symm ▸ low⟩
    | error fault m =>
        rw [run] at same same'
        exact ⟨rfl, rfl, same.trans level, same'.symm ▸ low⟩

variable [TokenSource σ]

theorem refill_kept (s : ParseState σ) : KeepsLevel s (Parse.refill s) := by
  unfold Parse.refill
  cases TokenSource.next s.source with
  | ok next after => exact ⟨rfl, rfl, fun _ _ stopped => by cases stopped⟩
  | error fault after => exact ⟨rfl, rfl, fun _ _ stopped => by cases stopped⟩

theorem expect_kept (kind : TokenKind) (s : ParseState σ) : KeepsLevel s (Parse.expect kind s) := by
  rw [expect_eq]
  cases s.lookahead with
  | none => exact ⟨rfl, rfl, fun _ _ stopped => by cases stopped⟩
  | some token =>
      dsimp only
      by_cases fits : token.kind = kind
      · obtain ⟨same, same', free⟩ := refill_kept s
        rw [if_pos fits]
        cases run : Parse.refill s with
        | ok _ m =>
            rw [run] at same same'
            rw [bind_of_ok _ _ s m () run]
            exact ⟨same, same', fun _ _ stopped => by cases stopped⟩
        | error fault m =>
            rw [run] at same same' free
            rw [bind_of_error _ _ s m fault run]
            refine ⟨same, same', fun found s' stopped => free found s' ?_⟩
            injection stopped with equal ended
            rw [equal, ended]
      · rw [if_neg fits]
        exact ⟨rfl, rfl, fun _ _ stopped => by cases stopped⟩

theorem refill : Guarded limit top depth Eq (Parse.refill : Parse σ Unit) Parse.refill :=
  level_kept _ _ (fun _ _ _ _ => rfl) refill_kept

theorem expect (kind : TokenKind) :
    Guarded limit top depth (fun a b => a.text = b.text ∧ True ∧ a.kind = kind)
      (Parse.expect kind : Parse σ Token) (Parse.expect kind) := by
  refine level_kept _ _ (fun s a s' run => ?_) (expect_kept kind)
  obtain ⟨_, fits, _⟩ := (expect_ok_iff kind s s' a).mp run
  exact ⟨rfl, trivial, fits⟩

end Guarded

def guard (σ : Type) [TokenSource σ] (limit top depth : Nat) : Comparison σ σ fun _ => True where
  Agree := Guarded limit top depth
  agree_pure := .pure
  agree_bind := .bind
  agree_fail values fault plain := .bare values _ _ (fun _ => fault) (fun _ => plain) (fun _ => rfl) fun _ => rfl
  agree_look := .look
  agree_expect := .expect
  agree_unexpected_primary values :=
    .bare values _ _ (fun s => .unexpectedPrimary (s.lookahead.map Token.text)) (fun _ => rfl) (fun _ => rfl)
      fun _ => rfl
  -- Both loops start in the same state, so they have the same number of rounds.
  agree_repeat_while _ _ _ _ _ each a b start :=
    { total := fun s => (Guarded.rounds each s.bound a b start).total s
      deepens := fun s => (Guarded.rounds each s.bound a b start).deepens s
      compare := fun s => (Guarded.rounds each s.bound a b start).compare s }

namespace Grammar

variable (act : Actions)

theorem unguarded_deep (least : Nat) :
    (unguarded act).Agree (deepFrom σ least).comparison.toComparison (act.identical _) (unguarded act) := by
  have agree (levels : Nat) := nested_agree (act.identical _) (deepFrom σ least).comparison 0 levels
  refine ⟨?_, ?_, ?_, unguarded_sound act, unguarded_sound act⟩
  · rintro s t ⟨rfl, deep⟩
    dsimp only [unguarded]
    exact (agree _).statement s s ⟨rfl, deep⟩
  · rintro s t ⟨rfl, deep⟩
    dsimp only [unguarded]
    exact (agree _).expression s s ⟨rfl, deep⟩
  · rintro s t ⟨rfl, deep⟩
    dsimp only [unguarded]
    exact (agree _).construction s s ⟨rfl, deep⟩

-- Where no level is left for `p`, any level that `q` opens is one more than the limit allows.
theorem guarded_at_top {α : Type} {values : α → α → Prop} (limit top : Nat) (q : Parse σ α)
    (total : ∀ s b s', q s = .ok b s' → values b b)
    (agree : ∀ least, (deepFrom σ least).Agree Eq q q) :
    Guarded limit top top values (fail (.nestingTooDeep limit) : Parse σ α) (deeper q) := by
  have deepens := deepens_of_agree q agree
  refine ⟨fun s b s' run => ?_, fun s => ?_, fun s level low => ?_⟩
  · unfold deeper at run
    split at run
    · rename_i after result
      injection run with same
      exact ⟨b, same ▸ total s.enter _ after result⟩
    · cases run
  · rw [state_after_deeper]
    exact Nat.le_trans (Nat.le_max_left _ _) (deepens s.enter)
  · refine .inl ⟨?_, s, rfl⟩
    have deep := deepens s.enter
    rw [state_after_deeper]
    simp only [ParseState.enter, ParseState.leave, level] at deep ⊢
    omega

theorem nested_guarded (limit top depth levels : Nat) (room : depth + levels = top) :
    (nested act limit levels).Agree (guard σ limit top depth) (act.identical _) (unguarded act) := by
  induction levels generalizing depth with
  | zero =>
      have deep (least : Nat) := unguarded_deep (σ := σ) act least
      have leads (least : Nat) := (deepFrom σ least).comparison.toComparison.leads_self
      obtain rfl : depth = top := room
      rw [unguarded_eq]
      refine ⟨?_, ?_, ?_, nested_sound _ _, unguarded_eq (σ := σ) act ▸ unguarded_sound act⟩
      · exact guarded_at_top limit depth _ (fun _ _ _ _ => rfl) fun least =>
          agree_statement (leads least) (deep least) (deep least).expression
      · exact guarded_at_top limit depth _ (fun _ _ _ _ => rfl) fun least =>
          agree_assignment (leads least) (deep least) (deep least).construction
      · exact guarded_at_top limit depth _ (fun _ _ _ _ => rfl) fun least =>
          agree_construction (leads least) (deep least)
  | succ levels ih =>
      have inside := ih (depth + 1) (by omega)
      have leads := (guard σ limit top (depth + 1)).leads_self
      have less : depth < top := by omega
      have sound := unguarded_eq (σ := σ) act ▸ unguarded_sound act
      rw [unguarded_eq]
      exact ⟨.deeper (agree_statement leads inside inside.expression) less,
        .deeper (agree_assignment leads inside inside.construction) less,
        .deeper (agree_construction leads inside) less, nested_sound _ _, sound⟩

theorem program_guarded (limit : Nat) :
    Guarded limit limit 0 Eq (program (σ := σ) act limit) (unlimited act) := by
  have inside := nested_guarded (σ := σ) act limit limit 0 limit (Nat.zero_add _)
  refine .bind .refill fun _ _ _ => ?_
  exact .bind (agree_statements inside none) fun _ _ body => .pure (congrArg act.program (eq_of_all _ _ body))

end Grammar

-- The result of a parse without a limit.
def parseUnlimited (act : Actions) (source : σ) : Except Error act.Program :=
  match Grammar.unlimited act (.start source) with
  | .ok program _ => .ok program
  | .error fault _ => .error fault

-- The most levels that a parse without a limit has open at once.
def mostOpen (act : Actions) (source : σ) : Nat :=
  (stateAfter (Grammar.unlimited act (.start source))).deepest

theorem parse_from_guarded (act : Actions) (limit : Nat) (source : σ) :
    (limit < mostOpen act source ∧ parseFrom act limit source = .error (.grammar (.nestingTooDeep limit))) ∨
      parseFrom act limit source = parseUnlimited act source ∧ mostOpen act source ≤ limit ∧
        ∀ found, parseFrom act limit source ≠ .error (.grammar (.nestingTooDeep found)) := by
  have compared := (Grammar.program_guarded act limit).compare (.start source) rfl (Nat.zero_le _)
  unfold parseFrom parseUnlimited mostOpen
  rcases compared with ⟨deep, s', stopped⟩ | ⟨alike, free⟩
  · rw [stopped]
    exact .inl ⟨deep, rfl⟩
  · generalize Grammar.program act limit (.start source) = left at alike free
    generalize Grammar.unlimited act (.start source) = right at alike
    cases left with
    | ok p s =>
        cases right with
        | ok p' s' =>
            obtain ⟨rfl, rfl, _, low⟩ := alike
            exact .inr ⟨rfl, low, nofun⟩
        | error fault s' => exact alike.elim
    | error fault s =>
        cases right with
        | ok p s' => exact alike.elim
        | error fault' s' =>
            obtain ⟨rfl, rfl, _, low⟩ := alike
            refine .inr ⟨rfl, low, fun found stopped => free found s ?_⟩
            injection stopped with same
            rw [same]

theorem stopped_iff (act : Actions) (limit found : Nat) (source : σ) :
    parseFrom act limit source = .error (.grammar (.nestingTooDeep found)) ↔
      found = limit ∧ limit < mostOpen act source := by
  rcases parse_from_guarded act limit source with ⟨deep, stopped⟩ | ⟨_, low, free⟩
  · rw [stopped]
    constructor
    · intro same
      injection same with same
      injection same with same
      injection same with same
      exact ⟨same.symm, deep⟩
    · rintro ⟨rfl, _⟩
      rfl
  · constructor
    · intro stopped
      exact absurd stopped (free found)
    · rintro ⟨_, deep⟩
      omega

-- Under a lower limit a parse is stopped by that limit or gives the same.
theorem parse_from_lower (act : Actions) (limit limit' : Nat) (lower : limit ≤ limit') (source : σ) :
    parseFrom act limit source = .error (.grammar (.nestingTooDeep limit)) ∨
      parseFrom act limit source = parseFrom act limit' source := by
  rcases parse_from_guarded act limit source with ⟨_, stopped⟩ | ⟨same, low, _⟩
  · exact .inl stopped
  · rcases parse_from_guarded act limit' source with ⟨deep, _⟩ | ⟨same', _⟩
    · omega
    · exact .inr (same.trans same'.symm)

-- The limit changes a result in one way only, and exactly where a parse without a limit, in which every
-- level is opened as in one with a limit, has more levels open than it allows.
theorem nesting_limit_only_stops (act : Actions) (source : String) :
    let tokens := Tokenizer.ofSource source
    Grammar.unguarded (σ := Tokenizer) act = Grammar.opening act (Grammar.unguarded act) ∧
      (∀ limit limit', limit ≤ limit' →
        parseFrom act limit tokens = .error (.grammar (.nestingTooDeep limit)) ∨
          parseFrom act limit tokens = parseFrom act limit' tokens) ∧
      (∀ limit program, maxNesting ≤ limit → parseFrom act limit tokens = .ok program →
        parse act source = .ok program ∨ parse act source = .error (.grammar (.nestingTooDeep maxNesting))) ∧
      (∀ limit found, parseFrom act limit tokens = .error (.grammar (.nestingTooDeep found)) ↔
        found = limit ∧ limit < mostOpen act tokens) ∧
      ∀ limit, mostOpen act tokens ≤ limit → parseFrom act limit tokens = parseUnlimited act tokens := by
  refine ⟨Grammar.unguarded_eq act, fun limit limit' lower => parse_from_lower act limit limit' lower _,
    fun limit program larger accepted => ?_, fun limit found => stopped_iff act limit found _,
    fun limit low => ?_⟩
  · rcases parse_from_lower act maxNesting limit larger (Tokenizer.ofSource source) with stopped | same
    · exact .inr stopped
    · exact .inl (same.trans accepted)
  · rcases parse_from_guarded act limit (Tokenizer.ofSource source) with ⟨deep, _⟩ | ⟨same, _⟩
    · omega
    · exact same

-- A statement, its expression and the operands of the two signs are open at once.
theorem nesting_limit_only_stops_at_signs :
    ∃ p, parseFrom SExpr.actions 100 (Tokenizer.ofSource "!-a;") = .ok p ∧
      (parse SExpr.actions "!-a;" = .ok p ∨
        parse SExpr.actions "!-a;" = .error (.grammar (.nestingTooDeep maxNesting))) ∧
      parseFrom SExpr.actions 3 (Tokenizer.ofSource "!-a;") = .error (.grammar (.nestingTooDeep 3)) ∧
      3 < mostOpen SExpr.actions (Tokenizer.ofSource "!-a;") := by
  obtain ⟨p, accepted⟩ :=
    exists_of_is_ok (parseFrom SExpr.actions 100 (Tokenizer.ofSource "!-a;")) (by decide +kernel)
  have stopped : parseFrom SExpr.actions 3 (Tokenizer.ofSource "!-a;") = .error (.grammar (.nestingTooDeep 3)) :=
    eq_error_of_fails_with _ _ (by decide +kernel)
  obtain ⟨_, _, larger, iffs, _⟩ := nesting_limit_only_stops SExpr.actions "!-a;"
  exact ⟨p, accepted, larger 100 p (by decide) accepted, stopped, ((iffs 3 3).mp stopped).2⟩

end ScriptFront
