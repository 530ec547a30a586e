import ScriptFront.Grammar.State

set_option autoImplicit false

/-! What a run of a production takes from the input, and the loop over a step that takes tokens. -/

namespace ScriptFront

variable {σ : Type} [TokenSource σ]

namespace ParseState

-- What a parse still has before it.
def ahead (s : ParseState σ) : Option Token × σ :=
  (s.lookahead, s.source)

-- At least the number of tokens that are left, and zero exactly at the end.
def left (s : ParseState σ) : Nat :=
  match s.lookahead with
  | none => 0
  | some _ => TokenSource.bound s.source + 1

theorem left_le_bound (s : ParseState σ) : s.left ≤ s.bound := by
  unfold left bound
  split <;> simp_all

end ParseState

-- Taking some tokens, each as the lookahead, leads from one place of the input to another.
inductive Reads : Option Token × σ → List Token → Option Token × σ → Prop where
  | nothing (place : Option Token × σ) : Reads place [] place
  | token (t : Token) (source after : σ) (next : Option Token) (rest : List Token)
      (place : Option Token × σ) :
      TokenSource.next source = .ok next after → Reads (next, after) rest place →
      Reads (some t, source) (t :: rest) place

theorem reads_append (p q r : Option Token × σ) (u v : List Token) (first : Reads p u q)
    (second : Reads q v r) : Reads p (u ++ v) r := by
  induction first with
  | nothing place => exact second
  | token t source after next rest place found _ ih => exact .token t source after next _ r found (ih second)

theorem reads_lowers (s s' : ParseState σ) (u : List Token) (read : Reads s.ahead u s'.ahead) :
    s'.left + u.length ≤ s.left := by
  generalize start : s.ahead = p at read
  generalize stop : s'.ahead = q at read
  induction read generalizing s with
  | nothing place =>
      have same : s.ahead = s'.ahead := start.trans stop.symm
      simp only [ParseState.ahead, Prod.mk.injEq] at same
      simp [ParseState.left, same.1, same.2]
  | token t source after next rest place found _ ih =>
      have later := ih ⟨next, after, 0, 0⟩ rfl stop
      simp only [ParseState.ahead, Prod.mk.injEq] at start
      cases next with
      | none =>
          simp only [ParseState.left, start.1, start.2, List.length_cons] at later ⊢
          omega
      | some t' =>
          have lower := TokenSource.lowers source t' after found
          simp only [ParseState.left, start.1, start.2, List.length_cons] at later ⊢
          omega

namespace Parse

section Steps

variable {α β : Type}

omit [TokenSource σ] in
theorem bind_ok_iff (p : Parse σ α) (q : α → Parse σ β) (s s' : ParseState σ) (b : β) :
    (p >>= q) s = .ok b s' ↔ ∃ a t, p s = .ok a t ∧ q a t = .ok b s' := by
  change EStateM.bind p q s = .ok b s' ↔ _
  unfold EStateM.bind
  cases p s <;> simp [and_assoc]

omit [TokenSource σ] in
theorem bind_error_iff (p : Parse σ α) (q : α → Parse σ β) (s s' : ParseState σ) (fault : Error) :
    (p >>= q) s = .error fault s' ↔
      p s = .error fault s' ∨ ∃ a t, p s = .ok a t ∧ q a t = .error fault s' := by
  change EStateM.bind p q s = .error fault s' ↔ _
  unfold EStateM.bind
  cases p s <;> simp [and_assoc]

theorem refill_ok_iff (s s' : ParseState σ) :
    refill s = .ok () s' ↔ ∃ next after, TokenSource.next s.source = .ok next after ∧
      s' = { s with lookahead := next, source := after } := by
  unfold refill
  cases TokenSource.next s.source <;> simp [and_assoc, eq_comm]

theorem expect_eq (kind : TokenKind) (s : ParseState σ) :
    expect kind s =
      match s.lookahead with
      | none => .error (.grammar (.unexpectedEnd kind)) s
      | some t =>
          if t.kind = kind then (refill >>= fun _ => pure t) s
          else .error (.grammar (.unexpectedToken t.text kind t.span.start)) s := by
  change (match s.lookahead with | none => _ | some t => _ : Parse σ Token) s = _
  cases s.lookahead with
  | none => rfl
  | some t =>
      dsimp only
      split <;> rfl

theorem expect_ok_iff (kind : TokenKind) (s s' : ParseState σ) (t : Token) :
    expect kind s = .ok t s' ↔ s.lookahead = some t ∧ t.kind = kind ∧ refill s = .ok () s' := by
  rw [expect_eq]
  cases s.lookahead with
  | none => simp
  | some found =>
      by_cases fits : found.kind = kind
      · simp only [if_pos fits, bind_ok_iff, Option.some.injEq]
        constructor
        · rintro ⟨_, after, filled, same⟩
          injection same with same ended
          exact ⟨same, same ▸ fits, ended ▸ filled⟩
        · rintro ⟨rfl, _, filled⟩
          exact ⟨(), s', filled, rfl⟩
      · simp only [if_neg fits, reduceCtorEq, Option.some.injEq, false_iff, not_and]
        rintro rfl fits'
        exact absurd fits' fits

end Steps

-- Every run of a production that ends well takes tokens that are, with its value, in a relation.
def Yields {α : Type} (p : Parse σ α) (phrase : List Token → α → Prop) : Prop :=
  ∀ s a s', p s = .ok a s' → ∃ u, phrase u a ∧ Reads s.ahead u s'.ahead

variable {α β : Type}

theorem yields_weaken {p : Parse σ α} {phrase phrase' : List Token → α → Prop} (yields : Yields p phrase)
    (weaker : ∀ u a, phrase u a → phrase' u a) : Yields p phrase' := by
  intro s a s' run
  obtain ⟨u, fits, read⟩ := yields s a s' run
  exact ⟨u, weaker u a fits, read⟩

theorem yields_pure {a : α} {phrase : List Token → α → Prop} (empty : phrase [] a) :
    Yields (pure a : Parse σ α) phrase := by
  intro s b s' run
  injection run with same after
  subst same after
  exact ⟨[], empty, .nothing _⟩

theorem yields_bind {p : Parse σ α} {q : α → Parse σ β} {head : List Token → α → Prop}
    {whole : List Token → β → Prop} (first : Yields p head)
    (second : ∀ u a, head u a → Yields (q a) fun v b => whole (u ++ v) b) :
    Yields (p >>= q) whole := by
  intro s b s' run
  obtain ⟨a, t, begun, ended⟩ := (bind_ok_iff p q s s' b).mp run
  obtain ⟨u, fits, read⟩ := first s a t begun
  obtain ⟨v, fits', read'⟩ := second u a fits t b s' ended
  exact ⟨u ++ v, fits', reads_append _ _ _ u v read read'⟩

theorem yields_pure_bind {a : α} {q : α → Parse σ β} {whole : List Token → β → Prop}
    (later : Yields (q a) whole) : Yields (pure a >>= q) whole :=
  later

theorem yields_fail (fault : GrammarError) (phrase : List Token → α → Prop) :
    Yields (fail fault : Parse σ α) phrase := by
  intro s a s' run
  cases run

-- A look at the next token takes none.
theorem yields_look {q : Option TokenKind → Parse σ β} {whole : List Token → β → Prop}
    (each : ∀ kind, Yields (q kind) whole) : Yields (lookaheadKind >>= q) whole := by
  intro s b s' run
  exact each _ s b s' run

theorem yields_ahead {kind : TokenKind} {q : Bool → Parse σ β} {whole : List Token → β → Prop}
    (each : ∀ answer, Yields (q answer) whole) : Yields (isAhead kind >>= q) whole := by
  intro s b s' run
  exact each _ s b s' run

theorem yields_expect (kind : TokenKind) :
    Yields (expect kind : Parse σ Token) fun u t => u = [t] ∧ t.kind = kind := by
  intro s t s' run
  obtain ⟨ahead, fits, filled⟩ := (expect_ok_iff kind s s' t).mp run
  obtain ⟨next, after, found, rfl⟩ := (refill_ok_iff s s').mp filled
  refine ⟨[t], ⟨rfl, fits⟩, ?_⟩
  rw [ParseState.ahead, ahead]
  exact .token t _ after next [] _ found (.nothing _)

theorem yields_operator {ω : Type} [Spelled ω] (t : Token) :
    Yields (operator t : Parse σ ω) fun u found => u = [] ∧ Spelled.ofSpelling? t.text = some found := by
  unfold operator
  split
  · rename_i found spelled
    exact yields_pure ⟨rfl, spelled⟩
  · exact yields_fail _ _

theorem yields_deeper {p : Parse σ α} {phrase : List Token → α → Prop} (inside : Yields p phrase) :
    Yields (deeper p) phrase := by
  intro s a s' run
  unfold deeper at run
  split at run
  · rename_i after result
    injection run with same ended
    subst same ended
    exact inside s.enter _ after result
  · cases run

-- The steps of a loop extend what was taken before them.
theorem yields_rounds (goesOn : Option TokenKind → Bool) (step : α → Parse σ α)
    (phrase : List Token → α → Prop)
    (each : ∀ u a, phrase u a → Yields (step a) fun v b => phrase (u ++ v) b) (count : Nat)
    (u : List Token) (a : α) (start : phrase u a) :
    Yields (rounds goesOn step count a) fun v b => phrase (u ++ v) b := by
  induction count generalizing u a with
  | zero => exact yields_pure (by simpa using start)
  | succ count ih =>
      refine yields_look fun kind => ?_
      split
      · refine yields_bind (each u a start) fun v b fits => ?_
        simpa only [List.append_assoc] using ih (u ++ v) b fits
      · exact yields_pure (by simpa using start)

theorem yields_repeat_while {goesOn : Option TokenKind → Bool} {step : α → Parse σ α}
    (phrase : List Token → α → Prop)
    (each : ∀ u a, phrase u a → Yields (step a) fun v b => phrase (u ++ v) b)
    (u : List Token) (a : α) (start : phrase u a) :
    Yields (repeatWhile goesOn step a) fun v b => phrase (u ++ v) b := by
  intro s b s' run
  exact yields_rounds goesOn step phrase each s.bound u a start s b s' run

-- A production that takes at least one token leaves fewer.
def Lowers (p : Parse σ α) : Prop :=
  ∀ s a s', p s = .ok a s' → s'.left < s.left

theorem lowers_of_yields {p : Parse σ α} {phrase : List Token → α → Prop} (yields : Yields p phrase)
    (some : ∀ u a, phrase u a → u ≠ []) : Lowers p := by
  intro s a s' run
  obtain ⟨u, fits, read⟩ := yields s a s' run
  have fewer := reads_lowers s s' u read
  have positive := List.length_pos_iff.mpr (some u a fits)
  omega

theorem lowers_expect (kind : TokenKind) (q : Token → Parse σ β) (phrase : List Token → β → Prop)
    (later : ∀ t, Yields (q t) phrase) : Lowers (expect kind >>= q) := by
  refine lowers_of_yields (?_ : Yields _ fun u _ => u ≠ []) fun _ _ some => some
  refine yields_bind (yields_expect kind) fun u t ⟨one, _⟩ => ?_
  intro s b s' run
  obtain ⟨v, _, read⟩ := later t s b s' run
  exact ⟨v, by simp [one], read⟩

omit [TokenSource σ] in
theorem rounds_succ (goesOn : Option TokenKind → Bool) (step : α → Parse σ α) (count : Nat) (a : α)
    (s : ParseState σ) :
    rounds goesOn step (count + 1) a s =
      if goesOn (s.lookahead.map Token.kind) then (step a >>= rounds goesOn step count) s
      else .ok a s := by
  change (if goesOn (s.lookahead.map Token.kind) then _ else _ : Parse σ α) s = _
  split <;> rfl

theorem rounds_at_end (goesOn : Option TokenKind → Bool) (step : α → Parse σ α)
    (ends : goesOn none = false) (count : Nat) (a : α) (s : ParseState σ) (none : s.left = 0) :
    rounds goesOn step count a s = .ok a s := by
  have ahead : s.lookahead = Option.none := by
    unfold ParseState.left at none
    split at none
    · assumption
    · contradiction
  cases count with
  | zero => rfl
  | succ count => simp [rounds_succ, ahead, ends]

theorem rounds_enough (goesOn : Option TokenKind → Bool) (step : α → Parse σ α)
    (ends : goesOn none = false) (lowers : ∀ a, Lowers (step a)) (count more : Nat) (a : α)
    (s : ParseState σ) (enough : s.left ≤ count) (enough' : s.left ≤ more) :
    rounds goesOn step count a s = rounds goesOn step more a s := by
  induction count generalizing more a s with
  | zero =>
      have none : s.left = 0 := by omega
      rw [rounds_at_end goesOn step ends _ a s none, rounds_at_end goesOn step ends _ a s none]
  | succ count ih =>
      cases more with
      | zero =>
          have none : s.left = 0 := by omega
          rw [rounds_at_end goesOn step ends _ a s none, rounds_at_end goesOn step ends _ a s none]
      | succ more =>
          rw [rounds_succ, rounds_succ]
          split
          · change EStateM.bind _ _ s = EStateM.bind _ _ s
            unfold EStateM.bind
            split
            · rename_i b t stepped
              have fewer := lowers a s b t stepped
              exact ih more b t (by omega) (by omega)
            · rfl
          · rfl

-- The loop as a recursion without a count.
theorem repeat_while_eq (goesOn : Option TokenKind → Bool) (step : α → Parse σ α)
    (ends : goesOn none = false) (lowers : ∀ a, Lowers (step a)) (a : α) (s : ParseState σ) :
    repeatWhile goesOn step a s =
      if goesOn (s.lookahead.map Token.kind) then (step a >>= repeatWhile goesOn step) s
      else .ok a s := by
  have bound := s.left_le_bound
  change rounds goesOn step s.bound a s = _
  rw [rounds_enough goesOn step ends lowers s.bound (s.left + 1) a s bound (by omega), rounds_succ]
  split
  · change EStateM.bind _ _ s = EStateM.bind _ _ s
    unfold EStateM.bind
    split
    · rename_i b t stepped
      have fewer := lowers a s b t stepped
      exact rounds_enough goesOn step ends lowers s.left t.bound b t (by omega) t.left_le_bound
    · rfl
  · rfl

-- A loop ends at a token that it does not go on at.
theorem repeat_while_stops (goesOn : Option TokenKind → Bool) (step : α → Parse σ α)
    (ends : goesOn none = false) (lowers : ∀ a, Lowers (step a)) (a b : α) (s s' : ParseState σ)
    (run : repeatWhile goesOn step a s = .ok b s') :
    goesOn (s'.lookahead.map Token.kind) = false := by
  generalize size : s.left = n
  induction n using Nat.strongRecOn generalizing a s with
  | ind n ih =>
      rw [repeat_while_eq goesOn step ends lowers] at run
      split at run
      · obtain ⟨c, t, stepped, later⟩ := (bind_ok_iff _ _ _ _ _).mp run
        exact ih t.left (size ▸ lowers a s c t stepped) c t later rfl
      · rename_i stops
        injection run with _ same
        exact same ▸ by simpa using stops

end Parse

end ScriptFront
