import ScriptFront.Proofs.Replay

set_option autoImplicit false

/-! Parsing without a nesting limit. At one token a statement, an expression and a construction can be
opened, and nothing more before the token is taken, so three levels for each token that is left are
enough, and with enough levels their number does not matter. -/

namespace ScriptFront

open Parse

variable {σ τ : Type} [TokenSource σ] [TokenSource τ]

omit [TokenSource σ] [TokenSource τ] in
theorem alike_weaken {α β : Type} {related related' : ParseState σ → ParseState τ → Prop}
    {values values' : α → β → Prop} (weaker : ∀ s t, related s t → related' s t)
    (weaker' : ∀ a b, values a b → values' a b) (left : EStateM.Result Error (ParseState σ) α)
    (right : EStateM.Result Error (ParseState τ) β) (alike : Alike related values left right) :
    Alike related' values' left right := by
  cases left with
  | ok a s =>
      cases right with
      | ok b t => exact ⟨weaker' a b alike.1, weaker s t alike.2⟩
      | error fault t => exact alike
  | error fault s =>
      cases right with
      | ok b t => exact alike
      | error fault' t => exact ⟨alike.1, weaker s t alike.2⟩

omit [TokenSource σ] in
theorem eq_of_alike {α : Type} {related : ParseState σ → ParseState σ → Prop}
    (equal : ∀ s t, related s t → s = t) (left right : EStateM.Result Error (ParseState σ) α)
    (alike : Alike related Eq left right) : left = right := by
  cases left with
  | ok a s =>
      cases right with
      | ok b t => rw [alike.1, equal s t alike.2]
      | error fault t => exact alike.elim
  | error fault s =>
      cases right with
      | ok b t => exact alike.elim
      | error fault' t => rw [alike.1, equal s t alike.2]

-- A token that is taken is no longer left.
theorem refill_fewer (n : Nat) (s t : ParseState σ) (token : Token) (related : s = t ∧ s.left < n)
    (ahead : s.lookahead = some token) :
    Alike (fun s t : ParseState σ => s = t ∧ s.left < n) (fun _ _ => True) (Parse.refill s) (Parse.refill t) := by
  obtain ⟨rfl, fewer⟩ := related
  simp only [ParseState.left, ahead] at fewer
  unfold Parse.refill
  cases found : TokenSource.next s.source with
  | ok next after =>
      refine ⟨trivial, rfl, ?_⟩
      cases next with
      | none => exact Nat.zero_lt_of_lt fewer
      | some t =>
          have lower := TokenSource.lowers s.source t after found
          simp only [ParseState.left]
          omega
  | error fault after => exact ⟨rfl, rfl, Nat.zero_lt_of_lt fewer⟩

-- The same state on both sides, with fewer than `n` tokens left.
def fewerLeft (σ : Type) [TokenSource σ] (n : Nat) : Coupling σ σ where
  related s t := s = t ∧ s.left < n
  taken _ := True
  ahead _ _ related := related.1 ▸ rfl
  enter _ _ related := ⟨related.1 ▸ rfl, related.2⟩
  leave _ _ related := ⟨related.1 ▸ rfl, related.2⟩
  refill := refill_fewer n

theorem fewer_left_leads (n : Nat) :
    (fewerLeft σ (n + 1)).comparison.toComparison.Leads (fewerLeft σ n).comparison.toComparison := by
  intro kind α β values p q later s t related
  obtain ⟨rfl, fewer⟩ := related
  have passed := (fewerLeft σ (n + 1)).agree_expect kind s s ⟨rfl, fewer⟩
  refine Coupling.alike_bind (fewerLeft σ (n + 1)) s s passed ?_
  intro a b m m' run same both
  obtain ⟨rfl, _⟩ := both
  obtain ⟨ahead, fits, filled⟩ := (expect_ok_iff kind s m a).mp run
  have one : Reads s.ahead [a] m.ahead := by
    obtain ⟨_, _, read⟩ := yields_expect kind s a m run
    rename_i u one
    exact one.1 ▸ read
  have lower := reads_lowers s m [a] one
  have alike := later a b same m m ⟨rfl, by simp only [List.length_singleton] at lower; omega⟩
  exact alike_weaken (fun _ _ found => ⟨found.1, Nat.lt_succ_of_lt found.2⟩) (fun _ _ found => found) _ _ alike

namespace Grammar

-- What levels of nesting are enough for, where fewer than `n` tokens are left.
def Settled {act : Actions} (n : Nat) (inner inner' : Nested σ act) : Prop :=
  inner.Agree (fewerLeft σ n).comparison.toComparison (act.identical _) inner'

variable (act : Actions)

section Steps

variable (limit limit' n levels levels' : Nat)
  (below : ∀ levels levels', 3 * n ≤ levels → 3 * n ≤ levels' →
    Settled n (nested (σ := σ) act limit levels) (nested act limit' levels'))

include below

theorem construction_settled (enough : 3 * n + 1 ≤ levels) (enough' : 3 * n + 1 ≤ levels') :
    (fewerLeft σ (n + 1)).Agree Eq (nested (σ := σ) act limit levels).construction
      (nested act limit' levels').construction := by
  cases levels with
  | zero => omega
  | succ levels =>
      cases levels' with
      | zero => omega
      | succ levels' =>
          have inside := below levels levels' (by omega) (by omega)
          exact Coupling.agree_deeper _ (agree_construction (fewer_left_leads n) inside)

theorem expression_settled (enough : 3 * n + 2 ≤ levels) (enough' : 3 * n + 2 ≤ levels') :
    (fewerLeft σ (n + 1)).Agree Eq (nested (σ := σ) act limit levels).expression
      (nested act limit' levels').expression := by
  cases levels with
  | zero => omega
  | succ levels =>
      cases levels' with
      | zero => omega
      | succ levels' =>
          have inside := below levels levels' (by omega) (by omega)
          have new := construction_settled act limit limit' n levels levels' below (by omega) (by omega)
          exact Coupling.agree_deeper _ (agree_assignment (fewer_left_leads n) inside new)

theorem statement_settled (enough : 3 * n + 3 ≤ levels) (enough' : 3 * n + 3 ≤ levels') :
    (fewerLeft σ (n + 1)).Agree Eq (nested (σ := σ) act limit levels).statement
      (nested act limit' levels').statement := by
  cases levels with
  | zero => omega
  | succ levels =>
      cases levels' with
      | zero => omega
      | succ levels' =>
          have inside := below levels levels' (by omega) (by omega)
          have whole := expression_settled act limit limit' n levels levels' below (by omega) (by omega)
          exact Coupling.agree_deeper _ (agree_statement (fewer_left_leads n) inside whole)

end Steps

-- Neither the number of the levels nor the limit that an error would name makes a difference.
theorem settled (limit limit' n levels levels' : Nat) (enough : 3 * n ≤ levels) (enough' : 3 * n ≤ levels') :
    Settled n (nested (σ := σ) act limit levels) (nested act limit' levels') := by
  induction n generalizing levels levels' with
  | zero =>
      refine ⟨?_, ?_, ?_, nested_sound _ _, nested_sound _ _⟩
      all_goals
        rintro s t ⟨_, none⟩
        exact absurd none (Nat.not_lt_zero _)
  | succ n ih =>
      refine ⟨?_, ?_, ?_, nested_sound _ _, nested_sound _ _⟩
      · exact statement_settled act limit limit' n levels levels' ih (by omega) (by omega)
      · exact expression_settled act limit limit' n levels levels' ih (by omega) (by omega)
      · exact construction_settled act limit limit' n levels levels' ih (by omega) (by omega)

-- The productions that open a level, where `inner` are the ones that are opened inside of it.
def opening (inner : Nested σ act) : Nested σ act where
  statement := deeper (statement act inner)
  expression := deeper (assignment act inner)
  construction := deeper (construction act inner)

-- The productions without a limit.
def unguarded : Nested σ act where
  statement s := (nested act 0 (3 * s.left + 3)).statement s
  expression s := (nested act 0 (3 * s.left + 3)).expression s
  construction s := (nested act 0 (3 * s.left + 3)).construction s

-- A whole input without a limit.
def unlimited : Parse σ act.Program := do
  refill
  let body ← statements act (unguarded act) none
  return act.program body

theorem unguarded_sound : (unguarded (σ := σ) act).Sound := by
  have sound (levels : Nat) : (nested (σ := σ) act 0 levels).Sound := nested_sound 0 levels
  constructor
  · intro s a s' run
    dsimp only [unguarded] at run
    exact (sound _).statement s a s' run
  · intro s a s' run
    dsimp only [unguarded] at run
    exact (sound _).expression s a s' run
  · intro s a s' run
    dsimp only [unguarded] at run
    exact (sound _).construction s a s' run

section Unguarded

variable (limit n levels : Nat)

theorem construction_unguarded (enough : 3 * n + 1 ≤ levels) :
    (fewerLeft σ (n + 1)).Agree Eq (nested (σ := σ) act limit levels).construction (unguarded act).construction := by
  rintro s t ⟨rfl, fewer⟩
  have same := construction_settled act limit 0 s.left levels (3 * s.left + 3) (settled act limit 0 s.left)
    (by omega) (by omega) s s ⟨rfl, Nat.lt_succ_self _⟩
  exact alike_weaken (fun _ _ found => ⟨found.1, by have := found.2; omega⟩) (fun _ _ found => found) _ _ same

theorem expression_unguarded (enough : 3 * n + 2 ≤ levels) :
    (fewerLeft σ (n + 1)).Agree Eq (nested (σ := σ) act limit levels).expression (unguarded act).expression := by
  rintro s t ⟨rfl, fewer⟩
  have same := expression_settled act limit 0 s.left levels (3 * s.left + 3) (settled act limit 0 s.left)
    (by omega) (by omega) s s ⟨rfl, Nat.lt_succ_self _⟩
  exact alike_weaken (fun _ _ found => ⟨found.1, by have := found.2; omega⟩) (fun _ _ found => found) _ _ same

theorem statement_unguarded (enough : 3 * n + 3 ≤ levels) :
    (fewerLeft σ (n + 1)).Agree Eq (nested (σ := σ) act limit levels).statement (unguarded act).statement := by
  rintro s t ⟨rfl, fewer⟩
  have same := statement_settled act limit 0 s.left levels (3 * s.left + 3) (settled act limit 0 s.left)
    (by omega) (by omega) s s ⟨rfl, Nat.lt_succ_self _⟩
  exact alike_weaken (fun _ _ found => ⟨found.1, by have := found.2; omega⟩) (fun _ _ found => found) _ _ same

theorem settled_unguarded (enough : 3 * n ≤ levels) :
    Settled n (nested (σ := σ) act limit levels) (unguarded act) := by
  cases n with
  | zero =>
      refine ⟨?_, ?_, ?_, nested_sound _ _, unguarded_sound act⟩
      all_goals
        rintro s t ⟨_, none⟩
        exact absurd none (Nat.not_lt_zero _)
  | succ n =>
      exact ⟨statement_unguarded act limit n levels (by omega), expression_unguarded act limit n levels (by omega),
        construction_unguarded act limit n levels (by omega), nested_sound _ _, unguarded_sound act⟩

end Unguarded

-- Without a limit, what is opened inside of a level is opened without a limit.
theorem unguarded_eq : unguarded (σ := σ) act = opening act (unguarded act) := by
  have equal {α : Type} {p q : Parse σ α} (s : ParseState σ)
      (alike : (fewerLeft σ (s.left + 1)).Agree Eq p q) : deeper p s = deeper q s := by
    have same := Coupling.agree_deeper _ alike s s ⟨rfl, Nat.lt_succ_self _⟩
    exact eq_of_alike (fun _ _ found => found.1) _ _ same
  have inside (s : ParseState σ) := settled_unguarded (σ := σ) act 0 s.left (3 * s.left + 2) (by omega)
  have statements : (unguarded (σ := σ) act).statement = (opening act (unguarded act)).statement := by
    funext s
    have whole := expression_unguarded (σ := σ) act 0 s.left (3 * s.left + 2) (by omega)
    exact equal s (agree_statement (fewer_left_leads s.left) (inside s) whole)
  have expressions : (unguarded (σ := σ) act).expression = (opening act (unguarded act)).expression := by
    funext s
    have new := construction_unguarded (σ := σ) act 0 s.left (3 * s.left + 2) (by omega)
    exact equal s (agree_assignment (fewer_left_leads s.left) (inside s) new)
  have constructions : (unguarded (σ := σ) act).construction = (opening act (unguarded act)).construction := by
    funext s
    exact equal s (agree_construction (fewer_left_leads s.left) (inside s))
  calc
    unguarded (σ := σ) act =
        ⟨(opening act (unguarded act)).statement, (opening act (unguarded act)).expression,
          (opening act (unguarded act)).construction⟩ := by rw [← statements, ← expressions, ← constructions]
    _ = opening act (unguarded act) := rfl

end Grammar

end ScriptFront
