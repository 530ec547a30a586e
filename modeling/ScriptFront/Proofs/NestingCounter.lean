import Mathlib.Logic.Function.Iterate
import ScriptFront.Proofs.NestingGuard

set_option autoImplicit false

/-! The nesting counter. What opens a level reads the counter, fails at the limit, and runs with the counter one
higher below it. A run leaves the counter as it was, so the levels that are left can be counted down on the way
as well as read off the counter, and behind as many openings as the limit allows there is no other. -/

namespace ScriptFront

open Parse

-- Runs a production one level deeper, unless as many levels as the limit allows are open.
def Parse.guarded {σ α : Type} (limit : Nat) (production : Parse σ α) : Parse σ α := fun s =>
  if s.depth < limit then deeper production s else fail (.nestingTooDeep limit) s

namespace Grammar

variable {σ : Type} [TokenSource σ] (act : Actions) (limit : Nat)

-- The productions that open a level, where `inner` are the ones that are opened inside of it.
def guarding (inner : Nested σ act) : Nested σ act where
  statement := guarded limit (statement act inner)
  expression := guarded limit (assignment act inner)
  construction := guarded limit (construction act inner)

-- The productions that open a level, with as many levels to go as the counter leaves.
def counted : Nested σ act where
  statement s := (nested act limit (limit - s.depth)).statement s
  expression s := (nested act limit (limit - s.depth)).expression s
  construction s := (nested act limit (limit - s.depth)).construction s

-- A whole input, with these productions.
def programOf (inner : Nested σ act) : Parse σ act.Program := do
  refill
  let body ← statements act inner none
  return act.program body

end Grammar

-- The same state, at this depth, and no more than `top` levels were open at once.
def StaysAt {σ : Type} (top depth : Nat) (s t : ParseState σ) : Prop :=
  s = t ∧ s.depth = depth ∧ s.deepest ≤ top

theorem stays_of_alike {σ α β : Type} {top depth : Nat} {values : α → β → Prop}
    {left : EStateM.Result Error (ParseState σ) α} {right : EStateM.Result Error (ParseState σ) β}
    (alike : Alike (StaysAt top depth) values left right) :
    (stateAfter left).depth = depth ∧ (stateAfter left).deepest ≤ top := by
  cases left with
  | ok a s =>
      cases right with
      | ok b t => exact alike.2.2
      | error fault t => exact alike.elim
  | error fault s =>
      cases right with
      | ok b t => exact alike.elim
      | error fault' t => exact alike.2.2

-- From a state at this depth two runs are the same, and it ends at this depth.
def SameAt {σ α β : Type} (top depth : Nat) (values : α → β → Prop) (p : Parse σ α) (q : Parse σ β) : Prop :=
  ∀ s, s.depth = depth → s.deepest ≤ top → Alike (StaysAt top depth) values (p s) (q s)

namespace SameAt

variable {σ α β γ δ : Type} {top depth : Nat} {values : α → β → Prop}

theorem pure {a : α} {b : β} (same : values a b) :
    SameAt top depth values (Pure.pure a : Parse σ α) (Pure.pure b) :=
  fun _ level low => ⟨same, rfl, level, low⟩

theorem fail (values : α → β → Prop) (fault : GrammarError) :
    SameAt top depth values (Parse.fail fault : Parse σ α) (Parse.fail fault) :=
  fun _ level low => ⟨rfl, rfl, level, low⟩

theorem bind {first : γ → δ → Prop} {p : Parse σ γ} {q : Parse σ δ} {p' : γ → Parse σ α} {q' : δ → Parse σ β}
    (begun : SameAt top depth first p q) (later : ∀ a b, first a b → SameAt top depth values (p' a) (q' b)) :
    SameAt top depth values (p >>= p') (q >>= q') := by
  intro s level low
  refine alike_then s s (begun s level low) ?_
  rintro a b t _ _ same ⟨rfl, level', low'⟩
  exact later a b same t level' low'

theorem look {p : Option TokenKind → Parse σ α} {q : Option TokenKind → Parse σ β}
    (each : ∀ kind, SameAt top depth values (p kind) (q kind)) :
    SameAt top depth values (lookaheadKind >>= p) (lookaheadKind >>= q) :=
  fun s => each (s.lookahead.map Token.kind) s

theorem rounds {goesOn : Option TokenKind → Bool} {p : α → Parse σ α} {q : β → Parse σ β}
    (each : ∀ a b, values a b → SameAt top depth values (p a) (q b)) (count : Nat) (a : α) (b : β)
    (start : values a b) :
    SameAt top depth values (Parse.rounds goesOn p count a) (Parse.rounds goesOn q count b) := by
  induction count generalizing a b with
  | zero => exact pure start
  | succ count ih =>
      refine look fun kind => ?_
      split
      · exact bind (each a b start) ih
      · exact pure start

theorem deeper {p : Parse σ α} {q : Parse σ β} (inside : SameAt top (depth + 1) values p q) (room : depth < top) :
    SameAt top depth values (Parse.deeper p) (Parse.deeper q) := by
  intro s level low
  have entered : s.enter.depth = depth + 1 := congrArg (· + 1) level
  have lowered : s.enter.deepest ≤ top := by
    simp only [ParseState.enter, level]
    omega
  refine alike_deeper ?_ s s (inside s.enter entered lowered)
  rintro t _ ⟨rfl, level', low'⟩
  exact ⟨rfl, congrArg (· - 1) level', low'⟩

theorem guarded {p : Parse σ α} {q : Parse σ β} {limit : Nat} (inside : SameAt top (depth + 1) values p q)
    (room : depth < limit) (bounded : limit ≤ top) :
    SameAt top depth values (Parse.guarded limit p) (Parse.deeper q) := by
  intro s level low
  rw [Parse.guarded, if_pos (level ▸ room)]
  exact deeper inside (Nat.lt_of_lt_of_le room bounded) s level low

theorem guarded_at_limit (values : α → β → Prop) (p : Parse σ α) {limit : Nat} (full : limit ≤ depth) :
    SameAt top depth values (Parse.guarded limit p) (Parse.fail (.nestingTooDeep limit)) := by
  intro s level low
  rw [Parse.guarded, if_neg (Nat.not_lt.mpr (level ▸ full))]
  exact fail values _ s level low

theorem expect [TokenSource σ] (kind : TokenKind) :
    SameAt top depth (fun a b => a.text = b.text ∧ True ∧ a.kind = kind) (Parse.expect kind : Parse σ Token)
      (Parse.expect kind) := by
  intro s level low
  obtain ⟨same, same', _⟩ := Guarded.expect_kept kind s
  cases run : Parse.expect kind s with
  | ok t s' =>
      rw [run] at same same'
      obtain ⟨_, fits, _⟩ := (expect_ok_iff kind s s' t).mp run
      exact ⟨⟨rfl, trivial, fits⟩, rfl, same.trans level, same'.symm ▸ low⟩
  | error fault s' =>
      rw [run] at same same'
      exact ⟨rfl, rfl, same.trans level, same'.symm ▸ low⟩

end SameAt

def atDepth (σ : Type) [TokenSource σ] (top depth : Nat) : Comparison σ σ fun _ => True where
  Agree := SameAt top depth
  agree_pure := .pure
  agree_bind := .bind
  agree_fail values fault _ := .fail values fault
  agree_look := .look
  agree_expect := .expect
  agree_unexpected_primary _ := fun _ level low => ⟨rfl, rfl, level, low⟩
  -- Both loops start in the same state, so they have the same number of rounds.
  agree_repeat_while _ _ _ _ _ each a b start := fun s => SameAt.rounds each s.bound a b start s

namespace Grammar

variable {σ : Type} [TokenSource σ] (act : Actions) {limit : Nat}

theorem guarding_sound {inner : Nested σ act} (sound : inner.Sound) : (guarding act limit inner).Sound := by
  have guards {α : Type} {p : Parse σ α} {phrase : List Token → α → Prop} (inside : Yields p phrase) :
      Yields (guarded limit p) phrase := by
    intro s a s' run
    unfold guarded at run
    split at run
    · exact yields_deeper inside s a s' run
    · cases run
  exact ⟨guards (yields_statement sound), guards (yields_assignment sound), guards (yields_construction sound)⟩

theorem counted_sound : (counted (σ := σ) act limit).Sound := by
  have sound (levels : Nat) : (nested (σ := σ) act limit levels).Sound := nested_sound limit levels
  exact ⟨fun s => (sound _).statement s, fun s => (sound _).expression s, fun s => (sound _).construction s⟩

section Unfolding

variable {top depth : Nat} {inner : Nested σ act}

theorem guarding_at_limit (sound : inner.Sound) (full : limit ≤ depth) :
    (guarding act limit inner).Agree (atDepth σ top depth) (act.identical _) (nested act limit (limit - depth)) := by
  rw [Nat.sub_eq_zero_of_le full]
  exact ⟨.guarded_at_limit _ _ full, .guarded_at_limit _ _ full, .guarded_at_limit _ _ full,
    guarding_sound act sound, nested_sound _ _⟩

theorem guarding_below_limit (room : depth < limit) (bounded : limit ≤ top)
    (inside : inner.Agree (atDepth σ top (depth + 1)) (act.identical _) (nested act limit (limit - (depth + 1)))) :
    (guarding act limit inner).Agree (atDepth σ top depth) (act.identical _) (nested act limit (limit - depth)) := by
  have leads := (atDepth σ top (depth + 1)).leads_self
  have left : limit - depth = limit - (depth + 1) + 1 := by omega
  rw [left]
  exact ⟨.guarded (agree_statement leads inside inside.expression) room bounded,
    .guarded (agree_assignment leads inside inside.construction) room bounded,
    .guarded (agree_construction leads inside) room bounded, guarding_sound act inside.sound, nested_sound _ _⟩

-- Behind as many openings as the counter leaves, nothing depends on what would be opened next.
theorem guarding_at (sound : inner.Sound) (bounded : limit ≤ top) (levels depth : Nat)
    (enough : limit ≤ depth + levels) :
    ((guarding act limit)^[levels + 1] inner).Agree (atDepth σ top depth) (act.identical _)
      (nested act limit (limit - depth)) := by
  induction levels generalizing depth with
  | zero => exact guarding_at_limit act sound enough
  | succ levels ih =>
      have inside := ih (depth + 1) (by omega)
      rw [Function.iterate_succ_apply']
      by_cases full : limit ≤ depth
      · exact guarding_at_limit act inside.sound full
      · exact guarding_below_limit act (Nat.lt_of_not_le full) bounded inside

end Unfolding

omit [TokenSource σ] in
theorem nested_eq {inner inner' : Nested σ act} (statement : ∀ s, inner.statement s = inner'.statement s)
    (expression : ∀ s, inner.expression s = inner'.expression s)
    (construction : ∀ s, inner.construction s = inner'.construction s) : inner = inner' := by
  cases inner
  congr
  · exact funext statement
  · exact funext expression
  · exact funext construction

-- However the productions go on behind one level more than the limit allows, they come to the same.
theorem guarding_iterate {beyond : Nested σ act} (sound : beyond.Sound) :
    (guarding act limit)^[limit + 1] beyond = counted act limit := by
  have agree (s : ParseState σ) :=
    guarding_at act sound (Nat.le_max_left limit s.deepest) limit s.depth (Nat.le_add_left _ _)
  have equal {α : Type} {p q : Parse σ α} (s : ParseState σ)
      (same : SameAt (max limit s.deepest) s.depth Eq p q) : p s = q s :=
    eq_of_alike (fun _ _ found => found.1) _ _ (same s rfl (Nat.le_max_right _ _))
  refine nested_eq act (fun s => ?_) (fun s => ?_) fun s => ?_
  · have same := equal s (agree s).statement
    exact same
  · have same := equal s (agree s).expression
    exact same
  · have same := equal s (agree s).construction
    exact same

-- The productions that open a level are made of themselves, behind the counter.
theorem counted_eq : counted (σ := σ) act limit = guarding act limit (counted act limit) := by
  have sound : (counted (σ := σ) act limit).Sound := counted_sound act
  calc
    counted act limit = (guarding act limit)^[limit + 1] (guarding act limit (counted act limit)) :=
      (guarding_iterate act (guarding_sound act sound)).symm
    _ = guarding act limit ((guarding act limit)^[limit + 1] (counted act limit)) := by
      rw [← Function.iterate_succ_apply, Function.iterate_succ_apply']
    _ = guarding act limit (counted act limit) := by rw [guarding_iterate act sound]

-- From a state at this depth the counter leaves so many levels.
theorem counted_at {top : Nat} (bounded : limit ≤ top) (depth : Nat) :
    (counted act limit).Agree (atDepth σ top depth) (act.identical _) (nested act limit (limit - depth)) := by
  have sound : (counted (σ := σ) act limit).Sound := counted_sound act
  rw [← guarding_iterate act sound]
  exact guarding_at act sound bounded limit depth (Nat.le_add_left _ _)

end Grammar

end ScriptFront
