import ScriptFront.Grammar.Statement
import ScriptFront.Proofs.Reads
import ScriptFront.Proofs.WellFormed

set_option autoImplicit false

/-! The parser gives every `else` to the nearest conditional that waits for one. No statement that waits
for an `else` is left before one. -/

namespace ScriptFront

open Parse

variable {σ : Type} [TokenSource σ] {α β : Type}

-- Where the next token is of a kind for which `begins` holds, a run that ends well leaves a value and a
-- kind of the next token for which `ends` holds.
def Leaves (begins : Option TokenKind → Prop) (p : Parse σ α) (ends : α → Option TokenKind → Prop) : Prop :=
  ∀ s a s', begins (s.lookahead.map Token.kind) → p s = .ok a s' → ends a (s'.lookahead.map Token.kind)

def anything {α : Type} (_ : α) (_ : Option TokenKind) : Prop :=
  True

variable {begins : Option TokenKind → Prop} {ends : α → Option TokenKind → Prop}

omit [TokenSource σ] in
theorem leaves_anything (p : Parse σ α) : Leaves begins p anything :=
  fun _ _ _ _ _ => trivial

omit [TokenSource σ] in
theorem leaves_pure {a : α} (each : ∀ kind, begins kind → ends a kind) :
    Leaves begins (pure a : Parse σ α) ends := by
  intro s b s' begun run
  injection run with same after
  subst same after
  exact each _ begun

omit [TokenSource σ] in
theorem leaves_bind {p : Parse σ β} {q : β → Parse σ α} {middle : β → Option TokenKind → Prop}
    (first : Leaves begins p middle) (second : ∀ b, Leaves (middle b) (q b) ends) :
    Leaves begins (p >>= q) ends := by
  intro s a s' begun run
  obtain ⟨b, m, front, back⟩ := (bind_ok_iff _ _ _ _ _).mp run
  exact second b m a s' (first s b m begun front) back

omit [TokenSource σ] in
theorem leaves_then {p : Parse σ β} {q : β → Parse σ α} (second : ∀ b, Leaves (fun _ => True) (q b) ends) :
    Leaves begins (p >>= q) ends :=
  leaves_bind (leaves_anything p) second

omit [TokenSource σ] in
-- What is known of the next token may say something else that stays known.
theorem leaves_known {p : Parse σ α} (known : ∀ kind, begins kind → Leaves (fun _ => True) p ends) :
    Leaves begins p ends :=
  fun s a s' begun run => known _ begun s a s' trivial run

omit [TokenSource σ] in
theorem leaves_look {q : Option TokenKind → Parse σ α} (each : ∀ kind, Leaves begins (q kind) ends) :
    Leaves begins (lookaheadKind >>= q) ends :=
  fun s a s' begun run => each _ s a s' begun run

omit [TokenSource σ] in
theorem leaves_ahead {kind : TokenKind} {q : Bool → Parse σ α}
    (each : ∀ answer, Leaves (fun next => begins next ∧ (next == some kind) = answer) (q answer) ends) :
    Leaves begins (isAhead kind >>= q) ends :=
  fun s a s' begun run => each _ s a s' ⟨begun, rfl⟩ run

omit [TokenSource σ] in
theorem leaves_deeper {p : Parse σ α} (inside : Leaves begins p ends) : Leaves begins (deeper p) ends := by
  intro s a s' begun run
  unfold deeper at run
  split at run
  · rename_i after result
    injection run with same ended
    subst same ended
    exact inside s.enter _ after begun result
  · cases run

theorem leaves_repeat_while {goesOn : Option TokenKind → Bool} {step : α → Parse σ α} (good : α → Prop)
    (each : ∀ a, good a → Leaves (fun _ => True) (step a) fun b _ => good b) {a : α} (start : good a) :
    Leaves begins (repeatWhile goesOn step a) fun b _ => good b := by
  have counted (count : Nat) (a : α) (start : good a) :
      Leaves (fun _ => True) (rounds goesOn step count a) fun b _ => good b := by
    induction count generalizing a with
    | zero => exact leaves_pure fun _ _ => start
    | succ count ih =>
        refine leaves_look fun kind => ?_
        split
        · exact leaves_bind (each a start) fun b => leaves_known fun _ good => ih b good
        · exact leaves_pure fun _ _ => start
  exact fun s b s' _ run => counted s.bound a start s b s' trivial run

-- A statement in which every `else` is with the nearest conditional, and which does not wait for an
-- `else` that comes next.
def Attached (s : Statement) (next : Option TokenKind) : Prop :=
  s.elseNearest = true ∧ (s.waitsForElse = true → next ≠ some (.keyword .elseWord))

theorem elses_nearest_append (done : List Statement) (last : Statement) :
    elsesNearest (done ++ [last]) = (elsesNearest done && last.elseNearest) := by
  induction done with
  | nil => simp [elsesNearest]
  | cons first rest ih => rw [List.cons_append, elsesNearest, elsesNearest, ih, Bool.and_assoc]

namespace Grammar

variable {inner : Nested σ Program.actions}
  (attached : Leaves (fun _ => True) inner.statement Attached)

include attached

theorem leaves_statements (stop : Option TokenKind) :
    Leaves begins (statements Program.actions inner stop) fun body _ => elsesNearest body = true := by
  refine leaves_bind (leaves_repeat_while (fun done => elsesNearest done.reverse = true) ?_ rfl) ?_
  · intro done nearest
    refine leaves_bind attached fun s => ?_
    refine leaves_pure fun _ here => ?_
    rw [List.reverse_cons, elses_nearest_append, nearest, here.1, Bool.and_self]
  · exact fun done => leaves_pure fun _ nearest => nearest

theorem leaves_block :
    Leaves begins (block Program.actions inner) fun body _ => elsesNearest body = true := by
  refine leaves_then fun _ => ?_
  refine leaves_bind (leaves_statements attached _) fun body => ?_
  refine leaves_known fun _ nearest => ?_
  refine leaves_then fun _ => ?_
  exact leaves_pure fun _ _ => nearest

theorem leaves_if_statement : Leaves begins (ifStatement Program.actions inner) Attached := by
  refine leaves_then fun _ => ?_
  refine leaves_then fun test => ?_
  refine leaves_bind attached fun consequent => ?_
  refine leaves_ahead fun otherwise => ?_
  cases otherwise with
  | true =>
      refine leaves_known fun kind ⟨⟨nearest, waits⟩, isElse⟩ => ?_
      have settled : consequent.waitsForElse = false := by
        cases waiting : consequent.waitsForElse with
        | false => rfl
        | true => exact absurd (beq_iff_eq.mp isElse) (waits waiting)
      refine leaves_then fun _ => ?_
      refine leaves_bind attached fun alternate => ?_
      refine leaves_pure fun _ ⟨nearest', waits'⟩ => ⟨?_, waits'⟩
      simp [Statement.elseNearest, nearest, settled, nearest']
  | false =>
      refine leaves_pure fun kind ⟨⟨nearest, _⟩, other⟩ => ⟨nearest, fun _ => ?_⟩
      simpa using other

theorem leaves_while_statement : Leaves begins (whileStatement Program.actions inner) Attached := by
  refine leaves_then fun _ => ?_
  refine leaves_then fun test => ?_
  refine leaves_bind attached fun body => ?_
  exact leaves_pure fun _ here => here

theorem leaves_do_while_statement : Leaves begins (doWhileStatement Program.actions inner) Attached := by
  refine leaves_then fun _ => ?_
  refine leaves_bind attached fun body => ?_
  refine leaves_known fun _ here => ?_
  refine leaves_then fun _ => ?_
  refine leaves_then fun test => ?_
  refine leaves_then fun _ => ?_
  exact leaves_pure fun _ _ => ⟨here.1, nofun⟩

theorem leaves_for_statement : Leaves begins (forStatement Program.actions inner) Attached := by
  refine leaves_then fun _ => ?_
  refine leaves_then fun _ => ?_
  refine leaves_then fun init => ?_
  refine leaves_then fun _ => ?_
  refine leaves_then fun test => ?_
  refine leaves_then fun _ => ?_
  refine leaves_then fun update => ?_
  refine leaves_then fun _ => ?_
  refine leaves_bind attached fun body => ?_
  exact leaves_pure fun _ here => here

theorem leaves_function_declaration :
    Leaves begins (functionDeclaration Program.actions inner) Attached := by
  have rest (name : Identifier) (params : List Identifier) :
      Leaves (fun _ => True) (do
        let _ ← expect (.mark .rightParen)
        let body ← block Program.actions inner
        return Statement.function name params body : Parse σ Statement) Attached := by
    refine leaves_then fun _ => ?_
    refine leaves_bind (leaves_block attached) fun body => ?_
    exact leaves_pure fun _ nearest => ⟨nearest, nofun⟩
  refine leaves_then fun _ => ?_
  refine leaves_then fun name => ?_
  refine leaves_then fun _ => ?_
  refine leaves_ahead fun empty => ?_
  refine leaves_known fun _ _ => ?_
  split
  · exact rest name []
  · exact leaves_then fun params => rest name params

theorem leaves_class_declaration : Leaves begins (classDeclaration Program.actions inner) Attached := by
  refine leaves_then fun _ => ?_
  refine leaves_then fun id => ?_
  refine leaves_then fun parent => ?_
  refine leaves_bind (leaves_block attached) fun body => ?_
  exact leaves_pure fun _ nearest => ⟨nearest, nofun⟩

theorem leaves_statement : Leaves begins (statement Program.actions inner) Attached := by
  refine leaves_look fun kind => ?_
  split
  · exact leaves_then fun _ => leaves_pure fun _ _ => ⟨rfl, nofun⟩
  · refine leaves_bind (leaves_block attached) fun body => ?_
    exact leaves_pure fun _ nearest => ⟨nearest, nofun⟩
  · refine leaves_then fun declarations => ?_
    exact leaves_then fun _ => leaves_pure fun _ _ => ⟨rfl, nofun⟩
  · exact leaves_function_declaration attached
  · exact leaves_class_declaration attached
  · refine leaves_then fun _ => ?_
    refine leaves_then fun argument => ?_
    exact leaves_then fun _ => leaves_pure fun _ _ => ⟨rfl, nofun⟩
  · exact leaves_if_statement attached
  · exact leaves_while_statement attached
  · exact leaves_do_while_statement attached
  · exact leaves_for_statement attached
  · refine leaves_then fun e => ?_
    exact leaves_then fun _ => leaves_pure fun _ _ => ⟨rfl, nofun⟩

omit attached in
theorem nested_leaves (limit levels : Nat) :
    Leaves (σ := σ) (fun _ => True) (nested Program.actions limit levels).statement Attached := by
  induction levels with
  | zero =>
      intro s a s' _ run
      cases run
  | succ levels ih => exact leaves_deeper (leaves_statement ih)

end Grammar

end ScriptFront
