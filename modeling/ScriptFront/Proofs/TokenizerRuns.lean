import ScriptFront.Proofs.Tiling

set_option autoImplicit false

/-! A tokenizer that is called again and again, by reading, as an iterator and to look where it is, in any
order. It gives the tokens up to the first lexical error; a reading stays at the error, the iterator goes
to the end behind it, and at the end nothing comes any more. -/

namespace ScriptFront

inductive Call where
  | read
  | next
  | cursor
  | isAtEnd
  | hasMore

inductive Answer where
  | item (found : Option (Except LexicalError Token))
  | offset (cursor : Nat)
  | truth (value : Bool)

def Answer.token? : Answer → Option Token
  | .item (some (.ok token)) => some token
  | _ => none

namespace Tokenizer

-- What a call answers, and the tokenizer after it.
def perform (t : Tokenizer) : Call → Answer × Tokenizer
  | .read =>
      match t.read with
      | .ok token after => (.item (token.map .ok), after)
      | .error fault after => (.item (some (.error fault)), after)
  | .next => (.item t.next.1, t.next.2)
  | .cursor => (.offset t.cursor, t)
  | .isAtEnd => (.truth t.isAtEnd, t)
  | .hasMore => (.truth t.hasMore, t)

def after (t : Tokenizer) : List Call → Tokenizer
  | [] => t
  | call :: later => (t.perform call).2.after later

def answers (t : Tokenizer) : List Call → List Answer
  | [] => []
  | call :: later => (t.perform call).1 :: (t.perform call).2.answers later

-- A reading fails here, in the same way again and again; the iterator fails once and goes to the end.
structure FailsHere (source : String) (fault : LexicalError) (t : Tokenizer) : Prop where
  place : t.cursor = fault.offset
  read : t.read = .error fault t
  next : t.next = (some (.error fault), t.finish)
  finish : t.finish.cursor = Text.byteLength source.toList

-- At the end of the source nothing comes any more.
structure IsOver (source : String) (t : Tokenizer) : Prop where
  place : t.cursor = Text.byteLength source.toList
  read : t.read = .ok none t
  next : t.next = (none, t)

-- No token came, or the iterator met an error.
inductive Ends : Call → Answer → Prop where
  | nothing (call : Call) : Ends call (.item none)
  | error (fault : LexicalError) : Ends .next (.item (some (.error fault)))

-- What holds of a tokenizer after some calls, with what they answered.
structure Orderly (source : String) (t : Tokenizer) (answers : List Answer) : Prop where
  boundary : RestAt source t.cursor t.rest
  within : t.cursor ≤ Text.byteLength source.toList
  forward : ∀ later, t.cursor ≤ (t.after later).cursor
  opposite : t.isAtEnd = !t.hasMore
  tokens : answers.filterMap Answer.token? <+: leadingTokens source
  stays : ∀ fault failed, t.read = .error fault failed →
    ∀ later, Call.next ∉ later → (failed.after later).FailsHere source fault
  ended : ∀ call, Ends call (t.perform call).1 → ∀ later, ((t.perform call).2.after later).IsOver source

-- What a call can do: it gives the next token, finds the end or an error, or only looks.
inductive Performs (t : Tokenizer) : Call → Answer → Tokenizer → Prop where
  | token (call : Call) (token : Token) (behind : Tokenizer) :
      t.read = .ok (some token) behind → Performs t call (.item (some (.ok token))) behind
  | none (call : Call) (behind : Tokenizer) : t.read = .ok none behind → Performs t call (.item none) behind
  | failed (fault : LexicalError) (failed : Tokenizer) :
      t.read = .error fault failed → Performs t .read (.item (some (.error fault))) failed
  | finished (fault : LexicalError) (failed : Tokenizer) :
      t.read = .error fault failed → Performs t .next (.item (some (.error fault))) failed.finish
  | offset (call : Call) (cursor : Nat) : Performs t call (.offset cursor) t
  | truth (call : Call) (value : Bool) : Performs t call (.truth value) t

theorem performs (t : Tokenizer) (call : Call) : t.Performs call (t.perform call).1 (t.perform call).2 := by
  cases call with
  | read =>
      rw [perform]
      cases found : t.read with
      | error fault failed => exact .failed fault failed found
      | ok token behind =>
          cases token with
          | none => exact .none _ behind found
          | some token => exact .token _ token behind found
  | next =>
      rw [perform, next]
      cases found : t.read with
      | error fault failed => exact .finished fault failed found
      | ok token behind =>
          cases token with
          | none => exact .none _ behind found
          | some token => exact .token _ token behind found
  | cursor => exact .offset _ _
  | isAtEnd => exact .truth _ _
  | hasMore => exact .truth _ _

theorem inside_of_ok (source : String) (t behind : Tokenizer) (token : Option Token) (inside : t.Inside source)
    (found : t.read = .ok token behind) : behind.Inside source ∧ t.cursor ≤ behind.cursor := by
  have covers := covers_read source t inside
  rw [found] at covers
  cases token with
  | none => exact ⟨covers.2.2, skips_le source _ _ covers.1⟩
  | some token =>
      obtain ⟨skips, stop, inside', matched⟩ := covers
      have first := skips_le source _ _ skips
      have moves := (size_of_matched source _ _ _ _ matched).2
      exact ⟨inside', by omega⟩

theorem inside_of_error (source : String) (t failed : Tokenizer) (fault : LexicalError) (inside : t.Inside source)
    (found : t.read = .error fault failed) :
    failed.Inside source ∧ failed.cursor = fault.offset ∧ t.cursor ≤ failed.cursor := by
  have covers := covers_read source t inside
  rw [found] at covers
  obtain ⟨skips, place, inside'⟩ := covers
  exact ⟨inside', place.symm, place ▸ skips_le source _ _ skips⟩

theorem over_of_rest (source : String) (t : Tokenizer) (inside : t.Inside source) (nothing : t.rest = []) :
    t.IsOver source where
  place := by rw [← size_of_inside source t inside, ← t.covers, nothing, Text.byteLength, Nat.add_zero]
  read := t.read_at_end nothing
  next := by rw [next, t.read_at_end nothing]

theorem over_of_finish (source : String) (t : Tokenizer) (inside : t.Inside source) : t.finish.IsOver source :=
  over_of_rest source t.finish (inside_finish source t inside) rfl

theorem cursor_le_size (source : String) (t : Tokenizer) (inside : t.Inside source) :
    t.cursor ≤ Text.byteLength source.toList := by
  rw [← size_of_inside source t inside, ← t.covers]
  exact Nat.le_add_right _ _

-- An error is met again where it was met.
theorem read_again (t failed : Tokenizer) (fault : LexicalError) (found : t.read = .error fault failed) :
    failed.read = .error fault failed := by
  revert found
  induction t using read_induct with
  | atEnd t nothing => nofun
  | takes t kind size matched => nofun
  | fails t c rest unread missing =>
      intro found
      injection found with same place
      exact same ▸ place ▸ t.read_fails c rest unread missing
  | skips t size matched ih => exact ih

theorem fails_of_error (source : String) (t failed : Tokenizer) (fault : LexicalError) (inside : t.Inside source)
    (found : t.read = .error fault failed) : failed.FailsHere source fault := by
  obtain ⟨inside', place, _⟩ := inside_of_error source t failed fault inside found
  have again := read_again t failed fault found
  exact ⟨place, again, by rw [next, again], size_of_inside source failed inside'⟩

theorem perform_over (source : String) (t : Tokenizer) (ended : t.IsOver source) (call : Call) :
    (t.perform call).2 = t := by
  cases call with
  | read => rw [perform, ended.read]
  | next => rw [perform, ended.next]
  | _ => rfl

theorem after_over (source : String) (t : Tokenizer) (ended : t.IsOver source) (later : List Call) :
    (t.after later).IsOver source := by
  induction later with
  | nil => exact ended
  | cons call later ih => rwa [after, perform_over source t ended call]

theorem perform_failed (source : String) (fault : LexicalError) (t : Tokenizer) (fails : t.FailsHere source fault)
    (call : Call) (other : call ≠ .next) : (t.perform call).2 = t := by
  cases call with
  | read => rw [perform, fails.read]
  | next => contradiction
  | _ => rfl

theorem after_failed (source : String) (fault : LexicalError) (t : Tokenizer) (fails : t.FailsHere source fault)
    (later : List Call) (others : Call.next ∉ later) : (t.after later).FailsHere source fault := by
  induction later with
  | nil => exact fails
  | cons call later ih =>
      rw [List.mem_cons, not_or] at others
      rw [after, perform_failed source fault t fails call (Ne.symm others.1)]
      exact ih others.2

-- A call that finds the end, or an error for the iterator, leaves the tokenizer at the end.
theorem perform_ends (source : String) (t : Tokenizer) (inside : t.Inside source) (call : Call)
    (ends : Ends call (t.perform call).1) : (t.perform call).2.IsOver source := by
  have done := t.performs call
  generalize t.perform call = result at ends done
  obtain ⟨answer, behind⟩ := result
  cases done with
  | token _ token behind found => cases ends
  | none _ behind found =>
      have covers := covers_read source t inside
      rw [found] at covers
      exact over_of_rest source behind covers.2.2 covers.2.1
  | failed fault _ found => cases ends
  | finished fault failed found =>
      exact over_of_finish source failed (inside_of_error source t failed fault inside found).1
  | offset _ cursor => cases ends
  | truth _ value => cases ends

-- A call moves the cursor to another place of the source, but not back.
theorem perform_forward (source : String) (t : Tokenizer) (inside : t.Inside source) (call : Call) :
    (t.perform call).2.Inside source ∧ t.cursor ≤ (t.perform call).2.cursor := by
  have done := t.performs call
  generalize t.perform call = result at done
  obtain ⟨answer, behind⟩ := result
  cases done with
  | token _ token behind found => exact inside_of_ok source t behind _ inside found
  | none _ behind found => exact inside_of_ok source t behind _ inside found
  | failed fault _ found =>
      obtain ⟨inside', _, moves⟩ := inside_of_error source t behind fault inside found
      exact ⟨inside', moves⟩
  | finished fault failed found =>
      obtain ⟨inside', _, _⟩ := inside_of_error source t failed fault inside found
      have atEnd := (over_of_finish source failed inside').place
      exact ⟨inside_finish source failed inside', atEnd ▸ cursor_le_size source t inside⟩
  | offset _ cursor => exact ⟨inside, Nat.le_refl _⟩
  | truth _ value => exact ⟨inside, Nat.le_refl _⟩

theorem after_forward (source : String) (t : Tokenizer) (inside : t.Inside source) (calls : List Call) :
    (t.after calls).Inside source ∧ t.cursor ≤ (t.after calls).cursor := by
  induction calls generalizing t with
  | nil => exact ⟨inside, Nat.le_refl _⟩
  | cons call later ih =>
      obtain ⟨inside', moves⟩ := perform_forward source t inside call
      obtain ⟨inside'', moves'⟩ := ih (t.perform call).2 inside'
      exact ⟨inside'', Nat.le_trans moves moves'⟩

-- A call takes its token, if it gives one, from those that come before the first error.
theorem perform_leading (t : Tokenizer) (call : Call) :
    (t.perform call).1.token?.toList ++ (t.perform call).2.leading = t.leading := by
  have done := t.performs call
  generalize t.perform call = result at done
  obtain ⟨answer, behind⟩ := result
  cases done with
  | token _ token behind found => exact (t.leading_of_token behind token found).symm
  | none _ behind found =>
      rw [t.leading_of_end behind found]
      exact leading_of_end behind behind (behind.read_at_end (rest_of_scan _ t behind (Nat.lt_succ_self _) found))
  | failed fault _ found =>
      rw [t.leading_of_error behind fault found]
      exact behind.leading_of_error behind fault (read_again t behind fault found)
  | finished fault failed found =>
      rw [t.leading_of_error failed fault found]
      exact leading_of_end failed.finish failed.finish (failed.finish.read_at_end rfl)
  | offset _ cursor => rfl
  | truth _ value => rfl

theorem answers_leading (t : Tokenizer) (calls : List Call) :
    (t.answers calls).filterMap Answer.token? ++ (t.after calls).leading = t.leading := by
  induction calls generalizing t with
  | nil => rfl
  | cons call later ih =>
      have first := t.perform_leading call
      rw [← ih (t.perform call).2] at first
      rw [answers, after, ← first]
      cases found : (t.perform call).1.token? <;> simp [found]

end Tokenizer

open Tokenizer

-- After any calls a tokenizer is where it should be, and goes on as it should.
theorem calls_orderly (source : String) (calls : List Call) :
    Orderly source ((ofSource source).after calls) ((ofSource source).answers calls) := by
  have inside := (after_forward source (ofSource source) (inside_of_source source) calls).1
  have leading := answers_leading (ofSource source) calls
  generalize (ofSource source).after calls = t at inside leading
  exact
    { boundary := inside
      within := cursor_le_size source t inside
      forward := fun later => (after_forward source t inside later).2
      opposite := by
        have covers := t.covers
        rw [isAtEnd, hasMore, Bool.eq_iff_iff]
        simp
        omega
      tokens := ⟨t.leading, leading⟩
      stays := fun fault failed found later others =>
        after_failed source fault failed (fails_of_error source t failed fault inside found) later others
      ended := fun call ends later => after_over source _ (perform_ends source t inside call ends) later }

end ScriptFront
