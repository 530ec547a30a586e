import ScriptFront.Proofs.Lexemes
import ScriptFront.Proofs.Soundness
import ScriptFront.Proofs.Takes

set_option autoImplicit false

/-! What a failing run of a production says about the input: the tokens that it took can be continued
to a phrase of the grammar, also with a token of the kind that the error asks for. -/

namespace ScriptFront

open Parse

variable {σ : Type} [TokenSource σ]

namespace GrammarError

-- The kind of token that the error asks for.
def expected? : GrammarError → Option TokenKind
  | .unexpectedEnd expected => some expected
  | .unexpectedToken _ expected _ => some expected
  | _ => none

-- What an error tells about the next token is right.
def Reports : GrammarError → Option Token → Prop
  | .unexpectedEnd _, next => next = none
  | .unexpectedToken found _ offset, next => ∃ t, next = some t ∧ found = t.text ∧ offset = t.span.start
  | .unexpectedPrimary found, next => found = next.map Token.text
  | .invalidTarget, next => ∃ t, next = some t ∧ t.kind.isAssignment = true
  | .nestingTooDeep _, _ => False
  | .unknownOperator _, _ => False

end GrammarError

-- Some phrase begins with these tokens.
def Begins {α : Type} (phrase : List Token → α → Prop) (u : List Token) : Prop :=
  ∃ w a, WellSpelled w ∧ phrase (u ++ w) a

-- A run from a state fails for want of more levels, or at a token that does not fit behind the tokens
-- that were taken, though these begin a phrase.
def BlamesAt {α : Type} (limit : Nat) (p : Parse σ α) (phrase : List Token → α → Prop)
    (s : ParseState σ) : Prop :=
  ∀ tokens error after, Offers s.ahead tokens → WellSpelled tokens → p s = .error error after →
    error = .grammar (.nestingTooDeep limit) ∨ ∃ u fault, error = .grammar fault ∧
      Reads s.ahead u after.ahead ∧ fault.Reports after.lookahead ∧ Begins phrase u ∧
      ∀ t, fault.expected? = some t.kind → t.wellSpelled = true → Begins phrase (u ++ [t])

-- There is a phrase, and every failing run blames a token for not getting one.
structure Blames {α : Type} (limit : Nat) (p : Parse σ α) (phrase : List Token → α → Prop) : Prop where
  possible : Begins phrase []
  blames : ∀ s, BlamesAt limit p phrase s

variable {α β : Type} {limit : Nat}

theorem begins_append {phrase : List Token → α → Prop} (u v : List Token)
    (begun : Begins (fun w a => phrase (u ++ w) a) v) : Begins phrase (u ++ v) := by
  obtain ⟨w, a, spelled, fits⟩ := begun
  exact ⟨w, a, spelled, by rwa [List.append_assoc]⟩

-- The beginning of a first part begins the whole, where every first part can be continued.
theorem begins_first {head : List Token → α → Prop} {whole : List Token → β → Prop} (u : List Token)
    (spelled : WellSpelled u) (begun : Begins head u)
    (continues : ∀ v a, head v a → WellSpelled v → Begins (fun w b => whole (v ++ w) b) []) :
    Begins whole u := by
  obtain ⟨v, a, spelled', fits⟩ := begun
  obtain ⟨w, b, spelled'', fits'⟩ := continues (u ++ v) a fits (by simp [spelled, spelled'])
  exact ⟨v ++ w, b, by simp [spelled', spelled''], by simpa using fits'⟩

theorem blames_weaken {p : Parse σ α} {phrase phrase' : List Token → α → Prop}
    (blames : Blames limit p phrase) (weaker : ∀ u a, phrase u a → phrase' u a) :
    Blames limit p phrase' := by
  have weakened (u : List Token) (begun : Begins phrase u) : Begins phrase' u := by
    obtain ⟨w, a, spelled, fits⟩ := begun
    exact ⟨w, a, spelled, weaker _ a fits⟩
  refine ⟨weakened [] blames.possible, fun s tokens error after offers spelled run => ?_⟩
  rcases blames.blames s tokens error after offers spelled run with
    deep | ⟨u, fault, same, read, reports, begun, more⟩
  · exact .inl deep
  · exact .inr ⟨u, fault, same, read, reports, weakened u begun, fun t asked spelled' =>
      weakened _ (more t asked spelled')⟩

theorem blames_pure {a : α} {phrase : List Token → α → Prop} (fits : phrase [] a) :
    Blames limit (pure a : Parse σ α) phrase := by
  refine ⟨⟨[], a, well_spelled_nil, fits⟩, fun s tokens error after _ _ run => ?_⟩
  cases run

theorem blames_bind {p : Parse σ α} {q : α → Parse σ β} {head : List Token → α → Prop}
    {whole : List Token → β → Prop} (yields : Yields p head) (first : Blames limit p head)
    (second : ∀ u a, head u a → WellSpelled u → Blames limit (q a) fun v b => whole (u ++ v) b) :
    Blames limit (p >>= q) whole := by
  have continues (v : List Token) (a : α) (fits : head v a) (spelled : WellSpelled v) :=
    (second v a fits spelled).possible
  refine ⟨begins_first [] well_spelled_nil first.possible continues, ?_⟩
  intro s tokens error after offers spelled run
  rcases (bind_error_iff _ _ _ _ _).mp run with failed | ⟨a, m, front, failed⟩
  · rcases first.blames s tokens error after offers spelled failed with
      deep | ⟨u, fault, same, read, reports, begun, more⟩
    · exact .inl deep
    · obtain ⟨rest, rfl, _⟩ := offers_after _ _ tokens u offers read
      have taken : WellSpelled u := ((well_spelled_append u rest).mp spelled).1
      refine .inr ⟨u, fault, same, read, reports, begins_first u taken begun continues, ?_⟩
      intro t asked spelled'
      exact begins_first _ (by simp [taken, spelled']) (more t asked spelled') continues
  · obtain ⟨u, fits, read⟩ := yields s a m front
    obtain ⟨rest, rfl, offers'⟩ := offers_after _ _ tokens u offers read
    obtain ⟨taken, left⟩ := (well_spelled_append u rest).mp spelled
    rcases (second u a fits taken).blames m rest error after offers' left failed with
      deep | ⟨v, fault, same, read', reports, begun, more⟩
    · exact .inl deep
    · refine .inr ⟨u ++ v, fault, same, reads_append _ _ _ u v read read', reports, begins_append u v begun, ?_⟩
      intro t asked spelled'
      rw [List.append_assoc]
      exact begins_append u (v ++ [t]) (more t asked spelled')

theorem blames_pure_bind {a : α} {q : α → Parse σ β} {whole : List Token → β → Prop}
    (later : Blames limit (q a) whole) : Blames limit (pure a >>= q) whole :=
  later

theorem blames_at_look {q : Option TokenKind → Parse σ β} {whole : List Token → β → Prop} (s : ParseState σ)
    (here : BlamesAt limit (q (s.lookahead.map Token.kind)) whole s) :
    BlamesAt limit (lookaheadKind >>= q) whole s :=
  here

theorem blames_look {q : Option TokenKind → Parse σ β} {whole : List Token → β → Prop}
    (each : ∀ kind, Blames limit (q kind) whole) : Blames limit (lookaheadKind >>= q) whole :=
  ⟨(each none).possible, fun s => (each (s.lookahead.map Token.kind)).blames s⟩

theorem blames_ahead {kind : TokenKind} {q : Bool → Parse σ β} {whole : List Token → β → Prop}
    (each : ∀ answer, Blames limit (q answer) whole) : Blames limit (isAhead kind >>= q) whole :=
  ⟨(each true).possible, fun s => (each (s.lookahead.map Token.kind == some kind)).blames s⟩

theorem blames_too_deep {phrase : List Token → α → Prop} (possible : Begins phrase []) :
    Blames limit (fail (.nestingTooDeep limit) : Parse σ α) phrase := by
  refine ⟨possible, fun s tokens error after _ _ run => .inl ?_⟩
  injection run with same
  exact same.symm

theorem blames_unexpected_primary {phrase : List Token → α → Prop} (possible : Begins phrase []) :
    Blames limit (Grammar.unexpectedPrimary : Parse σ α) phrase := by
  refine ⟨possible, fun s tokens error after _ _ run => .inr ?_⟩
  injection run with same ended
  subst same ended
  exact ⟨[], _, rfl, .nothing _, rfl, possible, fun _ asked _ => by cases asked⟩

theorem blames_expect (kind : TokenKind) :
    Blames limit (expect kind : Parse σ Token) fun u t => u = [t] ∧ t.kind = kind := by
  have possible : Begins (fun u t => u = [t] ∧ t.kind = kind) [] := by
    obtain ⟨t, fits, spelled⟩ := exists_well_spelled kind
    exact ⟨[t], t, by simp [spelled], rfl, fits⟩
  have asked (fault : GrammarError) (same : fault.expected? = some kind) (t : Token)
      (asks : fault.expected? = some t.kind) : Begins (fun u t => u = [t] ∧ t.kind = kind) ([] ++ [t]) := by
    rw [same] at asks
    injection asks with fits
    exact ⟨[], t, well_spelled_nil, rfl, fits.symm⟩
  refine ⟨possible, fun s tokens error after offers _ run => .inr ?_⟩
  obtain ⟨rfl, ⟨ahead, rfl⟩ | ⟨t, ahead, _, rfl⟩⟩ := expect_error_of_offers kind s after tokens error offers run
  · exact ⟨[], _, rfl, .nothing _, ahead, possible, fun t asks _ => asked _ rfl t asks⟩
  · exact ⟨[], _, rfl, .nothing _, ⟨t, ahead, rfl, rfl⟩, possible, fun t asks _ => asked _ rfl t asks⟩

theorem blames_operator {ω : Type} [Spelled ω] (t : Token)
    (known : ∃ found : ω, Spelled.ofSpelling? t.text = some found) :
    Blames limit (operator t : Parse σ ω) fun u found => u = [] ∧ Spelled.ofSpelling? t.text = some found := by
  obtain ⟨found, spelled⟩ := known
  unfold operator
  rw [spelled]
  exact blames_pure ⟨rfl, rfl⟩

theorem blames_deeper {p : Parse σ α} {phrase : List Token → α → Prop} (inside : Blames limit p phrase) :
    Blames limit (deeper p) phrase := by
  refine ⟨inside.possible, fun s tokens error after offers spelled run => ?_⟩
  unfold deeper at run
  split at run
  · cases run
  · rename_i behind failed
    injection run with same ended
    subst same ended
    exact inside.blames s.enter tokens _ behind offers spelled failed

theorem blames_rounds (goesOn : Option TokenKind → Bool) (step : α → Parse σ α)
    (phrase : List Token → α → Prop)
    (yields : ∀ u a, phrase u a → Yields (step a) fun v b => phrase (u ++ v) b)
    (each : ∀ u a, phrase u a → Blames limit (step a) fun v b => phrase (u ++ v) b) (count : Nat)
    (u : List Token) (a : α) (start : phrase u a) :
    Blames limit (rounds goesOn step count a) fun v b => phrase (u ++ v) b := by
  induction count generalizing u a with
  | zero => exact blames_pure (by simpa using start)
  | succ count ih =>
      refine blames_look fun kind => ?_
      split
      · refine blames_bind (yields u a start) (each u a start) fun v b fits _ => ?_
        simpa only [List.append_assoc] using ih (u ++ v) b fits
      · exact blames_pure (by simpa using start)

theorem blames_repeat_while {goesOn : Option TokenKind → Bool} {step : α → Parse σ α}
    (phrase : List Token → α → Prop)
    (yields : ∀ u a, phrase u a → Yields (step a) fun v b => phrase (u ++ v) b)
    (each : ∀ u a, phrase u a → Blames limit (step a) fun v b => phrase (u ++ v) b)
    (u : List Token) (a : α) (start : phrase u a) :
    Blames limit (repeatWhile goesOn step a) fun v b => phrase (u ++ v) b :=
  ⟨(blames_rounds goesOn step phrase yields each 0 u a start).possible,
    fun s => (blames_rounds goesOn step phrase yields each s.bound u a start).blames s⟩

end ScriptFront
