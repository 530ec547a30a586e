import ScriptFront.Parse
import ScriptFront.Proofs.Reads

set_option autoImplicit false

/-! What a production does where certain tokens are left: it ends with a value and some of them, unless
the nesting limit stops it. -/

namespace ScriptFront

open Parse

variable {σ : Type} [TokenSource σ]

-- Exactly these tokens are left, and no lexical error comes among or after them.
def Offers (place : Option Token × σ) (tokens : List Token) : Prop :=
  ∃ source, Reads place tokens (none, source)

theorem offers_head (place : Option Token × σ) (tokens : List Token) (offers : Offers place tokens) :
    place.1 = tokens.head? := by
  obtain ⟨source, read⟩ := offers
  cases read <;> rfl

theorem offers_next (t : Token) (source : σ) (tokens : List Token)
    (offers : Offers (some t, source) tokens) :
    ∃ next after rest, tokens = t :: rest ∧ TokenSource.next source = .ok next after ∧
      Offers (next, after) rest := by
  obtain ⟨last, read⟩ := offers
  cases read with
  | token _ _ after next rest _ found read => exact ⟨next, after, rest, rfl, found, last, read⟩

-- What is taken is the beginning of what is offered.
theorem offers_after (place place' : Option Token × σ) (tokens taken : List Token)
    (offers : Offers place tokens) (read : Reads place taken place') :
    ∃ rest, tokens = taken ++ rest ∧ Offers place' rest := by
  induction read generalizing tokens with
  | nothing place => exact ⟨tokens, rfl, offers⟩
  | token t source after next taken place found _ ih =>
      obtain ⟨next', after', rest, same, found', later⟩ := offers_next t source tokens offers
      injection found.symm.trans found' with sameNext sameAfter
      subst sameNext sameAfter
      obtain ⟨left, split, offers'⟩ := ih rest later
      exact ⟨left, by rw [same, split, List.cons_append], offers'⟩

theorem offers_end (source : σ) (tokens : List Token) (offers : Offers (none, source) tokens) :
    tokens = [] := by
  have first := offers_head _ tokens offers
  exact List.head?_eq_none_iff.mp first.symm

-- The lookahead is wrong, or a lexical error comes behind it.
theorem expect_error (kind : TokenKind) (s s' : ParseState σ) (fault : Error)
    (run : expect kind s = .error fault s') :
    (s' = s ∧ s.lookahead = none ∧ fault = .grammar (.unexpectedEnd kind)) ∨
      (s' = s ∧ ∃ t, s.lookahead = some t ∧ t.kind ≠ kind ∧
        fault = .grammar (.unexpectedToken t.text kind t.span.start)) ∨
      ∃ t found after, s.lookahead = some t ∧ t.kind = kind ∧ TokenSource.next s.source = .error found after ∧
        fault = .lexical found := by
  rw [expect_eq] at run
  split at run
  · rename_i ahead
    injection run with same ended
    exact .inl ⟨ended.symm, ahead, same.symm⟩
  · rename_i t ahead
    split at run
    · rename_i fits
      rcases (bind_error_iff _ _ _ _ _).mp run with failed | ⟨_, _, _, failed⟩
      · cases found : TokenSource.next s.source with
        | ok next after => simp [refill, found] at failed
        | error lexical after =>
            simp only [refill, found, EStateM.Result.error.injEq] at failed
            exact .inr (.inr ⟨t, lexical, after, ahead, fits, rfl, failed.1.symm⟩)
      · cases failed
    · rename_i unfit
      injection run with same ended
      exact .inr (.inl ⟨ended.symm, t, ahead, unfit, same.symm⟩)

-- Where tokens are offered, only the lookahead can be wrong.
theorem expect_error_of_offers (kind : TokenKind) (s s' : ParseState σ) (tokens : List Token) (fault : Error)
    (offers : Offers s.ahead tokens) (run : expect kind s = .error fault s') :
    s' = s ∧ ((s.lookahead = none ∧ fault = .grammar (.unexpectedEnd kind)) ∨
      ∃ t, s.lookahead = some t ∧ t.kind ≠ kind ∧
        fault = .grammar (.unexpectedToken t.text kind t.span.start)) := by
  rcases expect_error kind s s' fault run with ⟨rfl, none⟩ | ⟨rfl, some⟩ | ⟨t, _, _, ahead, _, failed, _⟩
  · exact ⟨rfl, .inl none⟩
  · exact ⟨rfl, .inr some⟩
  · rw [ParseState.ahead, ahead] at offers
    obtain ⟨_, _, _, _, found, _⟩ := offers_next t s.source tokens offers
    cases found.symm.trans failed

-- The tokens of a source are offered as soon as the first of them is the lookahead.
theorem offers_of_tokens_from (rounds : Nat) (t : Tokenizer) (tokens : List Token)
    (enough : t.bytesLeft < rounds) (found : tokensFrom rounds t = .ok tokens) :
    ∃ next after, t.read = .ok next after ∧ Offers (next, after) tokens := by
  induction rounds generalizing t tokens with
  | zero => omega
  | succ rounds ih =>
      rw [tokensFrom] at found
      cases read : t.read with
      | error fault after => simp [read] at found
      | ok next after =>
          refine ⟨next, after, rfl, ?_⟩
          cases next with
          | none =>
              simp only [read, Except.ok.injEq] at found
              exact found ▸ ⟨after, .nothing _⟩
          | some token =>
              simp only [read] at found
              cases later : tokensFrom rounds after with
              | error fault => simp [later, Except.map] at found
              | ok rest =>
                  simp only [later, Except.map, Except.ok.injEq] at found
                  have shorter := Tokenizer.bytes_left_read t after token read
                  obtain ⟨next', after', found', last, reads⟩ := ih after rest (by omega) later
                  exact found ▸ ⟨last, .token token after after' next' rest _ found' reads⟩

theorem filled_of_read (source : String) (next : Option Token) (behind : Tokenizer)
    (read : (Tokenizer.ofSource source).read = .ok next behind) :
    refill (.start (Tokenizer.ofSource source)) = .ok () ⟨next, behind, 0, 0⟩ :=
  (refill_ok_iff _ _).mpr ⟨next, behind, read, rfl⟩

theorem offers_of_tokenize (source : String) (tokens : List Token)
    (found : tokenize source = .ok tokens) :
    ∃ s, refill (.start (Tokenizer.ofSource source)) = .ok () s ∧ Offers s.ahead tokens := by
  obtain ⟨next, after, read, offers⟩ := offers_of_tokens_from _ _ tokens (Nat.lt_succ_self _) found
  exact ⟨_, filled_of_read source next after read, offers⟩

-- Tokens that are cut already are all offered.
theorem offers_list (tokens : List Token) :
    ∃ begun, refill (.start tokens) = .ok () begun ∧ Offers begun.ahead tokens := by
  have offered (next : Option Token) (source : List Token) (t : Token) :
      Offers (some t, source) (t :: source) := by
    induction source generalizing t with
    | nil => exact ⟨[], .token t [] [] none [] _ rfl (.nothing _)⟩
    | cons t' source ih =>
        obtain ⟨last, read⟩ := ih t'
        exact ⟨last, .token t _ source (some t') _ _ rfl read⟩
  cases tokens with
  | nil => exact ⟨_, rfl, [], .nothing _⟩
  | cons t source => exact ⟨_, rfl, offered none source t⟩

-- A parse goes on from the first token.
theorem Grammar.program_eq (act : Actions) (limit : Nat) (source : σ) (begun : ParseState σ)
    (filled : refill (.start source) = .ok () begun) :
    Grammar.program act limit (.start source) =
      (Grammar.statements act (Grammar.nested act limit limit) none >>= fun body =>
        pure (act.program body)) begun := by
  change EStateM.bind refill _ _ = _
  unfold EStateM.bind
  rw [filled]

def kindAhead (tokens : List Token) : Option TokenKind :=
  tokens.head?.map Token.kind

@[simp] theorem kind_ahead_cons (t : Token) (rest : List Token) : kindAhead (t :: rest) = some t.kind :=
  rfl

namespace Parse

variable {α β : Type}

-- Where the tokens `tokens` are left, a run ends with a value and tokens that satisfy `ends`, or is
-- stopped by the nesting limit, which happens only if `deep` holds.
def TakesUnless (deep : Prop) (limit : Nat) (p : Parse σ α) (tokens : List Token)
    (ends : α → List Token → Prop) : Prop :=
  ∀ s, Offers s.ahead tokens →
    match p s with
    | .ok a after => ∃ rest, Offers after.ahead rest ∧ ends a rest
    | .error fault _ => deep ∧ fault = .grammar (.nestingTooDeep limit)

-- Nothing is known about the nesting.
abbrev Takes (limit : Nat) (p : Parse σ α) (tokens : List Token) (ends : α → List Token → Prop) : Prop :=
  TakesUnless True limit p tokens ends

variable {deep : Prop} {limit : Nat} {tokens : List Token} {ends : α → List Token → Prop}

theorem takes_pure {a : α} (fits : ends a tokens) : TakesUnless deep limit (pure a : Parse σ α) tokens ends :=
  fun _ offers => ⟨tokens, offers, fits⟩

theorem takes_bind {p : Parse σ α} {q : α → Parse σ β} {ends' : β → List Token → Prop}
    (first : TakesUnless deep limit p tokens ends)
    (later : ∀ a rest, ends a rest → TakesUnless deep limit (q a) rest ends') :
    TakesUnless deep limit (p >>= q) tokens ends' := by
  intro s offers
  have begun := first s offers
  change match EStateM.bind p q s with | .ok _ _ => _ | .error _ _ => _
  unfold EStateM.bind
  cases run : p s with
  | ok a after =>
      rw [run] at begun
      obtain ⟨rest, offers', fits⟩ := begun
      exact later a rest fits after offers'
  | error fault after =>
      rw [run] at begun
      exact begun

-- A run takes exactly what comes before `rest`, and gives a value of a certain sort.
def leaving (rest : List Token) (value : α → Prop) : α → List Token → Prop :=
  fun a left => left = rest ∧ value a

theorem takes_then {p : Parse σ α} {q : α → Parse σ β} {rest : List Token} {value : α → Prop}
    {ends' : β → List Token → Prop} (first : TakesUnless deep limit p tokens (leaving rest value))
    (later : ∀ a, value a → TakesUnless deep limit (q a) rest ends') :
    TakesUnless deep limit (p >>= q) tokens ends' := by
  apply takes_bind first
  intro a left fits
  rw [fits.1]
  exact later a fits.2

theorem takes_pure_bind {a : α} {q : α → Parse σ β} {ends' : β → List Token → Prop}
    (later : TakesUnless deep limit (q a) tokens ends') :
    TakesUnless deep limit (pure a >>= q) tokens ends' :=
  later

theorem takes_assoc {γ : Type} {p : Parse σ α} {q : α → Parse σ β} {r : β → Parse σ γ}
    {ends' : γ → List Token → Prop} (taken : TakesUnless deep limit (p >>= fun a => q a >>= r) tokens ends') :
    TakesUnless deep limit ((p >>= q) >>= r) tokens ends' := by
  rw [bind_assoc]
  exact taken

theorem takes_weaken {p : Parse σ α} {ends' : α → List Token → Prop}
    (taken : TakesUnless deep limit p tokens ends) (weaker : ∀ a rest, ends a rest → ends' a rest) :
    TakesUnless deep limit p tokens ends' := by
  intro s offers
  have ended := taken s offers
  cases run : p s with
  | ok a after =>
      rw [run] at ended
      obtain ⟨rest, offers', fits⟩ := ended
      exact ⟨rest, offers', weaker a rest fits⟩
  | error fault after =>
      rw [run] at ended
      exact ended

theorem takes_if_deep {deep' : Prop} {p : Parse σ α} (taken : TakesUnless deep limit p tokens ends)
    (allowed : deep → deep') : TakesUnless deep' limit p tokens ends := by
  intro s offers
  have ended := taken s offers
  cases run : p s with
  | ok a after =>
      rw [run] at ended
      exact ended
  | error fault after =>
      rw [run] at ended
      exact ⟨allowed ended.1, ended.2⟩

theorem takes_until_too_deep (stopped : deep) :
    TakesUnless deep limit (fail (.nestingTooDeep limit) : Parse σ α) tokens ends :=
  fun _ _ => ⟨stopped, rfl⟩

theorem takes_too_deep : Takes limit (fail (.nestingTooDeep limit) : Parse σ α) tokens ends :=
  takes_until_too_deep trivial

theorem takes_look {q : Option TokenKind → Parse σ β} {ends' : β → List Token → Prop}
    (later : TakesUnless deep limit (q (kindAhead tokens)) tokens ends') :
    TakesUnless deep limit (lookaheadKind >>= q) tokens ends' := by
  intro s offers
  have same : s.lookahead.map Token.kind = kindAhead tokens :=
    congrArg (Option.map Token.kind) (offers_head _ tokens offers)
  change match q (s.lookahead.map Token.kind) s with | .ok _ _ => _ | .error _ _ => _
  rw [same]
  exact later s offers

theorem takes_ahead {kind : TokenKind} {q : Bool → Parse σ β} {ends' : β → List Token → Prop}
    (later : TakesUnless deep limit (q (kindAhead tokens == some kind)) tokens ends') :
    TakesUnless deep limit (isAhead kind >>= q) tokens ends' :=
  takes_look (q := fun found => q (found == some kind)) later

-- A token of the expected kind is taken.
theorem takes_expect {kind : TokenKind} {t : Token} {rest : List Token} {q : Token → Parse σ β}
    {ends' : β → List Token → Prop} (fits : t.kind = kind) (later : TakesUnless deep limit (q t) rest ends') :
    TakesUnless deep limit (expect kind >>= q) (t :: rest) ends' := by
  intro s offers
  have ahead : s.lookahead = some t := offers_head _ _ offers
  have place : s.ahead = (some t, s.source) := by rw [ParseState.ahead, ahead]
  obtain ⟨next, after, rest', same, found, offers'⟩ := offers_next t s.source _ (place ▸ offers)
  injection same with _ same
  subst same
  have run : expect kind s = .ok t ⟨next, after, s.depth, s.deepest⟩ :=
    (expect_ok_iff kind s _ t).mpr ⟨ahead, fits, (refill_ok_iff s _).mpr ⟨next, after, found, rfl⟩⟩
  change match EStateM.bind (expect kind) q s with | .ok _ _ => _ | .error _ _ => _
  unfold EStateM.bind
  rw [run]
  exact later _ offers'

theorem takes_operator {ω : Type} [Spelled ω] {t : Token} {found : ω} {q : ω → Parse σ β}
    {ends' : β → List Token → Prop} (spelled : Spelled.ofSpelling? t.text = some found)
    (later : TakesUnless deep limit (q found) tokens ends') :
    TakesUnless deep limit (operator t >>= q) tokens ends' := by
  unfold operator
  rw [spelled]
  exact later

theorem takes_deeper {p : Parse σ α} (inside : TakesUnless deep limit p tokens ends) :
    TakesUnless deep limit (deeper p) tokens ends := by
  intro s offers
  have ended := inside s.enter offers
  unfold deeper
  cases run : p s.enter with
  | ok a after =>
      rw [run] at ended
      exact ended
  | error fault after =>
      rw [run] at ended
      exact ended

-- A loop ends where it does not go on, and otherwise takes one step more.
theorem takes_loop_end {goesOn : Option TokenKind → Bool} {step : α → Parse σ α} {a : α}
    (stops : goesOn (kindAhead tokens) = false) (fits : ends a tokens) :
    TakesUnless deep limit (repeatWhile goesOn step a) tokens ends := by
  intro s offers
  have same : s.lookahead.map Token.kind = kindAhead tokens :=
    congrArg (Option.map Token.kind) (offers_head _ tokens offers)
  have run : repeatWhile goesOn step a s = .ok a s := by
    unfold repeatWhile
    cases s.bound with
    | zero => rfl
    | succ count => simp [rounds_succ, same, stops]
  rw [run]
  exact ⟨tokens, offers, fits⟩

theorem takes_loop_step {goesOn : Option TokenKind → Bool} {step : α → Parse σ α} {a : α}
    (atEnd : goesOn none = false) (lowers : ∀ a, Lowers (step a)) (goes : goesOn (kindAhead tokens) = true)
    (later : TakesUnless deep limit (step a >>= repeatWhile goesOn step) tokens ends) :
    TakesUnless deep limit (repeatWhile goesOn step a) tokens ends := by
  intro s offers
  have same : s.lookahead.map Token.kind = kindAhead tokens :=
    congrArg (Option.map Token.kind) (offers_head _ tokens offers)
  rw [repeat_while_eq goesOn step atEnd lowers, same, if_pos goes]
  exact later s offers

-- A run takes what comes before `rest`, with a value of a certain sort, exactly if `fits` holds. The nesting
-- limit stops it otherwise.
def Meets (limit : Nat) (fits : Prop) (p : Parse σ α) (tokens rest : List Token) (value : α → Prop) : Prop :=
  TakesUnless (¬fits) limit p tokens (leaving rest fun a => fits ∧ value a)

variable {fits fits' : Prop} {rest : List Token} {value : α → Prop}

theorem meets_pure {a : α} (enough : fits) (right : value a) :
    Meets limit fits (pure a : Parse σ α) rest rest value :=
  takes_pure ⟨rfl, enough, right⟩

theorem meets_weaken {p : Parse σ α} {value' : α → Prop} (met : Meets limit fits p tokens rest value)
    (same : fits ↔ fits') (weaker : ∀ a, value a → value' a) :
    Meets limit fits' p tokens rest value' := by
  apply takes_if_deep _ (not_congr same).mp
  apply takes_weaken met
  intro a left found
  exact ⟨found.1, same.mp found.2.1, weaker a found.2.2⟩

theorem meets_then {p : Parse σ α} {q : α → Parse σ β} {left : List Token} {value' : β → Prop}
    (met : Meets limit fits' p tokens rest value) (needed : fits → fits')
    (later : ∀ a, fits' → value a → Meets limit fits (q a) rest left value') :
    Meets limit fits (p >>= q) tokens left value' := by
  apply takes_then (takes_if_deep met fun short enough => short (needed enough))
  intro a found
  exact later a found.1 found.2

end Parse

-- What the statements of a program take is what a whole parse takes.
theorem parse_from_taken {act : Actions} {deep : Prop} (limit : Nat) (source : σ) (begun : ParseState σ)
    (tokens : List Token) (filled : refill (.start source) = .ok () begun) (offers : Offers begun.ahead tokens)
    (body : List act.Statement → Prop)
    (taken : TakesUnless deep limit (Grammar.statements act (Grammar.nested (σ := σ) act limit limit) none) tokens
      (leaving [] body)) :
    (∃ list, parseFrom act limit source = .ok (act.program list) ∧ body list) ∨
      deep ∧ parseFrom act limit source = .error (.grammar (.nestingTooDeep limit)) := by
  have whole : TakesUnless deep limit
      (Grammar.statements act (Grammar.nested (σ := σ) act limit limit) none >>= fun list =>
        pure (act.program list)) tokens (leaving [] fun p => ∃ list, p = act.program list ∧ body list) := by
    apply takes_then taken
    intro list fits
    exact takes_pure ⟨rfl, list, rfl, fits⟩
  have ended := whole begun offers
  rw [← Grammar.program_eq act limit source begun filled] at ended
  unfold parseFrom
  cases run : Grammar.program act limit (.start source) with
  | ok p after =>
      rw [run] at ended
      obtain ⟨_, _, _, list, rfl, fits⟩ := ended
      exact .inl ⟨list, rfl, fits⟩
  | error fault after =>
      rw [run] at ended
      exact .inr ⟨ended.1, congrArg Except.error ended.2⟩

end ScriptFront
