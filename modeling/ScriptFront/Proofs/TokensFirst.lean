import ScriptFront.Proofs.FirstOffense
import ScriptFront.Proofs.Separators

set_option autoImplicit false

/-! A parse cuts each token when it needs the next one, and goes the same way as one for which all tokens
are cut before. Where they cannot all be cut, it fails, and what it says of the grammar depends on the
tokens up to the lookahead alone. -/

namespace ScriptFront

open Parse

namespace Tokenizer

theorem tokens_of_error (t after : Tokenizer) (fault : LexicalError) (found : t.read = .error fault after) :
    t.tokens = .error fault := by
  rw [tokens, tokensFrom, found]

theorem rest_of_scan (rounds : Nat) (t after : Tokenizer) (enough : t.bytesLeft < rounds)
    (found : scan rounds t = .ok none after) : after.rest = [] := by
  induction rounds generalizing t with
  | zero => omega
  | succ rounds ih =>
      rw [scan] at found
      split at found
      · rename_i nothing
        injection found with _ same
        exact same ▸ nothing
      · rename_i c rest unread
        split at found
        · cases found
        · rename_i size matched
          have shorter := bytes_left_advance t c rest size unread (first_match_pos _ _ _ matched)
          exact ih (t.advance size) (by omega) found
        · cases found

-- Behind the end there is nothing more.
theorem tokens_after_end (t after : Tokenizer) (found : t.read = .ok none after) : after.tokens = .ok [] :=
  after.tokens_of_end after (after.read_at_end (rest_of_scan _ t after (Nat.lt_succ_self _) found))

-- The tokens up to the first lexical error, or all of them.
def leadingFrom : Nat → Tokenizer → List Token
  | 0, _ => []
  | rounds + 1, t =>
      match t.read with
      | .ok (some token) after => token :: leadingFrom rounds after
      | .ok none _ => []
      | .error _ _ => []

theorem leading_of_tokens (rounds : Nat) (t : Tokenizer) (tokens : List Token)
    (found : tokensFrom rounds t = .ok tokens) : leadingFrom rounds t = tokens := by
  induction rounds generalizing t tokens with
  | zero =>
      injection found
  | succ rounds ih =>
      rw [tokensFrom] at found
      rw [leadingFrom]
      cases read : t.read with
      | error fault after => simp [read] at found
      | ok next after =>
          cases next with
          | none =>
              simp only [read] at found
              injection found
          | some token =>
              simp only [read] at found
              cases later : tokensFrom rounds after with
              | error fault => simp [later, Except.map] at found
              | ok rest =>
                  simp only [later, Except.map, Except.ok.injEq] at found
                  exact found ▸ congrArg (token :: ·) (ih after rest later)

-- What is read leads to the end only where all tokens can be cut.
theorem tokens_of_reads (t source last : Tokenizer) (next : Option Token) (u : List Token)
    (found : t.read = .ok next source) (reads : Reads (next, source) u (none, last)) : t.tokens = .ok u := by
  generalize start : (next, source) = begun at reads
  generalize stop : (none, last) = ended at reads
  induction reads generalizing t next source with
  | nothing place =>
      obtain ⟨rfl, rfl⟩ := Prod.mk.inj (start.trans stop.symm)
      exact tokens_of_end t source found
  | token token behind after next' rest place continues _ ih =>
      obtain ⟨rfl, rfl⟩ := Prod.mk.inj start
      rw [tokens_of_token t source token found, ih source after next' continues rfl stop]
      rfl

theorem tokens_of_breaks (t source : Tokenizer) (next : Option Token) (u : List Token) (fault : LexicalError)
    (found : t.read = .ok next source) (breaks : Breaks (next, source) u fault) : t.tokens = .error fault := by
  generalize start : (next, source) = begun at breaks
  induction breaks generalizing t next source with
  | last token behind after fault failed =>
      obtain ⟨rfl, rfl⟩ := Prod.mk.inj start
      rw [tokens_of_token t source token found, tokens_of_error source after fault failed]
      rfl
  | token token behind after next' rest fault continues _ ih =>
      obtain ⟨rfl, rfl⟩ := Prod.mk.inj start
      rw [tokens_of_token t source token found, ih source after next' continues rfl]
      rfl

-- The first tokens can be read, whatever comes behind the last of them.
theorem reads_of_leading (rounds : Nat) (t : Tokenizer) (u : List Token) (token : Token)
    (leading : u ++ [token] <+: leadingFrom rounds t) :
    ∃ next after stop, t.read = .ok next after ∧ Reads (next, after) u stop ∧ stop.1 = some token := by
  induction u generalizing rounds t with
  | nil =>
      cases rounds with
      | zero => simp [leadingFrom] at leading
      | succ rounds =>
          rw [leadingFrom] at leading
          cases read : t.read with
          | error fault after => simp [read] at leading
          | ok next after =>
              cases next with
              | none => simp [read] at leading
              | some first =>
                  simp only [read, List.nil_append, List.cons_prefix_cons] at leading
                  exact ⟨some first, after, _, rfl, .nothing _, congrArg some leading.1.symm⟩
  | cons t' u ih =>
      cases rounds with
      | zero => simp [leadingFrom] at leading
      | succ rounds =>
          rw [leadingFrom] at leading
          cases read : t.read with
          | error fault after => simp [read] at leading
          | ok next after =>
              cases next with
              | none => simp [read] at leading
              | some first =>
                  simp only [read, List.cons_append, List.cons_prefix_cons] at leading
                  obtain ⟨next, behind, stop, read', reads, last⟩ := ih rounds after leading.2
                  exact ⟨some first, after, stop, rfl, leading.1 ▸ .token t' after behind next u stop read' reads,
                    last⟩

end Tokenizer

def leadingTokens (source : String) : List Token :=
  let t := Tokenizer.ofSource source
  Tokenizer.leadingFrom (t.bytesLeft + 1) t

theorem leading_tokens_eq (source : String) (tokens : List Token) (found : tokenize source = .ok tokens) :
    leadingTokens source = tokens :=
  Tokenizer.leading_of_tokens _ _ tokens found

-- A parse that cuts the tokens, beside one that has the rest of them already.
def HasRest (s : ParseState Tokenizer) (t : ParseState (List Token)) : Prop :=
  s.lookahead = t.lookahead ∧ s.source.tokens = .ok t.source

theorem refill_has_rest (s : ParseState Tokenizer) (t : ParseState (List Token)) (related : HasRest s t) :
    Alike HasRest (fun _ _ => True) (refill s) (refill t) := by
  obtain ⟨_, whole⟩ := related
  unfold refill
  cases found : s.source.read with
  | error fault after =>
      rw [Tokenizer.tokens_of_error s.source after fault found] at whole
      contradiction
  | ok next after =>
      rw [show TokenSource.next s.source = .ok next after from found]
      cases next with
      | none =>
          rw [Tokenizer.tokens_of_end s.source after found] at whole
          injection whole with nothing
          rw [← nothing]
          exact ⟨trivial, rfl, Tokenizer.tokens_after_end s.source after found⟩
      | some token =>
          rw [Tokenizer.tokens_of_token s.source after token found] at whole
          cases later : after.tokens with
          | error fault => simp [later, Except.map] at whole
          | ok rest =>
              simp only [later, Except.map, Except.ok.injEq] at whole
              rw [← whole]
              exact ⟨trivial, rfl, later⟩

def tokensCut : StartingCoupling Tokenizer (List Token) where
  related := HasRest
  taken _ := True
  ahead _ _ related := related.1
  enter _ _ related := related
  leave _ _ related := related
  refill s t _ related _ := refill_has_rest s t related
  fill s t related _ := refill_has_rest s t related

theorem parse_of_tokens (act : Actions) (source : String) (tokens : List Token)
    (found : tokenize source = .ok tokens) : parse act source = parseFrom act maxNesting tokens := by
  have alike := parse_from_agree (c := tokensCut) (act.identical _) maxNesting (Tokenizer.ofSource source) tokens
    ⟨rfl, found⟩
  unfold parse
  generalize parseFrom act maxNesting (Tokenizer.ofSource source) = left at alike
  generalize parseFrom act maxNesting tokens = right at alike
  cases left with
  | ok p =>
      cases right with
      | ok p' => exact congrArg Except.ok alike
      | error fault => exact alike.elim
  | error fault =>
      cases right with
      | ok p => exact alike.elim
      | error fault' => exact congrArg Except.error alike

-- These are the tokens up to the one, taken or not, at which the parse of a source fails.
def SeenAtFailure (act : Actions) (source : String) (error : Error) (seen : List Token) : Prop :=
  ∃ begun after taken token, refill (.start (Tokenizer.ofSource source)) = .ok () begun ∧
    Grammar.program act maxNesting (.start (Tokenizer.ofSource source)) = .error error after ∧
    Reads begun.ahead taken after.ahead ∧ after.lookahead = some token ∧ seen = taken ++ [token]

-- Where a parse fails at a token, it fails in the same way in every text with the same tokens up to there.
theorem fails_where_seen (act : Actions) (source source' : String) (fault : GrammarError) (seen : List Token)
    (failed : SeenAtFailure act source (.grammar fault) seen) (leads : seen <+: leadingTokens source') :
    parse act source' = .error (.grammar fault) := by
  obtain ⟨begun, after, taken, token, filled, run, read, ahead, rfl⟩ := failed
  rw [Grammar.program_eq act maxNesting _ begun filled] at run
  have replays := body_replays (σ := Tokenizer) (τ := Tokenizer) act maxNesting
  have itself := Error.moved_ahead _ _ (replays.fits begun (.grammar fault) after run) rfl
  obtain ⟨next, behind, stop, found, read', last⟩ := Tokenizer.reads_of_leading _ _ taken token leads
  have filled' := filled_of_read source' next behind found
  obtain ⟨u, read'', ends⟩ := replays.error begun (.grammar fault) after run rfl
  rw [reads_unique _ _ u taken read'' read] at ends
  obtain ⟨_, run', _⟩ := ends ⟨next, behind, 0, 0⟩ stop ⟨taken, read', rfl, by rw [last, ahead]⟩
  unfold parse parseFrom
  rw [Grammar.program_eq act maxNesting _ _ filled', run', offsetAhead, last, ← ahead, itself]

theorem parse_at_error (act : Actions) (source : String) (after : Tokenizer) (fault : LexicalError)
    (read : (Tokenizer.ofSource source).read = .error fault after) : parse act source = .error (.lexical fault) := by
  have failed : refill (.start (Tokenizer.ofSource source)) = .error (.lexical fault) ⟨none, after, 0, 0⟩ := by
    unfold refill
    rw [show TokenSource.next (ParseState.start (Tokenizer.ofSource source)).source = _ from read]
    rfl
  unfold parse parseFrom
  rw [show Grammar.program act maxNesting (.start (Tokenizer.ofSource source)) = _ from
    (bind_error_iff _ _ _ _ _).mpr (.inl failed)]

theorem statements_of_parse (act : Actions) (source : String) (program : act.Program)
    (accepted : parse act source = .ok program) :
    ∃ next behind body s', (Tokenizer.ofSource source).read = .ok next behind ∧ program = act.program body ∧
      Grammar.statements act (Grammar.nested act maxNesting maxNesting) none ⟨next, behind, 0, 0⟩ = .ok body s' := by
  cases read : (Tokenizer.ofSource source).read with
  | error fault after => exact absurd ((parse_at_error act source after fault read).symm.trans accepted) nofun
  | ok next behind =>
      have filled := filled_of_read source next behind read
      unfold parse parseFrom at accepted
      cases run : Grammar.program act maxNesting (.start (Tokenizer.ofSource source)) with
      | error fault s => rw [run] at accepted; cases accepted
      | ok program' s =>
          rw [run] at accepted
          injection accepted with same
          subst same
          rw [Grammar.program_eq act maxNesting _ _ filled] at run
          obtain ⟨body, s', list, ended⟩ := (bind_ok_iff _ _ _ _ _).mp run
          injection ended with built _
          exact ⟨next, behind, body, s', rfl, built.symm, list⟩

-- A parse of a source with a lexical error meets that error, unless it fails before at a token.
theorem parse_of_broken (act : Actions) (source : String) (broken : LexicalError)
    (found : tokenize source = .error broken) :
    parse act source = .error (.lexical broken) ∨
      ∃ fault seen, parse act source = .error (.grammar fault) ∧ SeenAtFailure act source (.grammar fault) seen := by
  cases read : (Tokenizer.ofSource source).read with
  | error fault after =>
      have same := found.symm.trans (Tokenizer.tokens_of_error _ after fault read)
      injection same with same
      subst same
      exact .inl (parse_at_error act source after broken read)
  | ok next behind =>
      have filled := filled_of_read source next behind read
      -- The end cannot be reached.
      have token (u : List Token) (after : ParseState Tokenizer)
          (reads : Reads (next, behind) u after.ahead) : ∃ t, after.lookahead = some t := by
        cases ahead : after.lookahead with
        | some t => exact ⟨t, rfl⟩
        | none =>
            rw [ParseState.ahead, ahead] at reads
            have whole := Tokenizer.tokens_of_reads _ behind after.source next u read reads
            cases found.symm.trans whole
      have replays := body_replays (σ := Tokenizer) (τ := Tokenizer) act maxNesting
      have whole := Grammar.program_eq act maxNesting _ _ filled
      unfold parse parseFrom
      cases run : Grammar.program act maxNesting (.start (Tokenizer.ofSource source)) with
      | ok p after =>
          rw [whole] at run
          obtain ⟨body, last, list, ended⟩ := (bind_ok_iff _ _ _ _ _).mp run
          injection ended with _ same
          subst same
          have sound : (Grammar.nested (σ := Tokenizer) act maxNesting maxNesting).Sound :=
            Grammar.nested_sound maxNesting maxNesting
          obtain ⟨u, _, reads⟩ := Grammar.yields_statements sound none _ body last list
          obtain ⟨t, ahead⟩ := token u last reads
          have atEnd := Grammar.statements_end _ sound _ last body list
          cases ahead.symm.trans atEnd
      | error fault after =>
          rw [whole] at run
          cases fault with
          | lexical fault =>
              obtain ⟨u, breaks, _⟩ := replays.broken _ fault after run
              have same := found.symm.trans (Tokenizer.tokens_of_breaks _ behind next u fault read breaks)
              injection same with same
              exact .inl (same ▸ rfl)
          | config fault => exact (replays.fits _ _ after run).elim
          | grammar fault =>
              obtain ⟨u, reads, _⟩ := replays.error _ (.grammar fault) after run rfl
              obtain ⟨t, ahead⟩ := token u after reads
              exact .inr ⟨fault, _, rfl, _, after, u, t, filled, whole.trans run, reads, ahead, rfl⟩

-- All tokens can be cut first, and then parsed. Where they cannot, the parse fails: with the lexical
-- error, or at a token, and then in the same way in every text that leads with the tokens up to it.
theorem parsed_as_tokenized (act : Actions) (source : String) :
    (∀ tokens, tokenize source = .ok tokens → parse act source = parseFrom act maxNesting tokens) ∧
      ∀ broken, tokenize source = .error broken →
        (∀ program, parse act source ≠ .ok program) ∧
          (parse act source = .error (.lexical broken) ∨
            ∃ fault seen, parse act source = .error (.grammar fault) ∧
              SeenAtFailure act source (.grammar fault) seen ∧
              ∀ source', seen <+: leadingTokens source' → parse act source' = .error (.grammar fault)) := by
  refine ⟨parse_of_tokens act source, fun broken found => ?_⟩
  rcases parse_of_broken act source broken found with lexical | ⟨fault, seen, failed, place⟩
  · refine ⟨fun program parsed => ?_, .inl lexical⟩
    exact absurd (lexical.symm.trans parsed) nofun
  · refine ⟨fun program parsed => absurd (failed.symm.trans parsed) nofun, .inr ⟨fault, seen, failed, place, ?_⟩⟩
    exact fun source' leads => fails_where_seen act source source' fault seen place leads

-- The parse fails at the second name, before the quote is met.
theorem parsed_as_tokenized_at_quote :
    ∃ broken fault seen, tokenize "a b \"" = .error broken ∧
      parse SExpr.actions "a b \"" = .error (.grammar fault) ∧
      SeenAtFailure SExpr.actions "a b \"" (.grammar fault) seen ∧
      ∀ source', seen <+: leadingTokens source' → parse SExpr.actions source' = .error (.grammar fault) := by
  have found : tokenize "a b \"" = .error ⟨'"', 4⟩ := by decide +kernel
  have failed : parse SExpr.actions "a b \"" = .error (.grammar (.unexpectedToken "b" (.mark .semicolon) 2)) :=
    eq_error_of_fails_with _ _ (by decide +kernel)
  rcases (parsed_as_tokenized SExpr.actions _).2 _ found with ⟨_, lexical | ⟨fault, seen, same, place, others⟩⟩
  · exact absurd (lexical.symm.trans failed) nofun
  · exact ⟨_, fault, seen, found, same, place, others⟩

end ScriptFront
