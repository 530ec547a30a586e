import ScriptFront.Proofs.ClosedStatements
import ScriptFront.Proofs.NestingGuard
import ScriptFront.Proofs.Seam

set_option autoImplicit false

/-! A program with a line break and another text behind it. The statements of the program come out as they
did alone, and then the parser is where it would begin with the other text, but for the offsets. -/

namespace ScriptFront

open Parse

variable {σ τ : Type} [TokenSource σ] [TokenSource τ] {act : Actions}

namespace Grammar

section Loops

variable (inner : Nested σ act) (stop : Option TokenKind)

-- The loop of the statements, behind those that are done.
def statementsBehind (done : List act.Statement) : Parse σ (List act.Statement) :=
  repeatWhile (fun kind => kind.isSome && kind != stop) (fun done => do return (← inner.statement) :: done) done

theorem statements_eq : statements act inner stop = statementsBehind inner stop [] >>= fun done =>
    pure done.reverse :=
  rfl

variable (sound : inner.Sound) (done : List act.Statement) (s : ParseState σ)

include sound

theorem statements_behind_stop (stops : s.lookahead.map Token.kind = none ∨ s.lookahead.map Token.kind = stop) :
    statementsBehind inner stop done s = .ok done s := by
  unfold statementsBehind
  rw [repeat_while_eq _ _ rfl (lowers_statement_step sound), if_neg]
  rcases stops with ended | stops
  · simp [ended]
  · simp [stops]

theorem statements_behind_step (kind : TokenKind) (ahead : s.lookahead.map Token.kind = some kind)
    (goes : some kind ≠ stop) :
    statementsBehind inner stop done s =
      (inner.statement >>= fun first => statementsBehind inner stop (first :: done)) s := by
  unfold statementsBehind
  rw [repeat_while_eq _ _ rfl (lowers_statement_step sound), if_pos (by simpa [ahead] using goes), bind_assoc]
  rfl

end Loops

omit [TokenSource τ] in
theorem kind_of_like (t : ParseState τ) (u v : List Token) (head : t.lookahead = v.head?) (kind : TokenKind)
    (same : v.map Token.lexeme = u.map Token.lexeme) (leads : kindAhead u = some kind) :
    t.lookahead.map Token.kind = some kind := by
  cases u with
  | nil => cases leads
  | cons token u =>
      obtain ⟨token', v', rfl, like, _⟩ := List.map_eq_cons_iff.mp same
      rw [head, ← leads]
      exact congrArg some (Prod.mk.inj like).1

-- What the loop does behind an input whose statements are `done'`, in reverse, and whose tokens are like
-- those in `u`.
structure GoesBehind (inner : Nested τ act) (stop : Option TokenKind) (done done' : List act.Statement)
    (u : List Token) : Prop where
  ok : ∀ (t : ParseState τ) place v, Reads t.ahead v place → v.map Token.lexeme = u.map Token.lexeme →
    place.1.map Token.kind ≠ some (.keyword .elseWord) →
    ∃ t', t'.ahead = place ∧ statementsBehind inner stop done t = statementsBehind inner stop done' t'
  broken : ∀ (t : ParseState τ) v fault, Breaks t.ahead v fault → v.map Token.lexeme = u.map Token.lexeme →
    ∃ t', statementsBehind inner stop done t = .error (.lexical fault) t'

-- One more statement before it.
theorem goes_behind_step (inner : Nested τ act) (sound : inner.Sound) (stop : Option TokenKind)
    (ends : stop = none ∨ stop = some (.mark .rightBrace)) (first : act.Statement) (done done' : List act.Statement)
    (u v : List Token) (next : Option Token) (kind : TokenKind) (leads : kindAhead u = some kind)
    (starts : startsStatement kind = true) (ahead : next = v.head?) (one : EndsBehind inner.statement first u next)
    (later : GoesBehind inner stop (first :: done) done' v) : GoesBehind inner stop done done' (u ++ v) := by
  have goes : some kind ≠ stop := by
    rcases ends with rfl | rfl
    · nofun
    · rintro same
      injection same with same
      subst same
      contradiction
  have leads' : kindAhead (u ++ v) = some kind := kind_ahead_append u v kind leads
  have some' : u ≠ [] := by
    rintro rfl
    cases leads
  constructor
  · intro t place w read same apart
    rw [List.map_append] at same
    obtain ⟨x, y, rfl, like, like'⟩ := List.map_eq_append_iff.mp same
    obtain ⟨middle, before, behind⟩ := reads_split _ place x y read
    have follows : Follows t.ahead u next middle := by
      refine ⟨x, before, like, ?_⟩
      cases v with
      | nil =>
          obtain rfl := List.map_eq_nil_iff.mp like'
          cases behind
          exact .inr ⟨ahead, apart⟩
      | cons token v =>
          obtain ⟨token', y', rfl, same', _⟩ := List.map_eq_cons_iff.mp like'
          rw [head_of_reads middle place _ behind, ahead]
          exact .inl (congrArg some same')
    obtain ⟨t₁, taken, rfl⟩ := one.ok t middle follows
    obtain ⟨t', rfl, goesOn⟩ := later.ok t₁ place y behind like' apart
    refine ⟨t', rfl, ?_⟩
    have head : t.lookahead = (x ++ y).head? := by
      rw [show t.lookahead = t.ahead.1 from rfl, head_of_reads _ _ _ read]
      cases x with
      | nil => exact absurd (List.map_eq_nil_iff.mp like.symm) some'
      | cons _ _ => rfl
    rw [statements_behind_step inner stop sound done t kind (kind_of_like t _ _ head kind (by simp [like, like']) leads')
      goes, bind_of_ok _ _ t t₁ first taken, goesOn]
  · intro t w fault breaks same
    rw [statements_behind_step inner stop sound done t kind
      (kind_of_like t _ _ (head_of_breaks _ _ _ breaks) kind same leads') goes]
    by_cases last : v = []
    · subst last
      rw [List.append_nil] at same
      obtain ⟨t', failed⟩ := one.broken ahead t w fault breaks same
      exact ⟨t', bind_of_error _ _ t t' _ failed⟩
    · obtain ⟨middle, y, retraces, breaks', like⟩ := breaks_retraces _ u v w next fault last ahead breaks same
      obtain ⟨t₁, taken, rfl⟩ := one.ok t middle (follows_of_retraces _ _ _ _ retraces)
      obtain ⟨t', failed⟩ := later.broken t₁ y fault breaks' like
      refine ⟨t', ?_⟩
      rw [bind_of_ok _ _ t t₁ first taken, failed]

-- By the statements of the input, from the first to the last.
theorem goes_behind (limit levels : Nat) (stop : Option TokenKind)
    (ends : stop = none ∨ stop = some (.mark .rightBrace)) (done done' : List act.Statement) (s s' : ParseState σ)
    (run : statementsBehind (nested act limit levels) none done s = .ok done' s') (atEnd : s'.lookahead = none) :
    ∃ u, Reads s.ahead u s'.ahead ∧
      GoesBehind (nested (σ := τ) act limit levels) stop done done' u := by
  have sound : (nested (σ := σ) act limit levels).Sound := nested_sound limit levels
  have sound' : (nested (σ := τ) act limit levels).Sound := nested_sound limit levels
  generalize size : s.left = n
  induction n using Nat.strongRecOn generalizing done s with
  | ind n ih =>
      cases ahead : s.lookahead with
      | none =>
          rw [statements_behind_stop _ _ sound _ _ (.inl (by rw [ahead]; rfl))] at run
          injection run with same same'
          subst same same'
          refine ⟨[], .nothing _, fun t place v read same _ => ?_, fun t v fault breaks same => ?_⟩
          · obtain rfl := List.map_eq_nil_iff.mp same
            exact ⟨t, (place_of_nothing _ _ read).symm, rfl⟩
          · exact absurd (List.map_eq_nil_iff.mp same) (breaks_some _ v fault breaks)
      | some token =>
          rw [statements_behind_step _ none sound done s token.kind (by rw [ahead]; rfl) nofun] at run
          obtain ⟨first, m, taken, rest⟩ := (bind_ok_iff _ _ _ _ _).mp run
          obtain ⟨u, some', read, one⟩ := nested_closes (τ := τ) act limit levels s first m taken
          obtain ⟨w, derived, read'⟩ := sound.statement s first m taken
          obtain rfl := reads_unique _ _ u w read read'
          obtain ⟨kind, leads, starts⟩ := Phrase.statement_leads u first derived
          have positive := List.length_pos_iff.mpr some'
          have lower := reads_lowers s m u read
          obtain ⟨v, readRest, later⟩ := ih m.left (by omega) (first :: done) m rest rfl
          refine ⟨u ++ v, reads_append _ _ _ u v read readRest, ?_⟩
          exact goes_behind_step _ sound' stop ends first done done' u v _ kind leads starts
            (head_at_end m s' v readRest atEnd) one later

-- A program whose first statements are done.
def programBehind (inner : Nested σ act) (done : List act.Statement) : Parse σ act.Program := do
  let all ← statementsBehind inner none done
  return act.program all.reverse

theorem program_behind (limit : Nat) (source : σ) (begun : ParseState σ)
    (filled : refill (.start source) = .ok () begun) :
    program act limit (.start source) = programBehind (nested act limit limit) [] begun := by
  rw [program_eq act limit source begun filled, statements_eq, bind_assoc]
  rfl

-- The loop goes the same way whatever is done before it.
theorem program_behind_replays (act : Actions) (limit levels : Nat) (done : List act.Statement) :
    Replays (fun p q => ∃ body, p = act.program body ∧ q = act.program (done.reverse ++ body))
      (programBehind (nested (σ := σ) act limit levels) [])
      (programBehind (nested (σ := τ) act limit levels) done) := by
  have sound : (nested (σ := σ) act limit levels).Sound := nested_sound limit levels
  have sound' : (nested (σ := τ) act limit levels).Sound := nested_sound limit levels
  have agree := nested_agree (act.identical _) (replay σ τ) limit levels
  have loop : Replays (fun a b => b = a ++ done) (statementsBehind (nested (σ := σ) act limit levels) none [])
      (statementsBehind (nested (σ := τ) act limit levels) none done) := by
    refine .repeat_while rfl (lowers_statement_step sound) (lowers_statement_step sound') ?_ rfl
    intro a b same
    refine .bind agree.statement fun first _ equal => ?_
    obtain rfl := equal
    exact .pure (by rw [same, List.cons_append])
  refine .bind loop fun a b same => .pure ⟨a.reverse, rfl, ?_⟩
  rw [same, List.reverse_append]

end Grammar

-- An error, with any place of it further behind.
def Error.shifted (offset : Nat) : Error → Error
  | .lexical fault => .lexical (fault.shifted offset)
  | .grammar (.unexpectedToken found expected place) => .grammar (.unexpectedToken found expected (place + offset))
  | fault => fault

theorem Error.moved_shifted (offset : Nat) (fault : Error) (place : Option Token × Tokenizer)
    (fits : fault.FitsAt place.1) (syntactic : fault.isLexical = false) :
    fault.movedTo (offsetAhead (Tokenizer.shiftedPlace offset place)) = fault.shifted offset := by
  cases fault with
  | lexical fault => cases syntactic
  | config fault => exact fits.elim
  | grammar fault =>
      cases fault with
      | unexpectedToken found expected start =>
          obtain ⟨token, ahead, rfl⟩ := fits
          simp [Error.movedTo, Error.shifted, offsetAhead, Tokenizer.shiftedPlace, ahead, Token.shifted]
      | _ => rfl

theorem leading_head (source : String) (next : Option Token) (behind : Tokenizer)
    (found : (Tokenizer.ofSource source).read = .ok next behind) : (leadingTokens source).head? = next := by
  unfold leadingTokens
  dsimp only
  rw [Tokenizer.leadingFrom, found]
  cases next <;> rfl

theorem source_behind_line (first second : String) : Tokenizer.ofSource (first ++ "\n" ++ second) =
    (Tokenizer.ofSource first).followedBy ('\n' :: second.toList) := by
  simp [Tokenizer.ofSource, Tokenizer.followedBy, String.toList_append, Text.byte_length_append]

-- What a run comes to, without the state.
def outcome {ρ α : Type} : EStateM.Result Error ρ α → Except Error α
  | .ok a _ => .ok a
  | .error fault _ => .error fault

-- The same run at a place further behind, but for the offsets in it.
theorem replay_shifted {α β : Type} {values : α → β → Prop} {p : Parse Tokenizer α} {q : Parse Tokenizer β}
    (replays : Replays values p q) (offset : Nat) (s t : ParseState Tokenizer)
    (begins : t.ahead = Tokenizer.shiftedPlace offset s.ahead) :
    match outcome (p s) with
    | .ok a => ∃ b, outcome (q t) = .ok b ∧ values a b
    | .error fault => outcome (q t) = .error (fault.shifted offset) := by
  have retraces (s' : ParseState Tokenizer) (u : List Token) (reads : Reads s.ahead u s'.ahead) :
      Retraces t.ahead u s'.lookahead (Tokenizer.shiftedPlace offset s'.ahead) := by
    refine ⟨u.map (Token.shifted offset), ?_, Tokenizer.lexemes_shifted offset u, ?_⟩
    · rw [begins]
      exact Tokenizer.reads_shifted offset _ _ u reads
    · exact Option.map_map _ _ _
  cases run : p s with
  | ok a s' =>
      obtain ⟨_, u, reads, ends⟩ := replays.ok s a s' run
      obtain ⟨b, t', run', _, same⟩ := ends t _ (retraces s' u reads)
      exact ⟨b, by rw [run', outcome], same⟩
  | error fault s' =>
      have fits := replays.fits s fault s' run
      dsimp only [outcome]
      cases fault with
      | lexical fault =>
          obtain ⟨u, breaks, ends⟩ := replays.broken s fault s' run
          have breaks' : Breaks t.ahead (u.map (Token.shifted offset)) (fault.shifted offset) := by
            rw [begins]
            exact Tokenizer.breaks_shifted offset _ u fault breaks
          obtain ⟨t', run'⟩ := ends t _ _ breaks' (Tokenizer.lexemes_shifted offset u)
          rw [run']
          rfl
      | grammar fault =>
          obtain ⟨u, reads, ends⟩ := replays.error s (.grammar fault) s' run rfl
          obtain ⟨t', run', _⟩ := ends t _ (retraces s' u reads)
          rw [run', Error.moved_shifted offset (.grammar fault) s'.ahead fits rfl]
      | config fault => exact fits.elim

theorem parse_behind (act : Actions) (source : String) (next : Option Token) (behind : Tokenizer)
    (found : (Tokenizer.ofSource source).read = .ok next behind) :
    parse act source =
      outcome (Grammar.programBehind (Grammar.nested act maxNesting maxNesting) [] ⟨next, behind, 0, 0⟩) := by
  have filled := filled_of_read source next behind found
  rw [← Grammar.program_behind maxNesting _ _ filled]
  unfold parse parseFrom
  cases Grammar.program act maxNesting (.start (Tokenizer.ofSource source)) <;> rfl

-- The statements of a source that are taken, in reverse, with the tokens that they are taken from.
structure Taken (act : Actions) (limit levels : Nat) (source : String) (done : List act.Statement)
    (next : Option Token) (behind last : Tokenizer) (u : List Token) : Prop where
  read : (Tokenizer.ofSource source).read = .ok next behind
  reads : Reads (next, behind) u (none, last)
  apart : SignsApart u
  goes : ∀ stop, stop = none ∨ stop = some (.mark .rightBrace) →
    Grammar.GoesBehind (Grammar.nested (σ := Tokenizer) act limit levels) stop [] done u

theorem taken_of_statements (limit levels : Nat) (source : String) (next : Option Token) (behind : Tokenizer)
    (read : (Tokenizer.ofSource source).read = .ok next behind) (body : List act.Statement) (s' : ParseState Tokenizer)
    (run : Grammar.statements act (Grammar.nested act limit levels) none ⟨next, behind, 0, 0⟩ = .ok body s') :
    ∃ u, Taken act limit levels source body.reverse next behind s'.source u := by
  have sound : (Grammar.nested (σ := Tokenizer) act limit levels).Sound := Grammar.nested_sound limit levels
  have atEnd := Grammar.statements_end _ sound _ s' body run
  have place : s'.ahead = (none, s'.source) := by rw [ParseState.ahead, atEnd]
  obtain ⟨u, derived, reads⟩ := Grammar.yields_statements sound none _ body s' run
  rw [Grammar.statements_eq] at run
  obtain ⟨done, m, loop, ended⟩ := (bind_ok_iff _ _ _ _ _).mp run
  injection ended with same same'
  subst same same'
  rw [List.reverse_reverse]
  refine ⟨u, read, place ▸ reads, Phrase.statements_apart u _ derived, fun stop ends => ?_⟩
  obtain ⟨v, reads', goes⟩ := Grammar.goes_behind (σ := Tokenizer) (τ := Tokenizer) limit levels stop ends [] done _ m
    loop atEnd
  exact reads_unique _ _ v u reads' reads ▸ goes

theorem parse_behind_line (first second : String) (body : List act.Statement) (next : Option Token)
    (behind last : Tokenizer) (u : List Token)
    (taken : Taken act maxNesting maxNesting first body.reverse next behind last u)
    (other : (leadingTokens second).head?.map Token.kind ≠ some (.keyword .elseWord)) :
    match parse act second with
    | .ok program => ∃ body', program = act.program body' ∧
        parse act (first ++ "\n" ++ second) = .ok (act.program (body ++ body'))
    | .error fault =>
        parse act (first ++ "\n" ++ second) = .error (fault.shifted (Text.byteLength first.toList + 1)) := by
  have goes := taken.goes none (.inl rfl)
  obtain ⟨onward, broken⟩ := Tokenizer.reads_before_line second false false (Tokenizer.ofSource first) behind next u
    last taken.read taken.reads taken.apart
  have size : (Tokenizer.ofSource first).size = Text.byteLength first.toList := rfl
  rw [← source_behind_line, size] at onward broken
  generalize Text.byteLength first.toList + 1 = offset at onward broken ⊢
  cases read : (Tokenizer.ofSource second).read with
  | error fault after =>
      rw [parse_at_error act second after fault read]
      dsimp only
      rcases broken _ _ (Tokenizer.failure_shifted offset _ after fault read) with
        ⟨rfl, failed⟩ | ⟨head, place, read', breaks⟩
      · exact parse_at_error act _ _ _ failed
      · obtain ⟨t', failed⟩ := goes.broken ⟨head, place, 0, 0⟩ u _ breaks rfl
        rw [parse_behind act _ head place read', Grammar.programBehind, bind_of_error _ _ _ t' _ failed]
        rfl
  | ok next' after =>
      obtain ⟨head, place, read', reads'⟩ := onward _ _ (Tokenizer.next_shifted offset _ after next' read)
      have other' : (next'.map (Token.shifted offset)).map Token.kind ≠ some (.keyword .elseWord) := by
        rw [leading_head second next' after read] at other
        rwa [Option.map_map]
      obtain ⟨t', begins, same⟩ := goes.ok ⟨head, place, 0, 0⟩ _ u reads' rfl other'
      have replays := Grammar.program_behind_replays (σ := Tokenizer) (τ := Tokenizer) act maxNesting maxNesting
        body.reverse
      have turn : Grammar.programBehind (Grammar.nested act maxNesting maxNesting) [] ⟨head, place, 0, 0⟩ =
          Grammar.programBehind (Grammar.nested act maxNesting maxNesting) body.reverse t' := by
        change EStateM.bind _ _ _ = EStateM.bind _ _ _
        rw [EStateM.bind, EStateM.bind, same]
      have later := replay_shifted replays offset ⟨next', after, 0, 0⟩ t' begins
      rw [parse_behind act second next' after read, parse_behind act _ head place read', turn]
      cases run : outcome (Grammar.programBehind (Grammar.nested act maxNesting maxNesting) [] ⟨next', after, 0, 0⟩) with
      | ok program =>
          rw [run] at later
          obtain ⟨_, run', body', rfl, rfl⟩ := later
          exact ⟨body', rfl, by rw [run', List.reverse_reverse]⟩
      | error fault =>
          rw [run] at later
          exact later

namespace Grammar

-- Enough levels are as good as no limit.
theorem statements_unguarded (limit levels : Nat) (stop : Option TokenKind) (s : ParseState σ)
    (enough : 3 * (s.left + 1) ≤ levels) :
    statements act (nested act limit levels) stop s = statements act (unguarded act) stop s := by
  have alike := agree_statements (settled_unguarded act limit (s.left + 1) levels enough) stop s s
    ⟨rfl, Nat.lt_succ_self _⟩
  have alike' := alike_weaken (fun _ _ found => found) eq_of_all _ _ alike
  exact eq_of_alike (fun _ _ found => found.1) _ _ alike'

-- What is taken under a limit is taken without one.
theorem statements_without_limit (limit : Nat) (stop : Option TokenKind) (body : List act.Statement)
    (s s' : ParseState σ) (level : s.depth = 0) (low : s.deepest ≤ limit)
    (run : statements act (nested act limit limit) stop s = .ok body s') :
    statements act (unguarded act) stop s = .ok body s' := by
  have inside := nested_guarded (σ := σ) act limit limit 0 limit (Nat.zero_add _)
  have guarded : Guarded limit limit 0 (List.Forall₂ Eq) (statements act (nested act limit limit) stop)
    (statements act (unguarded act) stop) := agree_statements inside stop
  rcases guarded.compare s level low with ⟨_, m, stopped⟩ | ⟨alike, _⟩
  · rw [run] at stopped
    cases stopped
  · rw [run] at alike
    generalize statements act (unguarded act) stop s = right at alike
    cases right with
    | ok body' m => rw [eq_of_all _ _ alike.1, alike.2.1]
    | error fault m => exact alike.elim

-- The tokens of a program make up a block between braces.
theorem block_run (inner : Nested σ act) (sound : inner.Sound) (body : List act.Statement) (u v : List Token)
    (goes : GoesBehind inner (some (.mark .rightBrace)) [] body.reverse u) (t : ParseState σ) (open_ close : Token)
    (inside behind last : Option Token × σ) (opens : open_.kind = .mark .leftBrace)
    (closes : close.kind = .mark .rightBrace) (first : Reads t.ahead [open_] inside)
    (middle : Reads inside v behind) (same : v.map Token.lexeme = u.map Token.lexeme)
    (final : Reads behind [close] last) :
    ∃ t', statement act inner t = .ok (act.blockStatement (act.block body)) t' ∧ t'.ahead = last := by
  have ahead : t.lookahead.map Token.kind = some (.mark .leftBrace) := by
    rw [show t.lookahead = some open_ from head_of_reads _ _ _ first, Option.map_some, opens]
  have ahead' : behind.1.map Token.kind = some (.mark .rightBrace) := by
    rw [show behind.1 = some close from head_of_reads _ _ _ final, Option.map_some, closes]
  obtain ⟨t₁, taken, rfl⟩ := expect_of_reads _ t open_ inside opens first
  obtain ⟨t₂, rfl, loop⟩ := goes.ok t₁ behind v middle same (by rw [ahead']; nofun)
  obtain ⟨t₃, taken', place⟩ := expect_of_reads _ t₂ close last closes final
  rw [statements_behind_stop inner _ sound _ t₂ (.inr ahead')] at loop
  have list : statements act inner (some (.mark .rightBrace)) t₁ = .ok body t₂ := by
    rw [statements_eq, bind_of_ok _ _ t₁ t₂ _ loop, List.reverse_reverse]
    rfl
  have found : block act inner t = .ok (act.block body) t₃ := by
    unfold block
    rw [bind_of_ok _ _ t t₁ _ taken, bind_of_ok _ _ t₁ t₂ _ list, bind_of_ok _ _ t₂ t₃ _ taken']
    rfl
  refine ⟨t₃, ?_, place⟩
  have turn : statement act inner t = blockStatement act inner t := by
    unfold statement
    rw [look_run, ahead]
  rw [turn, blockStatement, bind_of_ok _ _ t t₃ _ found]
  rfl

end Grammar

namespace Tokenizer

theorem read_brace (t : Tokenizer) (brace : Mark) (c : Char) (rest : List Char) (unread : t.rest = c :: rest)
    (known : brace = .leftBrace ∧ c = '\x7b' ∨ brace = .rightBrace ∧ c = '\x7d') :
    ∃ token, token.kind = .mark brace ∧ t.read = .ok (some token) (t.advance 1) := by
  have matched : firstMatch? t.rest = some (some (.mark brace), 1) := by
    rw [unread, first_match_contenders]
    rcases known with ⟨rfl, rfl⟩ | ⟨rfl, rfl⟩ <;> rfl
  exact ⟨_, rfl, read_takes t _ 1 matched⟩

-- A brace, the tokens of a source and the other brace.
theorem reads_between_braces (first : String) (next : Option Token) (behind last : Tokenizer) (u : List Token)
    (read : (ofSource first).read = .ok next behind) (reads : Reads (next, behind) u (none, last))
    (apart : SignsApart u) :
    ∃ open_ source inside v stop close ended, open_.kind = .mark .leftBrace ∧ close.kind = .mark .rightBrace ∧
      (ofSource ("\x7b" ++ first ++ "\n\x7d")).read = .ok (some open_) source ∧
      Reads (some open_, source) [open_] inside ∧ Reads inside v (some close, stop) ∧
      v.map Token.lexeme = u.map Token.lexeme ∧ Reads (some close, stop) [close] (none, ended) := by
  obtain ⟨open_, opens, begun⟩ := read_brace (ofSource ("\x7b" ++ first ++ "\n\x7d")) .leftBrace '\x7b'
    (first.toList ++ ['\n', '\x7d']) (by simp [ofSource, String.toList_append]) (.inl ⟨rfl, rfl⟩)
  obtain ⟨close, closes, ended⟩ := read_brace (ofSource "\x7d") .rightBrace '\x7d' [] rfl (.inr ⟨rfl, rfl⟩)
  have inner : (ofSource ("\x7b" ++ first ++ "\n\x7d")).advance 1 =
      ((ofSource first).followedBy ('\n' :: "\x7d".toList)).shifted 1 := by
    simp only [advance, ofSource, followedBy, shifted, String.toList_append, mk.injEq]
    simp [Text.byteLength, Text.byte_length_append, show '\x7b'.utf8Size = 1 from rfl]
    omega
  have seam := next_shifted ((ofSource first).size + 1) _ _ _ ended
  obtain ⟨head, place, read', reads'⟩ := (reads_before_line "\x7d" false false _ behind next u last read reads apart).1
    _ _ seam
  have begins := next_shifted 1 _ _ _ read'
  have stops := next_shifted 1 _ _ _ (next_shifted ((ofSource first).size + 1) _ _ _ (read_at_end
    ((ofSource "\x7d").advance 1) rfl))
  rw [← inner] at begins
  exact ⟨open_, _, _, u.map (Token.shifted 1), _, (close.shifted ((ofSource first).size + 1)).shifted 1, _, opens,
    closes, begun, .token open_ _ _ _ [] _ begins (.nothing _), reads_shifted 1 _ _ u reads', lexemes_shifted 1 u,
    .token _ _ _ _ [] _ stops (.nothing _)⟩

end Tokenizer

theorem left_of_read (t after : Tokenizer) (next : Option Token) (found : t.read = .ok next after) :
    (⟨next, after, 0, 0⟩ : ParseState Tokenizer).left ≤ t.bytesLeft := by
  cases next with
  | none => exact Nat.zero_le _
  | some token => exact TokenSource.lowers t token after found

theorem unlimited_between_braces (first : String) (body : List act.Statement) (next : Option Token)
    (behind : Tokenizer) (s' : ParseState Tokenizer) (read : (Tokenizer.ofSource first).read = .ok next behind)
    (run : Grammar.statements act (Grammar.unguarded act) none ⟨next, behind, 0, 0⟩ = .ok body s') :
    parseUnlimited act (Tokenizer.ofSource ("\x7b" ++ first ++ "\n\x7d")) =
      .ok (act.program [act.blockStatement (act.block body)]) := by
  -- So many levels are enough for the program alone and between the braces.
  obtain ⟨levels, enough, enough'⟩ : ∃ levels, 3 * ((Tokenizer.ofSource first).bytesLeft + 1) ≤ levels ∧
      3 * ((Tokenizer.ofSource ("\x7b" ++ first ++ "\n\x7d")).bytesLeft + 1) ≤ levels :=
    ⟨_, Nat.le_max_left _ _, Nat.le_max_right _ _⟩
  have left := left_of_read _ behind next read
  rw [← Grammar.statements_unguarded 0 levels none _ (by omega)] at run
  obtain ⟨u, taken⟩ := taken_of_statements 0 levels first next behind read body s' run
  obtain ⟨open_, source, inside, v, stop, close, ended, opens, closes, read', begins, reads, same, ends⟩ :=
    Tokenizer.reads_between_braces first next behind _ u read taken.reads taken.apart
  have left' := left_of_read _ source (some open_) read'
  generalize Tokenizer.ofSource ("\x7b" ++ first ++ "\n\x7d") = text at *
  have sound : (Grammar.nested (σ := Tokenizer) act 0 levels).Sound := Grammar.nested_sound 0 levels
  have sound' : (Grammar.nested (σ := Tokenizer) act 0 (levels + 1)).Sound := Grammar.nested_sound 0 (levels + 1)
  obtain ⟨t', found, place⟩ := Grammar.block_run _ sound body u v (taken.goes _ (.inr rfl))
    (ParseState.enter ⟨some open_, source, 0, 0⟩) open_ close inside _ _ opens closes begins reads same ends
  have one : (Grammar.nested act 0 (levels + 1)).statement ⟨some open_, source, 0, 0⟩ =
      .ok (act.blockStatement (act.block body)) t'.leave := by
    change deeper _ _ = _
    rw [deeper, found]
  have atEnd : t'.leave.lookahead = none := (Prod.mk.inj place).1
  have list : Grammar.statements act (Grammar.unguarded act) none ⟨some open_, source, 0, 0⟩ =
      .ok [act.blockStatement (act.block body)] t'.leave := by
    have stops := Grammar.statements_behind_stop _ none sound' [act.blockStatement (act.block body)] t'.leave
      (.inl (by rw [atEnd]; rfl))
    rw [← Grammar.statements_unguarded 0 (levels + 1) none _ (by omega), Grammar.statements_eq,
      bind_of_ok _ _ _ t'.leave [act.blockStatement (act.block body)]]
    · rfl
    · rw [Grammar.statements_behind_step _ none sound' _ _ _ rfl (Option.some_ne_none _), bind_of_ok _ _ _ _ _ one, stops]
  have filled : refill (.start text) = .ok () ⟨some open_, source, 0, 0⟩ :=
    (refill_ok_iff _ _).mpr ⟨_, source, read', rfl⟩
  unfold parseUnlimited Grammar.unlimited
  rw [bind_of_ok _ _ _ _ _ filled, bind_of_ok _ _ _ _ _ list]
  rfl

-- A program can be continued behind a line break, and be put between braces. Nothing that follows changes
-- its statements, unless it is an `else`, and it changes nothing that follows but the offsets of errors.
theorem programs_concatenate (act : Actions) (first : String) (program : act.Program)
    (accepted : parse act first = .ok program) :
    ∃ body, program = act.program body ∧
      (∀ second, (leadingTokens second).head?.map Token.kind ≠ some (.keyword .elseWord) →
        match parse act second with
        | .ok program' => ∃ body', program' = act.program body' ∧
            parse act (first ++ "\n" ++ second) = .ok (act.program (body ++ body'))
        | .error fault =>
            parse act (first ++ "\n" ++ second) = .error (fault.shifted (Text.byteLength first.toList + 1))) ∧
      (parse act ("\x7b" ++ first ++ "\n\x7d") = .ok (act.program [act.blockStatement (act.block body)]) ∨
        parse act ("\x7b" ++ first ++ "\n\x7d") = .error (.grammar (.nestingTooDeep maxNesting))) := by
  obtain ⟨next, behind, body, s', read, built, run⟩ := statements_of_parse _ first program accepted
  obtain ⟨u, taken⟩ := taken_of_statements maxNesting maxNesting first next behind read body s' run
  refine ⟨body, built, fun second other => ?_, ?_⟩
  · exact parse_behind_line first second body next behind _ u taken other
  · have run' := Grammar.statements_without_limit maxNesting none body _ s' rfl (Nat.zero_le _) run
    have whole := unlimited_between_braces first body next behind s' read run'
    rcases parse_from_guarded act maxNesting (Tokenizer.ofSource ("\x7b" ++ first ++ "\n\x7d")) with
      ⟨_, stopped⟩ | ⟨same, _⟩
    · exact .inr stopped
    · exact .inl (same.trans whole)

-- Behind an `if` without an `else`, and behind a comment up to the end of the line.
theorem programs_concatenate_at_if :
    ∃ body body', parse SExpr.actions "if (a) b; //" = .ok (SExpr.actions.program body) ∧
      parse SExpr.actions "c;" = .ok (SExpr.actions.program body') ∧
      parse SExpr.actions ("if (a) b; //" ++ "\n" ++ "c;") = .ok (SExpr.actions.program (body ++ body')) ∧
      parse SExpr.actions ("if (a) b; //" ++ "\n" ++ "\"") = .error (.lexical ⟨'"', 13⟩) := by
  obtain ⟨p, accepted⟩ := exists_of_is_ok (parse SExpr.actions "if (a) b; //") (by decide +kernel)
  obtain ⟨p', accepted'⟩ := exists_of_is_ok (parse SExpr.actions "c;") (by decide +kernel)
  have failed : parse SExpr.actions "\"" = .error (.lexical ⟨'"', 0⟩) :=
    eq_error_of_fails_with _ _ (by decide +kernel)
  obtain ⟨body, rfl, behind, _⟩ := programs_concatenate SExpr.actions "if (a) b; //" p accepted
  have found := behind "c;" (by decide +kernel)
  have found' := behind "\"" (by decide +kernel)
  rw [accepted'] at found
  rw [failed] at found'
  obtain ⟨body', rfl, whole⟩ := found
  exact ⟨body, body', accepted, accepted', whole, found'⟩

end ScriptFront
