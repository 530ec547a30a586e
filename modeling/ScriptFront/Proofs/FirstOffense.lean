import ScriptFront.Proofs.AcceptedLanguage
import ScriptFront.Proofs.OutputForms
import ScriptFront.Proofs.Replay
import ScriptFront.Proofs.StatementsBlamed

set_option autoImplicit false

/-! A syntax error is reported at the first token that does not fit: what comes before it begins a
program, and with it no program begins so. -/

namespace ScriptFront

open Parse

-- Tokens that are no program, up to the token that spoils them, and what is said about it.
structure Offends (tokens : List Token) (place : Nat) (fault : GrammarError) : Prop where
  within : place ≤ tokens.length
  begins : Begins (Phrase.Program Program.actions) (tokens.take place)
  wanted : ∀ t, fault.expected? = some t.kind → t.wellSpelled = true →
    Begins (Phrase.Program Program.actions) (tokens.take place ++ [t])
  spoils : place < tokens.length →
    ∀ rest p, ¬ Phrase.Program Program.actions (tokens.take (place + 1) ++ rest) p
  reports : fault.Reports tokens[place]?

-- A parse that stops at a token stops at it in every other continuation too, so that the tokens up to
-- it begin no program.
theorem spoils_of_failure (source : String) (tokens u rest w : List Token) (t : Token) (p : Program)
    (error : Error) (begun after : ParseState Tokenizer)
    (filled : refill (.start (Tokenizer.ofSource source)) = .ok () begun) (offers : Offers begun.ahead tokens)
    (run : Grammar.program Program.actions maxNesting (.start (Tokenizer.ofSource source)) = .error error after)
    (shallow : error ≠ .grammar (.nestingTooDeep maxNesting)) (read : Reads begun.ahead u after.ahead)
    (left : Offers after.ahead (t :: rest)) :
    ¬ Phrase.Program Program.actions (u ++ t :: w) p := by
  intro derived
  obtain ⟨begun', filled', offers'⟩ := offers_list (u ++ t :: w)
  obtain ⟨u', read', ends⟩ := (program_replays Program.actions maxNesting _ _ begun begun' tokens filled
    filled' offers).2 error after run
  rw [reads_unique _ _ u' u read' read] at ends
  obtain ⟨stop, before, behind⟩ := offers_split begun'.ahead u (t :: w) offers'
  have same : stop.1 = after.lookahead := (offers_head _ _ behind).trans (offers_head _ _ left).symm
  obtain ⟨after', run', _⟩ := ends stop ⟨u, before, rfl, by rw [same]⟩
  have failed : parseFrom Program.actions maxNesting (u ++ t :: w) =
      .error (error.movedTo (offsetAhead stop)) := by
    rw [parseFrom, run']
  rcases parse_from_complete Program.names_places maxNesting _ begun' _ p filled' offers' derived with
    ⟨p', parsed⟩ | deep
  · rw [parsed] at failed
    cases failed
  · rw [deep] at failed
    injection failed with same
    exact shallow (error.moved_too_deep _ _ same.symm)

theorem tree_failure_offends (source : String) (tokens : List Token) (error : Error)
    (after : ParseState Tokenizer) (found : tokenize source = .ok tokens)
    (run : Grammar.program Program.actions maxNesting (.start (Tokenizer.ofSource source)) = .error error after)
    (shallow : error ≠ .grammar (.nestingTooDeep maxNesting)) :
    ∃ place fault, error = .grammar fault ∧ Offers after.ahead (tokens.drop place) ∧
      Offends tokens place fault := by
  obtain ⟨begun, filled, offers⟩ := offers_of_tokenize source tokens found
  have failed := run
  rw [Grammar.program_eq _ _ _ begun filled] at failed
  rcases (Grammar.blames_program maxNesting).blames begun tokens error after offers
    (well_spelled_of_tokenize source tokens found) failed with
    deep | ⟨u, fault, same, read, reports, begins, wanted⟩
  · exact absurd deep shallow
  · obtain ⟨rest, rfl, left⟩ := offers_after _ _ tokens u offers read
    refine ⟨u.length, fault, same, by simpa using left, by simp, by simpa using begins, by simpa using wanted, ?_, ?_⟩
    · intro more w p
      cases rest with
      | nil => simp at more
      | cons t rest =>
          have spoiled := spoils_of_failure source _ u rest w t p error begun after filled offers run shallow
            read left
          have taken : (u ++ t :: rest).take (u.length + 1) ++ w = u ++ t :: w := by
            rw [List.take_length_add_append]
            simp
          rwa [taken]
    · have head : after.lookahead = rest.head? := offers_head _ _ left
      rw [head, List.head?_eq_getElem?] at reports
      rwa [List.getElem?_append_right (Nat.le_refl _), Nat.sub_self]

-- Both output forms fail in the same state.
theorem tree_run_of_form_run (source : String) (error : Error) (after : ParseState Tokenizer)
    (run : Grammar.program SExpr.actions maxNesting (.start (Tokenizer.ofSource source)) = .error error after) :
    Grammar.program Program.actions maxNesting (.start (Tokenizer.ofSource source)) = .error error after := by
  have alike := Grammar.agree_program encodes maxNesting (.start (Tokenizer.ofSource source))
    (.start (Tokenizer.ofSource source)) ⟨rfl, fun token keyword ahead => by cases ahead⟩ rfl
  rw [run] at alike
  cases tree : Grammar.program Program.actions maxNesting (.start (Tokenizer.ofSource source)) with
  | ok p after' =>
      rw [tree] at alike
      exact alike.elim
  | error fault after' =>
      rw [tree] at alike
      rw [alike.1, alike.2.1]

-- A source without a lexical error that is not parsed, in either form, though it is not nested too deep:
-- the parse stops at the token that spoils it.
theorem failure_is_first_offense (source : String) (tokens : List Token) (act : Actions) (error : Error)
    (found : tokenize source = .ok tokens) (form : act = Program.actions ∨ act = SExpr.actions)
    (failed : parse act source = .error error)
    (shallow : error ≠ .grammar (.nestingTooDeep maxNesting)) :
    ∃ place fault after, error = .grammar fault ∧
      Grammar.program act maxNesting (.start (Tokenizer.ofSource source)) = .error error after ∧
      Offers after.ahead (tokens.drop place) ∧ Offends tokens place fault := by
  unfold parse parseFrom at failed
  split at failed
  · contradiction
  · rename_i error' after run
    injection failed with same
    subst same
    have tree : Grammar.program Program.actions maxNesting (.start (Tokenizer.ofSource source)) =
        .error error' after := by
      rcases form with rfl | rfl
      · exact run
      · exact tree_run_of_form_run source error' after run
    obtain ⟨place, fault, same, left, offends⟩ :=
      tree_failure_offends source tokens error' after found tree shallow
    exact ⟨place, fault, after, same, run, left, offends⟩

def failsWith {α : Type} (error : Error) : Except Error α → Bool
  | .ok _ => false
  | .error fault => fault == error

theorem eq_error_of_fails_with {α : Type} (error : Error) (result : Except Error α)
    (fails : failsWith error result = true) : result = .error error := by
  cases result with
  | ok a => contradiction
  | error fault => rw [beq_iff_eq.mp fails]

-- The operand of the minus goes on to the assignment sign, where it is a sum, which cannot be assigned
-- to; and if it ended before, the whole would be a sum.
theorem failure_is_first_offense_at_sum :
    ∃ tokens place fault after, tokenize "if (a) b; else -c + d = e;" = .ok tokens ∧
      parse SExpr.actions "if (a) b; else -c + d = e;" = .error (.grammar .invalidTarget) ∧
      Error.grammar .invalidTarget ≠ .grammar (.nestingTooDeep maxNesting) ∧
      Error.grammar .invalidTarget = .grammar fault ∧
      Grammar.program SExpr.actions maxNesting (.start (Tokenizer.ofSource "if (a) b; else -c + d = e;")) =
        .error (.grammar .invalidTarget) after ∧
      Offers after.ahead (tokens.drop place) ∧ Offends tokens place fault := by
  obtain ⟨tokens, found⟩ := exists_of_is_ok (tokenize "if (a) b; else -c + d = e;") (by decide +kernel)
  have failed : parse SExpr.actions "if (a) b; else -c + d = e;" = .error (.grammar .invalidTarget) :=
    eq_error_of_fails_with _ _ (by decide +kernel)
  obtain ⟨place, fault, after, same, run, left, offends⟩ :=
    failure_is_first_offense _ tokens SExpr.actions _ found (.inr rfl) failed nofun
  exact ⟨tokens, place, fault, after, found, failed, nofun, same, run, left, offends⟩

end ScriptFront
