import ScriptFront.Proofs.StatementsTaken
import ScriptFront.Tree.Actions

set_option autoImplicit false

/-! The parser accepts exactly the programs of the grammar, as far as the nesting limit lets it. -/

namespace ScriptFront

open Parse

variable {σ : Type} [TokenSource σ] {act : Actions}

namespace Grammar

-- A list of statements without a closing token ends at the end of the input.
theorem statements_end (inner : Nested σ act) (sound : inner.Sound) (s s' : ParseState σ)
    (body : List act.Statement) (run : statements act inner none s = .ok body s') : s'.lookahead = none := by
  obtain ⟨done, after, loop, ended⟩ := (bind_ok_iff _ _ _ _ _).mp run
  have stops := repeat_while_stops _ _ rfl (lowers_statement_step sound) [] done s after loop
  injection ended with _ same
  subst same
  cases ahead : after.lookahead with
  | none => rfl
  | some t => simp [ahead] at stops

end Grammar

-- A program that is found is derived from all of the tokens.
theorem parse_from_sound (limit : Nat) (source : σ) (begun : ParseState σ) (tokens : List Token)
    (p : act.Program) (filled : refill (.start source) = .ok () begun)
    (offers : Offers begun.ahead tokens) (parsed : parseFrom act limit source = .ok p) :
    Phrase.Program act tokens p := by
  unfold parseFrom at parsed
  split at parsed
  · rename_i p' s' run
    injection parsed with same
    subst same
    obtain ⟨_, begun', filled', rest⟩ := (bind_ok_iff _ _ _ _ _).mp run
    injection filled.symm.trans filled' with _ same
    subst same
    obtain ⟨body, after, list, ended⟩ := (bind_ok_iff _ _ _ _ _).mp rest
    injection ended with built _
    have sound : (Grammar.nested (σ := σ) act limit limit).Sound := Grammar.nested_sound limit limit
    obtain ⟨u, derived, read⟩ := Grammar.yields_statements sound none begun body after list
    obtain ⟨left, split, offers'⟩ := offers_after _ _ tokens u offers read
    have atEnd := Grammar.statements_end _ sound begun after body list
    rw [ParseState.ahead, atEnd] at offers'
    rw [offers_end _ left offers', List.append_nil] at split
    rw [split, ← built]
    exact .intro u body derived
  · contradiction

-- A program that is derived is found, unless the nesting limit stops the parse.
theorem parse_from_complete (names : act.NamesPlaces) (limit : Nat) (source : σ) (begun : ParseState σ)
    (tokens : List Token) (p : act.Program) (filled : refill (.start source) = .ok () begun)
    (offers : Offers begun.ahead tokens) (derived : Phrase.Program act tokens p) :
    (∃ p', parseFrom act limit source = .ok p') ∨
      parseFrom act limit source = .error (.grammar (.nestingTooDeep limit)) := by
  cases derived with
  | intro body list =>
      have sentences : Sentences σ act limit tokens := Phrase.statements_taken names tokens body list
      have taken : Takes limit (Grammar.statements act (Grammar.nested (σ := σ) act limit limit) none) (tokens ++ [])
          (leaving [] fun _ => True) := Grammar.takes_statements names limit none (.inl rfl) tokens [] sentences rfl
      rw [List.append_nil] at taken
      rcases parse_from_taken limit source begun tokens filled offers _ taken with ⟨list, parsed, _⟩ | ⟨_, stopped⟩
      · exact .inl ⟨_, parsed⟩
      · exact .inr stopped

theorem Program.names_places : Program.actions.NamesPlaces where
  member _ _ := rfl
  computedMember _ _ := rfl
  new _ _ := rfl
  call _ _ := rfl
  unary _ _ := rfl
  assignment _ _ _ := rfl
  build rung text build left right built := by
    cases rung <;> obtain ⟨operator, _, rfl⟩ := Option.map_eq_some_iff.mp built <;> rfl

-- For a source without a lexical error, a tree comes from a derivation of all its tokens, and a
-- derivation lets the source be parsed, unless it is nested too deep.
theorem accepts_grammar (source : String) (tokens : List Token) (found : tokenize source = .ok tokens) :
    (∀ p, parse Program.actions source = .ok p → Phrase.Program Program.actions tokens p) ∧
      ((∃ p, Phrase.Program Program.actions tokens p) →
        parse Program.actions source ≠ .error (.grammar (.nestingTooDeep maxNesting)) →
        ∃ p, parse Program.actions source = .ok p) := by
  obtain ⟨begun, filled, offers⟩ := offers_of_tokenize source tokens found
  constructor
  · intro p parsed
    exact parse_from_sound maxNesting _ begun tokens p filled offers parsed
  · rintro ⟨p, derived⟩ shallow
    rcases parse_from_complete Program.names_places maxNesting _ begun tokens p filled offers derived with
      parsed | deep
    · exact parsed
    · exact absurd deep shallow

theorem exists_of_is_ok {ε α : Type} (result : Except ε α) (succeeds : result.isOk = true) :
    ∃ a, result = .ok a := by
  cases result with
  | ok a => exact ⟨a, rfl⟩
  | error fault => contradiction

-- Both conditionals could have the `else`, and the sum could end the operand of the minus.
theorem accepts_grammar_at_ambiguity :
    ∃ tokens p, tokenize "if (a) if (b) -c + d; else x = y;" = .ok tokens ∧
      parse Program.actions "if (a) if (b) -c + d; else x = y;" = .ok p ∧
      Phrase.Program Program.actions tokens p := by
  obtain ⟨tokens, found⟩ :=
    exists_of_is_ok (tokenize "if (a) if (b) -c + d; else x = y;") (by decide +kernel)
  obtain ⟨p, parsed⟩ :=
    exists_of_is_ok (parse Program.actions "if (a) if (b) -c + d; else x = y;") (by decide +kernel)
  exact ⟨tokens, p, found, parsed, (accepts_grammar _ tokens found).1 p parsed⟩

end ScriptFront
