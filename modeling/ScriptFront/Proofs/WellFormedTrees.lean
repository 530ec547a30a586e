import ScriptFront.Parse
import ScriptFront.Proofs.AcceptedLanguage
import ScriptFront.Proofs.NearestElse
import ScriptFront.Proofs.ProperTrees

set_option autoImplicit false

/-! Every tree that the parser gives is well formed. -/

namespace ScriptFront

open Parse

-- What is parsed is derived from well spelled tokens, and all of the text is read for them.
theorem derivation_of_parse (source : String) (p : Program) (parsed : parse Program.actions source = .ok p) :
    ∃ tokens, WellSpelled tokens ∧ Phrase.Program Program.actions tokens p := by
  unfold parse parseFrom at parsed
  split at parsed
  · rename_i p' s' run
    injection parsed with same
    subst same
    obtain ⟨_, begun, filled, rest⟩ := (bind_ok_iff _ _ _ _ _).mp run
    obtain ⟨next, after, found, rfl⟩ := (refill_ok_iff _ _).mp filled
    obtain ⟨body, last, list, ended⟩ := (bind_ok_iff _ _ _ _ _).mp rest
    injection ended with built
    obtain ⟨u, derived, read⟩ := Grammar.yields_statements (Grammar.nested_sound maxNesting maxNesting) none
      _ body last list
    exact ⟨u, well_spelled_of_reads _ after next u _ found read, built ▸ .intro u body derived⟩
  · contradiction

theorem elses_nearest_of_parse (source : String) (p : Program)
    (parsed : parse Program.actions source = .ok p) : elsesNearest p.body = true := by
  unfold parse parseFrom at parsed
  split at parsed
  · rename_i p' s' run
    injection parsed with same
    subst same
    have attached := Grammar.nested_leaves (σ := Tokenizer) maxNesting maxNesting
    have nearest : Leaves (fun _ => True) (Grammar.program (σ := Tokenizer) Program.actions maxNesting)
        fun p _ => elsesNearest p.body = true := by
      refine leaves_then fun _ => ?_
      refine leaves_bind (Grammar.leaves_statements attached none) fun body => ?_
      exact leaves_pure fun _ nearest => nearest
    exact nearest _ p' s' trivial run
  · contradiction

-- In a tree that is parsed names are no keywords, `super` is only called, numbers are not negative, no
-- string has both quotes, no declaration is empty, and every `else` is with the nearest conditional.
theorem parsed_tree_well_formed (source : String) (p : Program)
    (parsed : parse Program.actions source = .ok p) : p.isWellFormed Binary64.isNonnegative = true := by
  obtain ⟨tokens, spelled, derived⟩ := derivation_of_parse source p parsed
  exact Bool.and_eq_true_iff.mpr
    ⟨program_proper tokens p derived spelled, elses_nearest_of_parse source p parsed⟩

-- Each `else` could belong to another conditional, and a member is taken of a call of `super`.
theorem parsed_tree_well_formed_at_loops :
    ∃ p, parse Program.actions
        "if (a) for (let i, s = \"it's\"; ;) if (x) while (y) if (null) ; else (super(0))[1] = -i; else new f();" =
          .ok p ∧
      p.isWellFormed Binary64.isNonnegative = true := by
  obtain ⟨p, parsed⟩ := exists_of_is_ok (parse Program.actions
    "if (a) for (let i, s = \"it's\"; ;) if (x) while (y) if (null) ; else (super(0))[1] = -i; else new f();")
    (by decide +kernel)
  exact ⟨p, parsed, parsed_tree_well_formed _ p parsed⟩

end ScriptFront
