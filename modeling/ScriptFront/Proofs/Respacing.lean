import ScriptFront.Proofs.Replay
import ScriptFront.Proofs.Separators
import ScriptFront.SExpr.Actions
import ScriptFront.Tree.Actions

set_option autoImplicit false

/-! White space and comments do not matter: tokens with other separators between them are parsed to the
same result. -/

namespace ScriptFront

-- Another text of the same tokens has the same kinds and texts in the same order, and in every output
-- form the same result, up to the offset of an error.
theorem separators_do_not_matter (source : String) (tokens : List Token) (first : List Skip)
    (items : List (Token × List Skip)) (found : tokenize source = .ok tokens)
    (same : items.map Prod.fst = tokens) (spaced : Spaced items) :
    (∃ tokens', tokenize (String.ofList (separatorText first ++ spacedText items)) = .ok tokens' ∧
      tokens'.map Token.lexeme = tokens.map Token.lexeme) ∧
    ∀ act, (parse act (String.ofList (separatorText first ++ spacedText items))).mapError (Error.movedTo 0) =
      (parse act source).mapError (Error.movedTo 0) := by
  have spelled : ∀ item ∈ items, item.1.wellSpelled = true := fun item member =>
    well_spelled_of_tokenize source tokens found item.1 (same ▸ List.mem_map_of_mem member)
  obtain ⟨tokens', found', lexemes⟩ := tokenize_spaced first items spelled spaced
  have equal : tokens'.map Token.lexeme = tokens.map Token.lexeme := by
    rw [lexemes, ← same, List.map_map]
    rfl
  refine ⟨⟨tokens', found', equal⟩, fun act => ?_⟩
  obtain ⟨begun, filled, offers⟩ := offers_of_tokenize source tokens found
  obtain ⟨begun', filled', offers'⟩ := offers_of_tokenize _ tokens' found'
  exact parse_from_same_lexemes act maxNesting _ _ begun begun' tokens tokens' filled filled' offers offers' equal

-- A division by a text that looks like a comment, and quotes in comments. In both texts the second name
-- is not expected.
theorem separators_do_not_matter_at_division :
    ∃ tokens tokens' : List Token, tokenize "a/'//'/b c;" = .ok tokens ∧
      tokenize "// it's\n a/*'*// // \"\n'//'\t/ /***/b//\nc\u3000;/*/*/" = .ok tokens' ∧
      tokens'.map Token.lexeme = tokens.map Token.lexeme ∧
      ∀ act, (parse act "// it's\n a/*'*// // \"\n'//'\t/ /***/b//\nc\u3000;/*/*/").mapError (Error.movedTo 0) =
        (parse act "a/'//'/b c;").mapError (Error.movedTo 0) := by
  have found : tokenize "a/'//'/b c;" = .ok
      [⟨.identifier, "a", ⟨0, 1⟩⟩, ⟨.multiplicative, "/", ⟨1, 2⟩⟩, ⟨.string, "'//'", ⟨2, 6⟩⟩,
        ⟨.multiplicative, "/", ⟨6, 7⟩⟩, ⟨.identifier, "b", ⟨7, 8⟩⟩, ⟨.identifier, "c", ⟨9, 10⟩⟩,
        ⟨.mark .semicolon, ";", ⟨10, 11⟩⟩] := by decide +kernel
  obtain ⟨⟨tokens', found', same⟩, results⟩ := separators_do_not_matter _ _
    [.line " it's".toList (by decide), .blank ' ' (by decide)]
    [(⟨.identifier, "a", ⟨0, 1⟩⟩, [.block ['\x27'] (by decide)]),
      (⟨.multiplicative, "/", ⟨1, 2⟩⟩, [.blank ' ' (by decide), .line " \"".toList (by decide)]),
      (⟨.string, "'//'", ⟨2, 6⟩⟩, [.blank '\t' (by decide)]),
      (⟨.multiplicative, "/", ⟨6, 7⟩⟩, [.blank ' ' (by decide), .block ['*'] (by decide)]),
      (⟨.identifier, "b", ⟨7, 8⟩⟩, [.line [] (by decide)]),
      (⟨.identifier, "c", ⟨9, 10⟩⟩, [.blank '\u3000' (by decide)]),
      (⟨.mark .semicolon, ";", ⟨10, 11⟩⟩, [.block ['/'] (by decide)])]
    found rfl (by simp [Spaced, Skip.isBlank])
  exact ⟨_, tokens', found, found', same, results⟩

end ScriptFront
