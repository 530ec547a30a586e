import ScriptFront.Proofs.PrintedStatements
import ScriptFront.Proofs.Replay

set_option autoImplicit false

/-! The text of a well formed tree is parsed to the tree, if it is not nested too deep. -/

namespace ScriptFront

open Parse

-- The tokens of a program are parsed to the program exactly if the limit allows for its levels.
theorem parse_from_printed (fenced : Bool) (program : Program)
    (wellFormed : program.isWellFormed Binary64.isSafeNatural = true) (limit : Nat) :
    (program.levels fenced ≤ limit →
      ∃ found, parseFrom Program.actions limit (program.tokens fenced) = .ok found ∧ found.same program = true) ∧
    (limit < program.levels fenced →
      parseFrom Program.actions limit (program.tokens fenced) = .error (.grammar (.nestingTooDeep limit))) := by
  obtain ⟨proper, nearest⟩ := Bool.and_eq_true_iff.mp wellFormed
  obtain ⟨begun, filled, offers⟩ := offers_list (program.tokens fenced)
  have taken : Meets limit (program.levels fenced ≤ limit)
      (Grammar.statements Program.actions (Grammar.trees (List Token) limit limit) none)
      (program.tokens fenced ++ []) [] fun body => sameStatements body program.body = true :=
    meets_statements program.body (statements_parsed program.body proper nearest) limit [] none (.inl rfl) rfl
  rw [List.append_nil] at taken
  rcases parse_from_taken limit _ begun _ filled offers _ taken with ⟨body, parsed, enough, same⟩ | ⟨short, stopped⟩
  · exact ⟨fun _ => ⟨⟨body⟩, parsed, same⟩, fun short => absurd enough (by omega)⟩
  · exact ⟨fun enough => absurd enough short, fun _ => stopped⟩

-- The text of tokens is parsed as the tokens are.
theorem parse_written (act : Actions) (tokens : List Token) (spelled : WellSpelled tokens) :
    (parse act (" ".intercalate (tokens.map Token.text))).mapError (Error.movedTo 0) =
      (parseFrom act maxNesting tokens).mapError (Error.movedTo 0) := by
  obtain ⟨found, read, lexemes⟩ := tokenize_written tokens spelled
  obtain ⟨begun, filled, offers⟩ := offers_list tokens
  obtain ⟨begun', filled', offers'⟩ := offers_of_tokenize (" ".intercalate (tokens.map Token.text)) found read
  exact parse_from_same_lexemes act maxNesting tokens (Tokenizer.ofSource (" ".intercalate (tokens.map Token.text)))
    begun begun' tokens found filled filled' offers offers' lexemes

theorem parse_written_ok (act : Actions) (tokens : List Token) (spelled : WellSpelled tokens) (p : act.Program)
    (parsed : parseFrom act maxNesting tokens = .ok p) :
    parse act (" ".intercalate (tokens.map Token.text)) = .ok p := by
  have moved := parse_written act tokens spelled
  rw [parsed] at moved
  cases result : parse act (" ".intercalate (tokens.map Token.text)) with
  | ok p' =>
      rw [result] at moved
      injection moved with equal
      rw [equal]
  | error fault =>
      rw [result] at moved
      cases moved

-- Every well formed tree has a source text that is parsed to it, up to the nesting limit.
theorem printed_program_parsed (fenced : Bool) (program : Program)
    (wellFormed : program.isWellFormed Binary64.isSafeNatural = true) :
    (program.levels fenced ≤ maxNesting →
      ∃ found, parse Program.actions (program.text fenced) = .ok found ∧ found.same program = true) ∧
    (maxNesting < program.levels fenced →
      parse Program.actions (program.text fenced) = .error (.grammar (.nestingTooDeep maxNesting))) := by
  have spelled : WellSpelled (program.tokens fenced) :=
    statements_spelled _ fenced program.body (Bool.and_eq_true_iff.mp wellFormed).1
  obtain ⟨shallow, deep⟩ := parse_from_printed fenced program wellFormed maxNesting
  constructor
  · intro enough
    obtain ⟨found, parsed, same⟩ := shallow enough
    exact ⟨found, parse_written_ok Program.actions _ spelled found parsed, same⟩
  · intro short
    have moved := parse_written Program.actions _ spelled
    change (parse Program.actions (program.text fenced)).mapError _ = _ at moved
    rw [deep short] at moved
    cases result : parse Program.actions (program.text fenced) with
    | ok found =>
        rw [result] at moved
        cases moved
    | error fault =>
        rw [result] at moved
        injection moved with equal
        rw [fault.moved_too_deep 0 maxNesting equal]

-- The first conditional has the second `else`, and one quote is a text between two of the other. The
-- condition gets a second pair of parentheses where those are fenced. In the second program 65 statements
-- are open at once.
theorem printed_program_parsed_at_else :
    (∃ program : Program,
      program.text false = "if ( ( - a ) - 9007199254740991 ) if ( b ) while ( this ) \x7b \x7d else ; else " ++
        "for ( let i , s = \"it's\" ; ; ( ( super ( 0 ) ) [ '\"' ] ) += ( new ( c . d ) ( ( e && f ) ) ) ) " ++
        "if ( g ) ;" ∧
      program.text true = "if ( ( ( - a ) - 9007199254740991 ) ) if ( b ) while ( this ) \x7b \x7d else ; else " ++
        "for ( let i , s = \"it's\" ; ; ( ( ( super ( 0 ) ) [ '\"' ] ) += ( new ( c . d ) ( ( e && f ) ) ) ) ) " ++
        "if ( g ) ;" ∧
      program.isWellFormed Binary64.isSafeNatural = true ∧
      ∀ fenced, program.levels fenced = (if fenced then 9 else 8) ∧
        ∃ found, parse Program.actions (program.text fenced) = .ok found ∧ found.same program = true) ∧
    ∃ program : Program, program.isWellFormed Binary64.isSafeNatural = true ∧ program.levels false = 65 ∧
      parse Program.actions (program.text false) = .error (.grammar (.nestingTooDeep maxNesting)) := by
  constructor
  · refine
      ⟨⟨[.conditional
          (.binary .subtract (.unary .minus (.identifier ⟨"a"⟩)) (.literal (.number (.ofNat 9007199254740991))))
          (.conditional (.identifier ⟨"b"⟩) (.whileLoop .this (.block [])) (some .empty))
          (some (.forLoop
            (some (.variables [⟨⟨"i"⟩, none⟩, ⟨⟨"s"⟩, some (.literal (.string "it's"))⟩])) none
            (some (.assignment .addAssign
              (.member (.computed (.call .super [.literal (.number (.ofNat 0))]) (.literal (.string "\""))))
              (.new (.member (.named (.identifier ⟨"c"⟩) ⟨"d"⟩))
                [.logical .and (.identifier ⟨"e"⟩) (.identifier ⟨"f"⟩)])))
            (.conditional (.identifier ⟨"g"⟩) .empty none)))]⟩,
        by decide +kernel, by decide +kernel, by decide +kernel, fun fenced => ⟨?_, ?_⟩⟩
    · cases fenced <;> decide +kernel
    · exact (printed_program_parsed fenced _ (by decide +kernel)).1 (by cases fenced <;> decide +kernel)
  · exact ⟨⟨[Nat.repeat (fun s => .block [s]) 64 .empty]⟩, by decide +kernel, by decide +kernel,
      (printed_program_parsed false _ (by decide +kernel)).2 (by decide +kernel)⟩

end ScriptFront
