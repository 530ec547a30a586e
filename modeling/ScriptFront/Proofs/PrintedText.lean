import ScriptFront.Proofs.Printed
import ScriptFront.Proofs.Separators
import ScriptFront.Proofs.WellFormed

set_option autoImplicit false

/-! The text of a well formed tree is read back as the tokens that it was made of. -/

namespace ScriptFront

section Spelling

@[simp] theorem mark_spelled (m : Mark) : m.token.wellSpelled = true :=
  beq_self_eq_true _

@[simp] theorem keyword_spelled (k : Keyword) : k.token.wellSpelled = true :=
  beq_self_eq_true _

@[simp] theorem binary_operator_spelled (operator : BinaryOperator) :
    (operator.rung.kind.written (Spelled.spelling operator)).wellSpelled = true := by
  cases operator <;> decide

@[simp] theorem logical_operator_spelled (operator : LogicalOperator) :
    (operator.rung.kind.written (Spelled.spelling operator)).wellSpelled = true := by
  cases operator <;> decide

@[simp] theorem unary_operator_spelled (operator : UnaryOperator) :
    (operator.kind.written (Spelled.spelling operator)).wellSpelled = true := by
  cases operator <;> decide

@[simp] theorem assignment_operator_spelled (operator : AssignmentOperator) :
    (operator.kind.written (Spelled.spelling operator)).wellSpelled = true := by
  cases operator <;> decide

@[simp] theorem equals_spelled : (TokenKind.simpleAssign.written "=").wellSpelled = true := by
  decide

@[simp] theorem well_spelled_parenthesized (u : List Token) :
    WellSpelled (parenthesized u) ↔ WellSpelled u := by
  simp [parenthesized]

@[simp] theorem well_spelled_braced (u : List Token) : WellSpelled (braced u) ↔ WellSpelled u := by
  simp [braced]

@[simp] theorem well_spelled_enclosed (compound : Bool) (u : List Token) :
    WellSpelled (enclosed compound u) ↔ WellSpelled u := by
  cases compound <;> simp [enclosed]

theorem well_spelled_commas (items : List (List Token)) (each : ∀ u ∈ items, WellSpelled u) :
    WellSpelled (commas items) := by
  induction items with
  | nil => exact well_spelled_nil
  | cons u rest ih =>
      cases rest with
      | nil => simpa [commas] using each u
      | cons v rest =>
          have later : WellSpelled (commas (v :: rest)) :=
            ih fun w member => each w (List.mem_cons_of_mem u member)
          have first : WellSpelled u := each u List.mem_cons_self
          simp only [commas, List.intercalate_cons_cons] at later ⊢
          simp [first, later]

end Spelling

section Proper

variable (number : Binary64 → Bool)

theorem identifier_spelled (id : Identifier) (proper : id.isProper = true) : id.token.wellSpelled = true :=
  proper

-- A text without one of the quotes stands between two of these.
theorem quote_apart (text : String) (proper : (Literal.string text).isProper number = true) :
    quoteOf text ∉ text.toList := by
  change (!(text.toList.contains '"' && text.toList.contains '\x27')) = true at proper
  unfold quoteOf
  split
  · rename_i double
    rw [double] at proper
    simpa using proper
  · rename_i plain
    simpa using plain

theorem literal_spelled (value : Literal) (proper : value.isProper number = true) :
    value.token.wellSpelled = true := by
  cases value with
  | number value =>
      have digits : ∀ c ∈ Nat.toDigits 10 value.natural, c.isDigit = true := fun c member =>
        Nat.isDigit_of_mem_toDigits (by decide) (by decide) member
      simpa [Literal.token, Token.wellSpelled, TokenKind.hasLexeme, Nat.toDigits_ne_nil] using digits
  | string text =>
      have apart := quote_apart number text proper
      have quote : quoteOf text = '"' ∨ quoteOf text = '\x27' := by
        unfold quoteOf
        split
        · exact .inr rfl
        · exact .inl rfl
      simpa [Literal.token, Token.wellSpelled, TokenKind.hasLexeme, isQuoted, quote] using apart
  | boolean value => cases value <;> exact keyword_spelled _
  | null => exact keyword_spelled .nullWord

mutual
theorem expression_spelled (e : Expression) (proper : e.isProper number = true) : WellSpelled e.tokens := by
  match e with
  | .identifier id => simpa [Expression.tokens] using identifier_spelled id proper
  | .literal value => simpa [Expression.tokens] using literal_spelled number value proper
  | .this => simp [Expression.tokens]
  | .super => simp [Expression.tokens]
  | .new callee arguments =>
      simp only [Expression.isProper, Bool.and_eq_true] at proper
      have list := well_spelled_commas _ (operands_spelled arguments proper.2)
      simp [Expression.tokens, expression_spelled callee proper.1, list]
  | .call callee arguments =>
      simp only [Expression.isProper, Bool.and_eq_true, Bool.or_eq_true] at proper
      have list := well_spelled_commas _ (operands_spelled arguments proper.2)
      have called : WellSpelled callee.tokens := by
        rcases proper.1 with base | proper
        · cases callee <;> first | contradiction | simp [Expression.tokens]
        · exact expression_spelled callee proper
      simp [Expression.tokens, called, list]
  | .member place => exact member_spelled place proper
  | .assignment operator target value =>
      simp only [Expression.isProper, Bool.and_eq_true] at proper
      simp [Expression.tokens, target_spelled target proper.1, expression_spelled value proper.2]
  | .binary operator left right =>
      simp only [Expression.isProper, Bool.and_eq_true] at proper
      simp [Expression.tokens, expression_spelled left proper.1, expression_spelled right proper.2]
  | .logical operator left right =>
      simp only [Expression.isProper, Bool.and_eq_true] at proper
      simp [Expression.tokens, expression_spelled left proper.1, expression_spelled right proper.2]
  | .unary operator argument => simp [Expression.tokens, expression_spelled argument proper]

theorem member_spelled (place : Member) (proper : place.isProper number = true) : WellSpelled place.tokens := by
  match place with
  | .named object property =>
      simp only [Member.isProper, Bool.and_eq_true] at proper
      simp [Member.tokens, expression_spelled object proper.1, identifier_spelled property proper.2]
  | .computed object property =>
      simp only [Member.isProper, Bool.and_eq_true] at proper
      simp [Member.tokens, expression_spelled object proper.1, expression_spelled property proper.2]

theorem target_spelled (target : Target) (proper : target.isProper number = true) :
    WellSpelled target.tokens := by
  match target with
  | .identifier id => simpa [Target.tokens] using identifier_spelled id proper
  | .member place => simp [Target.tokens, member_spelled place proper]

theorem operands_spelled (list : List Expression) (proper : properExpressions number list = true) :
    ∀ u ∈ operandTokens list, WellSpelled u := by
  match list with
  | [] => simp [operandTokens]
  | e :: rest =>
      simp only [properExpressions, Bool.and_eq_true] at proper
      simpa [operandTokens, expression_spelled e proper.1] using operands_spelled rest proper.2
end

variable (fenced : Bool)

theorem whole_spelled (e : Expression) (proper : e.isProper number = true) :
    WellSpelled (e.wholeTokens fenced) := by
  simp [Expression.wholeTokens, expression_spelled number e proper]

theorem declaration_spelled (declaration : VariableDeclaration) (proper : declaration.isProper number = true) :
    WellSpelled (declaration.tokens fenced) := by
  simp only [VariableDeclaration.isProper, Bool.and_eq_true] at proper
  obtain ⟨id, init⟩ := declaration
  cases init with
  | none => simp [VariableDeclaration.tokens, identifier_spelled id proper.1]
  | some value =>
      simp [VariableDeclaration.tokens, identifier_spelled id proper.1,
        whole_spelled number fenced value proper.2]

theorem variables_spelled (declarations : List VariableDeclaration)
    (proper : properVariables number declarations = true) :
    WellSpelled (variableTokens fenced declarations) := by
  simp only [properVariables, Bool.and_eq_true, List.all_eq_true] at proper
  have list : WellSpelled (commas (declarations.map (VariableDeclaration.tokens fenced))) := by
    apply well_spelled_commas
    intro u member
    obtain ⟨declaration, among, rfl⟩ := List.mem_map.mp member
    exact declaration_spelled number fenced declaration (proper.2 declaration among)
  simp [variableTokens, list]

theorem for_init_spelled (init : ForInit) (proper : init.isProper number = true) :
    WellSpelled (init.tokens fenced) := by
  match init with
  | .variables declarations => exact variables_spelled number fenced declarations proper
  | .expression value => exact whole_spelled number fenced value proper

-- A part that may be missing.
theorem optional_spelled {α : Type} (tokens : α → List Token) (isProper : α → Bool) (part : Option α)
    (each : ∀ a, isProper a = true → WellSpelled (tokens a)) (proper : part.all isProper = true) :
    WellSpelled (part.elim [] tokens) := by
  cases part with
  | none => exact well_spelled_nil
  | some a => exact each a proper

theorem names_spelled (names : List Identifier) (proper : names.all Identifier.isProper = true) :
    WellSpelled (commas (names.map fun id => [id.token])) := by
  apply well_spelled_commas
  intro u member
  obtain ⟨id, among, rfl⟩ := List.mem_map.mp member
  simpa using identifier_spelled id (List.all_eq_true.mp proper id among)

mutual
theorem statement_spelled (s : Statement) (proper : s.isProper number = true) : WellSpelled (s.tokens fenced) := by
  match s with
  | .block body => simpa [Statement.tokens] using statements_spelled body proper
  | .empty => simp [Statement.tokens]
  | .expression value => simpa [Statement.tokens] using whole_spelled number fenced value proper
  | .variables declarations => simpa [Statement.tokens] using variables_spelled number fenced declarations proper
  | .conditional test consequent none =>
      simp only [Statement.isProper, Bool.and_eq_true] at proper
      simp [Statement.tokens, whole_spelled number fenced test proper.1, statement_spelled consequent proper.2]
  | .conditional test consequent (some alternate) =>
      simp only [Statement.isProper, Bool.and_eq_true] at proper
      simp [Statement.tokens, whole_spelled number fenced test proper.1.1,
        statement_spelled consequent proper.1.2, statement_spelled alternate proper.2]
  | .whileLoop test body =>
      simp only [Statement.isProper, Bool.and_eq_true] at proper
      simp [Statement.tokens, whole_spelled number fenced test proper.1, statement_spelled body proper.2]
  | .doWhileLoop body test =>
      simp only [Statement.isProper, Bool.and_eq_true] at proper
      simp [Statement.tokens, whole_spelled number fenced test proper.2, statement_spelled body proper.1]
  | .forLoop init test update body =>
      simp only [Statement.isProper, Bool.and_eq_true] at proper
      have first := optional_spelled _ _ init (for_init_spelled number fenced) proper.1.1.1
      have second := optional_spelled _ _ test (whole_spelled number fenced) proper.1.1.2
      have third := optional_spelled _ _ update (whole_spelled number fenced) proper.1.2
      simp [Statement.tokens, first, second, third, statement_spelled body proper.2]
  | .function name params body =>
      simp only [Statement.isProper, Bool.and_eq_true] at proper
      simp [Statement.tokens, identifier_spelled name proper.1.1, names_spelled params proper.1.2,
        statements_spelled body proper.2]
  | .returning argument =>
      have spelled := optional_spelled _ _ argument (whole_spelled number fenced) proper
      simp [Statement.tokens, spelled]
  | .classDeclaration id superClass body =>
      simp only [Statement.isProper, Bool.and_eq_true] at proper
      have parent := optional_spelled (fun parent => [Keyword.extendsWord.token, parent.token]) _ superClass
        (fun parent proper => by simp [identifier_spelled parent proper]) proper.1.2
      simp [Statement.tokens, identifier_spelled id proper.1.1, parent, statements_spelled body proper.2]

theorem statements_spelled (list : List Statement) (proper : properStatements number list = true) :
    WellSpelled (statementTokens fenced list) := by
  match list with
  | [] => exact well_spelled_nil
  | s :: rest =>
      simp only [properStatements, Bool.and_eq_true] at proper
      simp [statementTokens, statement_spelled s proper.1, statements_spelled rest proper.2]
end

end Proper

section Spaces

-- The tokens with a space behind each but the last.
def withSpaces : List Token → List (Token × List Skip)
  | [] => []
  | [t] => [(t, [])]
  | t :: next :: rest => (t, [.blank ' ' (by decide)]) :: withSpaces (next :: rest)

theorem with_spaces_tokens (tokens : List Token) : (withSpaces tokens).map Prod.fst = tokens := by
  fun_induction withSpaces tokens with
  | case1 => rfl
  | case2 t => rfl
  | case3 t next rest ih => rw [List.map_cons, ih]

theorem with_spaces_spaced (tokens : List Token) : Spaced (withSpaces tokens) := by
  fun_induction withSpaces tokens with
  | case1 => trivial
  | case2 t => simp [Spaced]
  | case3 t next rest ih => exact ⟨fun _ => List.cons_ne_nil _ _, by simp [Skip.isBlank], ih⟩

theorem with_spaces_text (tokens : List Token) :
    spacedText (withSpaces tokens) = [' '].intercalate (tokens.map fun t => t.text.toList) := by
  fun_induction withSpaces tokens with
  | case1 => rfl
  | case2 t => simp [spacedText, separatorText]
  | case3 t next rest ih =>
      rw [spacedText, ih]
      simp [separatorText, Skip.text]

end Spaces

-- A text with a space between any two tokens is cut into these tokens.
theorem tokenize_written (tokens : List Token) (spelled : WellSpelled tokens) :
    ∃ found, tokenize (" ".intercalate (tokens.map Token.text)) = .ok found ∧
      found.map Token.lexeme = tokens.map Token.lexeme := by
  have each : ∀ item ∈ withSpaces tokens, item.1.wellSpelled = true := by
    intro item member
    apply spelled
    rw [← with_spaces_tokens tokens]
    exact List.mem_map_of_mem member
  obtain ⟨found, read, lexemes⟩ := tokenize_spaced [] (withSpaces tokens) each (with_spaces_spaced tokens)
  have written : String.ofList (separatorText [] ++ spacedText (withSpaces tokens)) =
      " ".intercalate (tokens.map Token.text) := by
    rw [with_spaces_text, ← String.toList_inj, String.toList_ofList, String.toList_intercalate, List.map_map]
    rfl
  refine ⟨found, written ▸ read, ?_⟩
  have same := congrArg (List.map Token.lexeme) (with_spaces_tokens tokens)
  rw [lexemes, ← same, List.map_map]
  rfl

theorem tokenize_text (fenced : Bool) (program : Program) (number : Binary64 → Bool)
    (proper : program.isWellFormed number = true) :
    ∃ found, tokenize (program.text fenced) = .ok found ∧
      found.map Token.lexeme = (program.tokens fenced).map Token.lexeme :=
  tokenize_written (program.tokens fenced)
    (statements_spelled number fenced program.body (Bool.and_eq_true_iff.mp proper).1)

end ScriptFront
