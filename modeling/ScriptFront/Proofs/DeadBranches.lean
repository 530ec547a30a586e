import ScriptFront.Proofs.Fallbacks
import ScriptFront.Proofs.NestingGuard
import ScriptFront.Proofs.TokenTexts

set_option autoImplicit false

/-! The branches that no parse comes to. Every token that is ahead was given by the tokenizer and has a text of
its kind, so a parser with fallbacks goes the same way as one without them, whatever the fallbacks do, and
only some of the errors are ever reported. -/

namespace ScriptFront

open Parse

-- The errors of a parse with a nesting limit.
inductive Reported (limit : Nat) : Error → Prop where
  | lexical (fault : LexicalError) : Reported limit (.lexical fault)
  | unexpectedEnd (expected : TokenKind) : Reported limit (.grammar (.unexpectedEnd expected))
  | unexpectedToken (found : String) (expected : TokenKind) (offset : Nat) :
      Reported limit (.grammar (.unexpectedToken found expected offset))
  | invalidTarget : Reported limit (.grammar .invalidTarget)
  | unexpectedPrimary (found : Option String) : Reported limit (.grammar (.unexpectedPrimary found))
  | nestingTooDeep : Reported limit (.grammar (.nestingTooDeep limit))

-- The text of a token is one of its kind, in front of some text.
def Token.Lexed (token : Token) : Prop :=
  ∃ rest, token.kind.Fits token.text rest

def ParseState.Lexed (s : ParseState Tokenizer) : Prop :=
  ∀ token, s.lookahead = some token → token.Lexed

-- Operators of a family are spelled by all texts of a kind.
structure Knows (ω : Type) [Spelled ω] (kind : TokenKind) : Prop where
  operator : ∀ text rest, kind.Fits text rest → text ∈ kind.operators
  known : ∀ text ∈ kind.operators, (Spelled.ofSpelling? text : Option ω).isSome = true

-- Each family knows the operators of the kinds that stand at its places.

theorem knows_binary (kind : TokenKind) (place : kind ∈ [.equality, .relational, .additive, .multiplicative]) :
    Knows BinaryOperator kind := by
  simp only [List.mem_cons, List.not_mem_nil, or_false] at place
  rcases place with rfl | rfl | rfl | rfl <;> exact ⟨fun _ _ fits => fits, by decide⟩

theorem knows_logical (kind : TokenKind) (place : kind ∈ [.logicalAnd, .logicalOr]) : Knows LogicalOperator kind := by
  simp only [List.mem_cons, List.not_mem_nil, or_false] at place
  rcases place with rfl | rfl <;> exact ⟨fun _ _ fits => fits, by decide⟩

theorem knows_unary (kind : TokenKind) (place : kind ∈ [.additive, .logicalNot]) : Knows UnaryOperator kind := by
  simp only [List.mem_cons, List.not_mem_nil, or_false] at place
  rcases place with rfl | rfl <;> exact ⟨fun _ _ fits => fits, by decide⟩

theorem knows_assignment (kind : TokenKind) (place : kind ∈ [.simpleAssign, .complexAssign]) :
    Knows AssignmentOperator kind := by
  simp only [List.mem_cons, List.not_mem_nil, or_false] at place
  rcases place with rfl | rfl <;> exact ⟨fun _ _ fits => fits, by decide⟩

theorem operator_known {ω : Type} [Spelled ω] (token : Token) (knows : Knows ω token.kind) (lexed : token.Lexed) :
    ∃ found : ω, Spelled.ofSpelling? token.text = some found := by
  obtain ⟨rest, fits⟩ := lexed
  exact Option.isSome_iff_exists.mp (knows.known token.text (knows.operator token.text rest fits))

theorem value_known (token : Token) (kind : token.kind = .number) (lexed : token.Lexed) :
    ∃ value, digitsValue? token.text.toList = some value := by
  obtain ⟨rest, fits⟩ := lexed
  rw [kind] at fits
  have whole : WholeRun Char.isDigit token.text.toList rest := fits
  have spelled : token.wellSpelled = true := by
    rw [Token.wellSpelled, kind, TokenKind.hasLexeme, whole.inside, Bool.and_true]
    simpa using whole.some
  exact value_of_lexeme token kind spelled

-- The quotes of a string are characters of one byte each.
theorem slice_known (token : Token) (kind : token.kind = .string) (lexed : token.Lexed) :
    Text.slice? token.text.toList 1 (Text.byteLength token.text.toList - 1) =
      some ((token.text.toList.drop 1).dropLast) := by
  obtain ⟨rest, fits⟩ := lexed
  rw [kind] at fits
  obtain ⟨quote, body, known, _, text⟩ := fits
  have narrow : quote.utf8Size = 1 := by rcases known with rfl | rfl <;> rfl
  have parts := Text.slice_of_parts [quote] body [quote]
  have size : Text.byteLength (quote :: (body ++ [quote])) - 1 = Text.byteLength [quote] + Text.byteLength body := by
    simp only [Text.byteLength, Text.byte_length_append, narrow]
    omega
  have first : Text.byteLength [quote] = 1 := by rw [Text.byteLength, narrow, Text.byteLength]
  rw [text, size, List.drop_one, List.tail_cons, List.dropLast_concat, ← parts, first]
  rfl

theorem lexed_of_read (t after : Tokenizer) (token : Token) (found : t.read = .ok (some token) after) :
    token.Lexed := by
  revert found
  induction t using Tokenizer.read_induct with
  | atEnd t nothing => nofun
  | fails t c rest unread missing => nofun
  | takes t kind size matched =>
      intro found
      injection found with same
      obtain rfl := Option.some.inj same
      refine ⟨t.rest.drop size, fits_of_first_match kind _ _ ?_⟩
      have fits := first_match_le t.rest _ size matched
      rw [String.toList_ofList, List.take_append_drop, List.length_take, Nat.min_eq_left fits, matched]
  | skips t size matched ih => exact ih

theorem lexed_of_refill (s after : ParseState Tokenizer) (filled : refill s = .ok () after) : after.Lexed := by
  obtain ⟨next, source, found, rfl⟩ := (refill_ok_iff s after).mp filled
  intro token ahead
  have same : next = some token := ahead
  exact lexed_of_read s.source source token (same ▸ found)

-- A run ends with a token ahead that the tokenizer gave, or with an error that is reported.
def EndsWell {α : Type} (limit : Nat) : EStateM.Result Error (ParseState Tokenizer) α → Prop
  | .ok _ after => after.Lexed
  | .error fault _ => Reported limit fault

-- With a token ahead that the tokenizer gave, `q` does what `p` does, and that ends well. This is no comparison
-- of runs like others: those let an operator be unknown, and a fallback need not take a phrase.
def Mirrors {α : Type} (limit : Nat) (p q : Parse Tokenizer α) : Prop :=
  ∀ s, s.Lexed → q s = p s ∧ EndsWell limit (p s)

namespace Mirrors

variable {α β : Type} {limit : Nat}

theorem pure (a : α) : Mirrors limit (Pure.pure a) (Pure.pure a) :=
  fun _ lexed => ⟨rfl, lexed⟩

theorem fail (fault : GrammarError) (reported : Reported limit (.grammar fault)) :
    Mirrors limit (Parse.fail fault : Parse Tokenizer α) (Parse.fail fault) :=
  fun _ _ => ⟨rfl, reported⟩

theorem bind {p q : Parse Tokenizer α} {f g : α → Parse Tokenizer β} (first : Mirrors limit p q)
    (later : ∀ a, Mirrors limit (f a) (g a)) : Mirrors limit (p >>= f) (q >>= g) := by
  intro s lexed
  obtain ⟨same, ends⟩ := first s lexed
  cases run : p s with
  | ok a after =>
      rw [run] at same ends
      rw [bind_of_ok p f s after a run, bind_of_ok q g s after a same]
      exact later a after ends
  | error fault after =>
      rw [run] at same ends
      rw [bind_of_error p f s after fault run, bind_of_error q g s after fault same]
      exact ⟨rfl, ends⟩

theorem look {f g : Option TokenKind → Parse Tokenizer α} (each : ∀ kind, Mirrors limit (f kind) (g kind)) :
    Mirrors limit (lookaheadKind >>= f) (lookaheadKind >>= g) :=
  fun s lexed => each (s.lookahead.map Token.kind) s lexed

theorem ahead {kind : TokenKind} {f g : Bool → Parse Tokenizer α}
    (each : ∀ answer, Mirrors limit (f answer) (g answer)) :
    Mirrors limit (isAhead kind >>= f) (isAhead kind >>= g) :=
  look fun found => each (found == some kind)

-- The next token is one that the tokenizer gives, whatever was ahead before.
theorem ends_of_refill (s : ParseState Tokenizer) : EndsWell limit (Parse.refill s) := by
  cases filled : Parse.refill s with
  | ok _ after => exact lexed_of_refill s after filled
  | error fault after =>
      unfold Parse.refill at filled
      split at filled
      · contradiction
      · injection filled with same
        exact same ▸ .lexical _

theorem refill : Mirrors limit Parse.refill Parse.refill :=
  fun s _ => ⟨rfl, ends_of_refill s⟩

theorem ends_of_expect (kind : TokenKind) (s : ParseState Tokenizer) (lexed : s.Lexed) :
    EndsWell limit (Parse.expect kind s) := by
  rw [expect_eq]
  cases s.lookahead with
  | none => exact .unexpectedEnd kind
  | some token =>
      dsimp only
      split
      · exact (refill.bind (fun _ => pure token) s lexed).2
      · exact .unexpectedToken token.text kind token.span.start

-- The token that is taken was ahead.
theorem expect {kind : TokenKind} {f g : Token → Parse Tokenizer α}
    (later : ∀ token, token.kind = kind → token.Lexed → Mirrors limit (f token) (g token)) :
    Mirrors limit (Parse.expect kind >>= f) (Parse.expect kind >>= g) := by
  intro s lexed
  have ends : EndsWell limit (Parse.expect kind s) := ends_of_expect kind s lexed
  cases run : Parse.expect kind s with
  | ok token after =>
      rw [run] at ends
      obtain ⟨found, fits, _⟩ := (expect_ok_iff kind s after token).mp run
      rw [bind_of_ok _ f s after token run, bind_of_ok _ g s after token run]
      exact later token fits (lexed token found) after ends
  | error fault after =>
      rw [run] at ends
      rw [bind_of_error _ f s after fault run, bind_of_error _ g s after fault run]
      exact ⟨rfl, ends⟩

theorem unexpectedPrimary : Mirrors limit (Grammar.unexpectedPrimary : Parse Tokenizer α) Grammar.unexpectedPrimary :=
  fun _ _ => ⟨rfl, .unexpectedPrimary _⟩

theorem deeper {p q : Parse Tokenizer α} (inside : Mirrors limit p q) :
    Mirrors limit (Parse.deeper p) (Parse.deeper q) := by
  intro s lexed
  obtain ⟨same, ends⟩ := inside s.enter lexed
  unfold Parse.deeper
  rw [same]
  cases run : p s.enter with
  | ok a after =>
      rw [run] at ends
      exact ⟨rfl, ends⟩
  | error fault after =>
      rw [run] at ends
      exact ⟨rfl, ends⟩

theorem rounds {goesOn : Option TokenKind → Bool} {f g : α → Parse Tokenizer α}
    (each : ∀ a, Mirrors limit (f a) (g a)) (count : Nat) (a : α) :
    Mirrors limit (Parse.rounds goesOn f count a) (Parse.rounds goesOn g count a) := by
  induction count generalizing a with
  | zero => exact pure a
  | succ count ih =>
      refine look fun kind => ?_
      split
      · exact bind (each a) ih
      · exact pure a

theorem repeatWhile {goesOn : Option TokenKind → Bool} {f g : α → Parse Tokenizer α}
    (each : ∀ a, Mirrors limit (f a) (g a)) (a : α) :
    Mirrors limit (Parse.repeatWhile goesOn f a) (Parse.repeatWhile goesOn g a) :=
  fun s => rounds each s.bound a s

theorem commaList {p q : Parse Tokenizer α} (item : Mirrors limit p q) :
    Mirrors limit (Parse.commaList p) (Parse.commaList q) := by
  refine bind item fun first => ?_
  refine bind (repeatWhile (fun done => ?_) [first]) fun items => pure items.reverse
  exact expect fun _ _ _ => bind item fun last => pure (last :: done)

end Mirrors

-- The nested productions do the same.
structure Nested.Mirrors (limit : Nat) {act : Actions} (inner inner' : Nested Tokenizer act) : Prop where
  statement : ScriptFront.Mirrors limit inner.statement inner'.statement
  expression : ScriptFront.Mirrors limit inner.expression inner'.expression
  construction : ScriptFront.Mirrors limit inner.construction inner'.construction

namespace Grammar

variable {act : Actions} {limit : Nat} (fallbacks : Fallbacks Tokenizer act)

theorem mirrors_identifier : Mirrors limit (identifier act) (identifier act) :=
  .expect fun token _ _ => .pure (act.identifier token.text)

theorem mirrors_keyword_expression (keyword : Keyword) (e : act.Expression) :
    Mirrors limit (keywordExpression act keyword e) (keywordExpression act keyword e) :=
  .expect fun _ _ _ => .pure e

-- Where a fallback stands there is nothing to do for it.

theorem mirrors_operator {α ω : Type} [Spelled ω] {f g : ω → Parse Tokenizer α} (token : Token)
    (knows : Knows ω token.kind) (lexed : token.Lexed) (later : ∀ operator, Mirrors limit (f operator) (g operator)) :
    Mirrors limit (operator token >>= f) (fallbacks.spelledOperator token >>= g) := by
  obtain ⟨found, spelled⟩ := operator_known token knows lexed
  have same : Mirrors limit (operator token : Parse Tokenizer ω) (fallbacks.spelledOperator token) := by
    unfold operator Fallbacks.spelledOperator
    rw [spelled]
    exact .pure found
  exact same.bind later

theorem mirrors_number : Mirrors limit (numberLiteral act) fallbacks.numberLiteral := by
  refine .expect fun token kind lexed => ?_
  obtain ⟨value, known⟩ := value_known token kind lexed
  rw [known]
  exact .pure (act.number value)

theorem mirrors_string :
    Mirrors limit (do let token ← expect .string; return act.string (unquoted token.text)) fallbacks.stringLiteral := by
  refine .expect fun token kind lexed => ?_
  dsimp only
  rw [slice_known token kind lexed]
  exact .pure (act.string (unquoted token.text))

section Productions

variable {inner inner' : Nested Tokenizer act} (same : inner.Mirrors limit inner')

include same

theorem mirrors_parenthesized : Mirrors limit (parenthesized act inner) (parenthesized act inner') :=
  .expect fun _ _ _ => same.expression.bind fun e => .expect fun _ _ _ => .pure e

-- Where the productions match on the kind ahead, the cases are on the kind itself: each side has its own match.
theorem mirrors_primary : Mirrors limit (primary act inner) (fallbacks.primary inner') := by
  refine .look fun ahead => ?_
  cases ahead with
  | none => exact .unexpectedPrimary
  | some kind =>
      cases kind with
      | number => exact mirrors_number fallbacks
      | string => exact mirrors_string fallbacks
      | identifier => exact mirrors_identifier.bind fun id => .pure (act.identifierExpression id)
      | keyword word =>
          cases word with
          | trueWord => exact mirrors_keyword_expression .trueWord _
          | falseWord => exact mirrors_keyword_expression .falseWord _
          | nullWord => exact mirrors_keyword_expression .nullWord _
          | thisWord => exact mirrors_keyword_expression .thisWord _
          | newWord => exact same.construction
          | _ => exact .unexpectedPrimary
      | mark m =>
          cases m with
          | leftParen => exact mirrors_parenthesized same
          | _ => exact .unexpectedPrimary
      | _ => exact .unexpectedPrimary

theorem mirrors_arguments : Mirrors limit (arguments act inner) (arguments act inner') := by
  have closes (found : List act.Expression) :
      Mirrors limit (do let _ ← expect (.mark .rightParen); return found)
        (do let _ ← expect (.mark .rightParen); return found) :=
    .expect fun _ _ _ => .pure found
  refine .expect fun _ _ _ => .ahead fun empty => ?_
  split
  · exact closes []
  · exact (Mirrors.commaList same.expression).bind closes

theorem mirrors_member_step (object : act.Expression) :
    Mirrors limit (memberStep act inner object) (memberStep act inner' object) := by
  refine .ahead fun named => ?_
  split
  · exact .expect fun _ _ _ => mirrors_identifier.bind fun property => .pure (act.member object property)
  · refine .expect fun _ _ _ => same.expression.bind fun property => ?_
    exact .expect fun _ _ _ => .pure (act.computedMember object property)

theorem mirrors_member_expression :
    Mirrors limit (memberExpression act inner) (fallbacks.memberExpression inner') :=
  (mirrors_primary fallbacks same).bind fun object => .repeatWhile (mirrors_member_step same) object

theorem mirrors_calls (callee : act.Expression) :
    Mirrors limit (calls act inner callee) (calls act inner' callee) := by
  have step (callee : act.Expression) : Mirrors limit (callStep act inner callee) (callStep act inner' callee) :=
    (mirrors_arguments same).bind fun found => .pure (act.call callee found)
  exact (step callee).bind fun first => .repeatWhile step first

theorem mirrors_call_expression : Mirrors limit (callExpression act inner) (fallbacks.callExpression inner') := by
  refine .ahead fun isSuper => ?_
  split
  · exact .expect fun _ _ _ => mirrors_calls same act.super
  · refine (mirrors_member_expression fallbacks same).bind fun e => .ahead fun called => ?_
    split
    · exact mirrors_calls same e
    · exact .pure e

theorem mirrors_prefixed (kind : TokenKind) (knows : Knows UnaryOperator kind) :
    Mirrors limit (prefixed act inner kind) (fallbacks.prefixed inner' kind) := by
  refine .expect fun token fits lexed => mirrors_operator fallbacks token (fits ▸ knows) lexed fun operator => ?_
  exact same.expression.bind fun argument => .pure (act.unary operator argument)

theorem mirrors_unary : Mirrors limit (unary act inner) (fallbacks.unary inner') := by
  refine .look fun ahead => ?_
  cases ahead with
  | none => exact mirrors_call_expression fallbacks same
  | some kind =>
      cases kind with
      | additive => exact mirrors_prefixed fallbacks same .additive (knows_unary _ (by decide))
      | logicalNot => exact mirrors_prefixed fallbacks same .logicalNot (knows_unary _ (by decide))
      | _ => exact mirrors_call_expression fallbacks same

omit same in
theorem mirrors_operator_chain {ω : Type} [Spelled ω] (build : ω → act.Expression → act.Expression → act.Expression)
    (kind : TokenKind) (knows : Knows ω kind) (p q : Parse Tokenizer act.Expression) (operand : Mirrors limit p q) :
    Mirrors limit (operatorChain act build kind p) (fallbacks.operatorChain build kind q) := by
  refine operand.bind fun first => .repeatWhile (fun left => ?_) first
  refine .expect fun token fits lexed => mirrors_operator fallbacks token (fits ▸ knows) lexed fun operator => ?_
  exact operand.bind fun right => .pure (build operator left right)

theorem mirrors_equality : Mirrors limit (equality act inner) (fallbacks.equality inner') := by
  have chain (kind : TokenKind) (place : kind ∈ [.equality, .relational, .additive, .multiplicative])
      (p q : Parse Tokenizer act.Expression) (operand : Mirrors limit p q) :
      Mirrors limit (operatorChain act act.binary kind p) (fallbacks.operatorChain act.binary kind q) :=
    mirrors_operator_chain fallbacks act.binary kind (knows_binary kind place) p q operand
  have products := chain .multiplicative (by decide) _ _ (mirrors_unary fallbacks same)
  have sums := chain .additive (by decide) _ _ products
  have relations := chain .relational (by decide) _ _ sums
  exact chain .equality (by decide) _ _ relations

theorem mirrors_logical_or : Mirrors limit (logicalOr act inner) (fallbacks.logicalOr inner') := by
  have chain (kind : TokenKind) (place : kind ∈ [.logicalAnd, .logicalOr]) (p q : Parse Tokenizer act.Expression)
      (operand : Mirrors limit p q) :
      Mirrors limit (operatorChain act act.logical kind p) (fallbacks.operatorChain act.logical kind q) :=
    mirrors_operator_chain fallbacks act.logical kind (knows_logical kind place) p q operand
  have both := chain .logicalAnd (by decide) _ _ (mirrors_equality fallbacks same)
  exact chain .logicalOr (by decide) _ _ both

theorem mirrors_assign_to (kind : TokenKind) (knows : Knows AssignmentOperator kind) (left : act.Expression) :
    Mirrors limit (assignTo act inner kind left) (fallbacks.assignTo inner' kind left) := by
  unfold assignTo Fallbacks.assignTo
  cases act.target? left with
  | none => exact .fail .invalidTarget .invalidTarget
  | some target =>
    refine .expect fun token fits lexed => mirrors_operator fallbacks token (fits ▸ knows) lexed fun operator => ?_
    exact same.expression.bind fun value => .pure (act.assignment operator target value)

theorem mirrors_assignment : Mirrors limit (assignment act inner) (fallbacks.assignment inner') := by
  refine (mirrors_logical_or fallbacks same).bind fun left => .look fun ahead => ?_
  cases ahead with
  | none => exact .pure left
  | some kind =>
      cases kind with
      | simpleAssign => exact mirrors_assign_to fallbacks same .simpleAssign (knows_assignment _ (by decide)) left
      | complexAssign => exact mirrors_assign_to fallbacks same .complexAssign (knows_assignment _ (by decide)) left
      | _ => exact .pure left

theorem mirrors_construction : Mirrors limit (construction act inner) (fallbacks.construction inner') := by
  refine .expect fun _ _ _ => (mirrors_member_expression fallbacks same).bind fun callee => ?_
  exact (mirrors_arguments same).bind fun found => .pure (act.new callee found)

theorem mirrors_statements (stop : Option TokenKind) :
    Mirrors limit (statements act inner stop) (statements act inner' stop) := by
  refine .bind (.repeatWhile (fun done => ?_) []) fun done => .pure done.reverse
  exact same.statement.bind fun last => .pure (last :: done)

theorem mirrors_block : Mirrors limit (block act inner) (block act inner') := by
  refine .expect fun _ _ _ => (mirrors_statements same _).bind fun body => ?_
  exact .expect fun _ _ _ => .pure (act.block body)

theorem mirrors_variable_declaration :
    Mirrors limit (variableDeclaration act inner) (variableDeclaration act inner') := by
  refine mirrors_identifier.bind fun id => .ahead fun first => .ahead fun second => ?_
  split
  · exact .pure (act.declaration id none)
  · exact .expect fun _ _ _ => same.expression.bind fun init => .pure (act.declaration id (some init))

theorem mirrors_variable_declarations :
    Mirrors limit (variableDeclarations act inner) (variableDeclarations act inner') :=
  .expect fun _ _ _ => .commaList (mirrors_variable_declaration same)

theorem mirrors_variable_statement : Mirrors limit (variableStatement act inner) (variableStatement act inner') := by
  refine (mirrors_variable_declarations same).bind fun declarations => ?_
  exact .expect fun _ _ _ => .pure (act.variableStatement declarations)

theorem mirrors_optional_expression (follower : Mark) :
    Mirrors limit (optionalExpression act inner follower) (optionalExpression act inner' follower) := by
  refine .ahead fun absent => ?_
  split
  · exact .pure none
  · exact same.expression.bind fun e => .pure (some e)

theorem mirrors_condition : Mirrors limit (condition act inner) (condition act inner') :=
  .expect fun _ _ _ => same.expression.bind fun test => .expect fun _ _ _ => .pure test

theorem mirrors_if_statement : Mirrors limit (ifStatement act inner) (ifStatement act inner') := by
  refine .expect fun _ _ _ => (mirrors_condition same).bind fun test => ?_
  refine same.statement.bind fun consequent => .ahead fun otherwise => ?_
  split
  · refine .expect fun _ _ _ => same.statement.bind fun alternate => ?_
    exact .pure (act.ifStatement test consequent (some alternate))
  · exact .pure (act.ifStatement test consequent none)

theorem mirrors_while_statement : Mirrors limit (whileStatement act inner) (whileStatement act inner') := by
  refine .expect fun _ _ _ => (mirrors_condition same).bind fun test => ?_
  exact same.statement.bind fun body => .pure (act.whileStatement test body)

theorem mirrors_do_while_statement : Mirrors limit (doWhileStatement act inner) (doWhileStatement act inner') := by
  refine .expect fun _ _ _ => same.statement.bind fun body => .expect fun _ _ _ => ?_
  refine (mirrors_condition same).bind fun test => ?_
  exact .expect fun _ _ _ => .pure (act.doWhileStatement body test)

theorem mirrors_for_init : Mirrors limit (forInit act inner) (forInit act inner') := by
  refine .ahead fun absent => ?_
  split
  · exact .pure none
  · refine .ahead fun declares => ?_
    split
    · exact (mirrors_variable_declarations same).bind fun declarations => .pure (some (act.forVariables declarations))
    · exact same.expression.bind fun e => .pure (some (act.forExpression e))

theorem mirrors_for_statement : Mirrors limit (forStatement act inner) (forStatement act inner') := by
  refine .expect fun _ _ _ => .expect fun _ _ _ => (mirrors_for_init same).bind fun init => ?_
  refine .expect fun _ _ _ => (mirrors_optional_expression same .semicolon).bind fun test => ?_
  refine .expect fun _ _ _ => (mirrors_optional_expression same .rightParen).bind fun update => ?_
  exact .expect fun _ _ _ => same.statement.bind fun body => .pure (act.forStatement init test update body)

theorem mirrors_function_declaration :
    Mirrors limit (functionDeclaration act inner) (functionDeclaration act inner') := by
  refine .expect fun _ _ _ => mirrors_identifier.bind fun name => .expect fun _ _ _ => .ahead fun empty => ?_
  have closes (params : List act.Identifier) :
      Mirrors limit
        (do let _ ← expect (.mark .rightParen); return act.functionDeclaration name params (← block act inner))
        (do let _ ← expect (.mark .rightParen); return act.functionDeclaration name params (← block act inner')) :=
    .expect fun _ _ _ => (mirrors_block same).bind fun body => .pure (act.functionDeclaration name params body)
  split
  · exact closes []
  · exact (Mirrors.commaList mirrors_identifier).bind closes

theorem mirrors_return_statement : Mirrors limit (returnStatement act inner) (returnStatement act inner') := by
  refine .expect fun _ _ _ => (mirrors_optional_expression same .semicolon).bind fun argument => ?_
  exact .expect fun _ _ _ => .pure (act.returnStatement argument)

omit same in
theorem mirrors_super_class : Mirrors limit (superClass act) (superClass act) := by
  refine .ahead fun extended => ?_
  split
  · exact .expect fun _ _ _ => mirrors_identifier.bind fun id => .pure (some id)
  · exact .pure none

theorem mirrors_class_declaration : Mirrors limit (classDeclaration act inner) (classDeclaration act inner') := by
  refine .expect fun _ _ _ => mirrors_identifier.bind fun id => mirrors_super_class.bind fun parent => ?_
  exact (mirrors_block same).bind fun body => .pure (act.classDeclaration id parent body)

theorem mirrors_statement : Mirrors limit (statement act inner) (statement act inner') := by
  refine .look fun kind => ?_
  split
  · exact .expect fun _ _ _ => .pure act.emptyStatement
  · exact (mirrors_block same).bind fun body => .pure (act.blockStatement body)
  · exact mirrors_variable_statement same
  · exact mirrors_function_declaration same
  · exact mirrors_class_declaration same
  · exact mirrors_return_statement same
  · exact mirrors_if_statement same
  · exact mirrors_while_statement same
  · exact mirrors_do_while_statement same
  · exact mirrors_for_statement same
  · exact same.expression.bind fun e => .expect fun _ _ _ => .pure (act.expressionStatement e)

end Productions

theorem mirrors_nested (levels : Nat) : (nested act limit levels).Mirrors limit (fallbacks.nested limit levels) := by
  induction levels with
  | zero =>
      exact ⟨.fail _ .nestingTooDeep, .fail _ .nestingTooDeep, .fail _ .nestingTooDeep⟩
  | succ levels ih =>
      exact ⟨.deeper (mirrors_statement ih), .deeper (mirrors_assignment fallbacks ih),
        .deeper (mirrors_construction fallbacks ih)⟩

theorem mirrors_program (limit : Nat) : Mirrors limit (program act limit) (fallbacks.program limit) := by
  have inside : (nested act limit limit).Mirrors limit (fallbacks.nested limit limit) := mirrors_nested fallbacks limit
  have bodies := mirrors_statements inside none
  exact Mirrors.refill.bind fun _ => bodies.bind fun body => .pure (act.program body)

end Grammar

-- No parse comes to a fallback: it has the same result whatever they do. So the text of every token that is
-- taken can be read as its place asks for, and no error is reported but these.
theorem fallbacks_not_reached (act : Actions) (source : String) :
    (∀ fallbacks : Fallbacks Tokenizer act, fallbacks.parse source = parse act source) ∧
      ∀ error, parse act source = .error error → Reported maxNesting error := by
  have begun : (ParseState.start (Tokenizer.ofSource source)).Lexed := nofun
  have mirrors (fallbacks : Fallbacks Tokenizer act) := Grammar.mirrors_program fallbacks maxNesting _ begun
  constructor
  · intro fallbacks
    unfold Fallbacks.parse parse parseFrom
    rw [(mirrors fallbacks).1]
    cases Grammar.program act maxNesting (ParseState.start (Tokenizer.ofSource source)) with
    | ok program after => rfl
    | error fault after => rfl
  · intro error failed
    have any : Fallbacks Tokenizer act :=
      ⟨fun _ => Grammar.unexpectedPrimary, fun _ => Grammar.unexpectedPrimary, fun _ _ => Grammar.unexpectedPrimary⟩
    have ends := (mirrors any).2
    unfold parse parseFrom at failed
    split at failed
    · contradiction
    · rename_i fault after run
      injection failed with same
      rw [run] at ends
      exact same ▸ ends

-- A number, a string and operators of every family, before an assignment to no place.
theorem fallbacks_not_reached_at_target :
    parse SExpr.actions "a += -7 * 'é' && b /= 2" = .error (.grammar .invalidTarget) ∧
      Reported 64 (.grammar .invalidTarget) ∧
      ∀ fault, (⟨fun _ => throw fault, fun _ => throw fault, fun _ _ => throw fault⟩ :
        Fallbacks Tokenizer SExpr.actions).parse "a += -7 * 'é' && b /= 2" = .error (.grammar .invalidTarget) := by
  have failed : parse SExpr.actions "a += -7 * 'é' && b /= 2" = .error (.grammar .invalidTarget) :=
    eq_error_of_fails_with _ _ (by decide +kernel)
  obtain ⟨same, reported⟩ := fallbacks_not_reached SExpr.actions "a += -7 * 'é' && b /= 2"
  exact ⟨failed, reported _ failed, fun fault => (same _).trans failed⟩

end ScriptFront
