import ScriptFront.Proofs.Blame

set_option autoImplicit false

/-! Failing runs of the productions of expressions blame a token. -/

namespace ScriptFront

open Parse

variable {σ : Type} [TokenSource σ] {act : Actions} {limit : Nat}

namespace Phrase

-- A unary expression stands for itself on every level.
theorem ladder_of_unary (rung : Option Rung) (u : List Token) (e : act.Expression)
    (found : Ladder act none u e) : Ladder act rung u e := by
  cases rung with
  | none => exact found
  | some rung =>
      have product := Ladder.tighter .multiplicative u e found
      have sum := Ladder.tighter .additive u e product
      have relation := Ladder.tighter .relational u e sum
      have equality := Ladder.tighter .equality u e relation
      have conjunction := Ladder.tighter .and u e equality
      cases rung with
      | or => exact .tighter .or u e conjunction
      | and => exact conjunction
      | equality => exact equality
      | relational => exact relation
      | additive => exact sum
      | multiplicative => exact product

theorem assignment_of_left_hand_side (u : List Token) (e : act.Expression) (found : LeftHandSide act u e) :
    Assignment act u e :=
  .level u e (ladder_of_unary (some .or) u e (.leftHandSide u e found))

theorem begins_primary : Begins (Primary act) [] := by
  obtain ⟨id, fits, spelled⟩ := exists_well_spelled .identifier
  exact ⟨[id], _, by simp [spelled], .identifier id fits⟩

theorem begins_assignment : Begins (Assignment act) [] := by
  obtain ⟨u, e, spelled, found⟩ : Begins (Primary act) [] := begins_primary
  exact ⟨u, e, spelled, assignment_of_left_hand_side u e (.member u e (.primary u e found))⟩

end Phrase

-- A well spelled token of a kind spells an operator, if all texts of the kind do.
theorem operator_of_lexeme {ω : Type} [Spelled ω] (kind : TokenKind) (texts : List (List Char))
    (few : ∀ text, kind.hasLexeme text = true → text ∈ texts)
    (known : ∀ text ∈ texts, (Spelled.ofSpelling? (String.ofList text) : Option ω).isSome = true)
    (t : Token) (fits : t.kind = kind) (spelled : t.wellSpelled = true) :
    ∃ found : ω, Spelled.ofSpelling? t.text = some found := by
  rw [Token.wellSpelled, fits] at spelled
  have found := known t.text.toList (few _ spelled)
  rw [String.ofList_toList] at found
  exact Option.isSome_iff_exists.mp found

theorem value_of_lexeme (t : Token) (fits : t.kind = .number) (spelled : t.wellSpelled = true) :
    ∃ value, digitsValue? t.text.toList = some value := by
  rw [Token.wellSpelled, fits, TokenKind.hasLexeme, Bool.and_eq_true] at spelled
  obtain ⟨some, digits⟩ := spelled
  rw [digitsValue?, if_neg]
  · exact ⟨_, rfl⟩
  · simpa using ⟨by simpa using some, by simpa using digits⟩

-- The nested productions blame tokens for their failures.
structure Nested.Blames (limit : Nat) (inner : Nested σ act) : Prop where
  sound : inner.Sound
  statement : ScriptFront.Blames limit inner.statement (Phrase.Statement act)
  expression : ScriptFront.Blames limit inner.expression (Phrase.Assignment act)
  construction : ScriptFront.Blames limit inner.construction (Phrase.Primary act)

namespace Grammar

theorem blames_identifier : Blames (σ := σ) limit (identifier act) (Phrase.Name act) := by
  refine blames_bind (yields_expect _) (blames_expect _) fun u t ⟨one, kind⟩ _ => ?_
  exact blames_pure (by simpa [one] using Phrase.Name.intro t kind)

theorem blames_comma_list {α : Type} (item : Parse σ α) (phrase : List Token → α → Prop)
    (yields : Yields item phrase) (each : Blames limit item phrase) :
    Blames limit (commaList item) (Phrase.CommaList phrase) := by
  refine blames_bind yields each fun u a first _ => ?_
  have step := yields_comma_step item phrase yields
  refine blames_bind (yields_repeat_while _ step u [a] (.one u a first))
    (blames_repeat_while (fun w done => Phrase.CommaList phrase w done.reverse) step ?_ u [a]
      (.one u a first)) fun v done list _ => ?_
  · intro w done list
    refine blames_bind (yields_expect _) (blames_expect _) fun _ comma ⟨one, isComma⟩ _ => ?_
    refine blames_bind yields each fun v b last _ => ?_
    refine blames_pure ?_
    simpa [one] using Phrase.comma_list_append phrase w v comma done.reverse b list isComma last
  · exact blames_pure (by simpa using list)

theorem blames_number_literal : Blames (σ := σ) limit (numberLiteral act) (Phrase.Primary act) := by
  refine blames_bind (yields_expect _) (blames_expect _) fun u t ⟨one, kind⟩ spelled => ?_
  obtain ⟨value, digits⟩ := value_of_lexeme t kind (spelled t (by simp [one]))
  rw [digits]
  exact blames_pure (by simpa [one] using Phrase.Primary.number t value kind digits)

theorem blames_keyword_expression (keyword : Keyword) (e : act.Expression)
    (phrase : ∀ t : Token, t.kind = .keyword keyword → Phrase.Primary act [t] e) :
    Blames (σ := σ) limit (keywordExpression act keyword e) (Phrase.Primary act) := by
  refine blames_bind (yields_expect _) (blames_expect _) fun u t ⟨one, kind⟩ _ => ?_
  exact blames_pure (by simpa [one] using phrase t kind)

variable {inner : Nested σ act} (blamed : inner.Blames limit)

include blamed

theorem blames_parenthesized : Blames limit (parenthesized act inner) (Phrase.Primary act) := by
  refine blames_bind (yields_expect _) (blames_expect _) fun _ l ⟨one, opens⟩ _ => ?_
  refine blames_bind blamed.sound.expression blamed.expression fun u e found _ => ?_
  refine blames_bind (yields_expect _) (blames_expect _) fun _ r ⟨one', closes⟩ _ => ?_
  exact blames_pure (by simpa [one, one'] using Phrase.Primary.parenthesized u l r e opens found closes)

theorem blames_primary : Blames limit (primary act inner) (Phrase.Primary act) := by
  refine blames_look fun kind => ?_
  split
  · exact blames_number_literal
  · refine blames_bind (yields_expect _) (blames_expect _) fun u t ⟨one, kind⟩ _ => ?_
    exact blames_pure (by simpa [one] using Phrase.Primary.string t kind)
  · exact blames_keyword_expression _ _ fun t kind => .true t kind
  · exact blames_keyword_expression _ _ fun t kind => .false t kind
  · exact blames_keyword_expression _ _ fun t kind => .null t kind
  · exact blames_parenthesized blamed
  · refine blames_bind yields_identifier blames_identifier fun u id ⟨t, kind⟩ _ => ?_
    exact blames_pure (by simpa using Phrase.Primary.identifier t kind)
  · exact blames_keyword_expression _ _ fun t kind => .this t kind
  · exact blamed.construction
  · exact blames_unexpected_primary Phrase.begins_primary

theorem blames_arguments : Blames limit (arguments act inner) (Phrase.Arguments act) := by
  refine blames_bind (yields_expect _) (blames_expect _) fun _ l ⟨one, opens⟩ _ => ?_
  refine blames_ahead fun empty => ?_
  split
  · refine blames_pure_bind ?_
    refine blames_bind (yields_expect _) (blames_expect _) fun _ r ⟨one', closes⟩ _ => ?_
    exact blames_pure (by simpa [one, one'] using Phrase.Arguments.none l r opens closes)
  · refine blames_bind (yields_comma_list _ _ blamed.sound.expression)
      (blames_comma_list _ _ blamed.sound.expression blamed.expression) fun u found list _ => ?_
    refine blames_bind (yields_expect _) (blames_expect _) fun _ r ⟨one', closes⟩ _ => ?_
    have list := Phrase.argument_list_of_comma_list u found list
    exact blames_pure (by simpa [one, one'] using Phrase.Arguments.some u l r found opens list closes)

theorem blames_member_step (u : List Token) (object : act.Expression) (member : Phrase.Member act u object) :
    Blames limit (memberStep act inner object) fun v e => Phrase.Member act (u ++ v) e := by
  refine blames_ahead fun named => ?_
  split
  · refine blames_bind (yields_expect _) (blames_expect _) fun _ dot ⟨one, isDot⟩ _ => ?_
    refine blames_bind yields_identifier blames_identifier fun _ _ ⟨id, kind⟩ _ => ?_
    exact blames_pure (by simpa [one] using Phrase.Member.named u dot id object member isDot kind)
  · refine blames_bind (yields_expect _) (blames_expect _) fun _ l ⟨one, opens⟩ _ => ?_
    refine blames_bind blamed.sound.expression blamed.expression fun v property found _ => ?_
    refine blames_bind (yields_expect _) (blames_expect _) fun _ r ⟨one', closes⟩ _ => ?_
    refine blames_pure ?_
    simpa [one, one'] using Phrase.Member.computed u v l r object property member opens found closes

theorem blames_member_expression : Blames limit (memberExpression act inner) (Phrase.Member act) := by
  refine blames_bind (yields_primary blamed.sound) (blames_primary blamed) fun u object found _ => ?_
  refine blames_repeat_while (Phrase.Member act) (fun w a member => ?_) (blames_member_step blamed) u object
    (.primary u object found)
  exact yields_weaken (yields_member_step blamed.sound a) fun v b found => found.2 w member

theorem blames_call_step (callee : act.Expression) :
    Blames limit (callStep act inner callee) fun v e =>
      ∃ found, Phrase.Arguments act v found ∧ e = act.call callee found := by
  refine blames_bind (yields_arguments blamed.sound) (blames_arguments blamed) fun v found list _ => ?_
  exact blames_pure ⟨found, by simpa using list, rfl⟩

theorem blames_calls (u : List Token) (callee : act.Expression)
    (first : ∀ v found, Phrase.Arguments act v found → Phrase.Calls act (u ++ v) (act.call callee found)) :
    Blames limit (calls act inner callee) fun v e => Phrase.Calls act (u ++ v) e := by
  have goesOn (w x : List Token) (a b : act.Expression) (calls : Phrase.Calls act w a)
      (called : ∃ found, Phrase.Arguments act x found ∧ b = act.call a found) : Phrase.Calls act (w ++ x) b := by
    obtain ⟨found, list, rfl⟩ := called
    exact .more w x a found calls list
  refine blames_bind (yields_call_step blamed.sound callee) (blames_call_step blamed callee)
    fun v _ ⟨found, list, same⟩ _ => ?_
  subst same
  simp only [← List.append_assoc]
  refine blames_repeat_while (Phrase.Calls act) (fun w a calls => ?_) (fun w a calls => ?_) (u ++ v) _
    (first v found list)
  · exact yields_weaken (yields_call_step blamed.sound a) fun x b => goesOn w x a b calls
  · exact blames_weaken (blames_call_step blamed a) fun x b => goesOn w x a b calls

theorem blames_call_expression : Blames limit (callExpression act inner) (Phrase.LeftHandSide act) := by
  refine blames_ahead fun isSuper => ?_
  split
  · refine blames_bind (yields_expect _) (blames_expect _) fun _ word ⟨one, kind⟩ _ => ?_
    refine blames_weaken (blames_calls blamed [word] act.super
      fun v found list => .super word v found kind list) fun v e calls => ?_
    exact one ▸ .calls _ e calls
  · refine blames_bind (yields_member_expression blamed.sound) (blames_member_expression blamed)
      fun u callee member _ => ?_
    refine blames_ahead fun called => ?_
    split
    · refine blames_weaken (blames_calls blamed u callee
        fun v found list => .member u v callee found member list) fun v e calls => ?_
      exact .calls _ e calls
    · exact blames_pure (by simpa using Phrase.LeftHandSide.member u callee member)

theorem blames_prefixed (kind : TokenKind) (known : kind = .additive ∨ kind = .logicalNot)
    (operators : ∀ t : Token, t.kind = kind → t.wellSpelled = true →
      ∃ found : UnaryOperator, Spelled.ofSpelling? t.text = some found) :
    Blames limit (prefixed act inner kind) (Phrase.Ladder act none) := by
  refine blames_bind (yields_expect _) (blames_expect _) fun _ op ⟨one, fits⟩ spelled => ?_
  have readable := operators op fits (spelled op (by simp [one]))
  refine blames_bind (yields_operator op) (blames_operator op readable) fun _ operator ⟨still, spells⟩ _ => ?_
  refine blames_bind blamed.sound.expression blamed.expression fun v e found _ => ?_
  refine blames_pure ?_
  simpa [one, still] using Phrase.Ladder.unary op v operator e (fits ▸ known) spells found

theorem blames_unary : Blames limit (unary act inner) (Phrase.Ladder act none) := by
  refine blames_look fun kind => ?_
  split
  · exact blames_prefixed blamed _ (.inl rfl)
      (operator_of_lexeme _ [['+'], ['-']] (by simp [TokenKind.hasLexeme]) (by decide))
  · exact blames_prefixed blamed _ (.inr rfl)
      (operator_of_lexeme _ [['!']] (by simp [TokenKind.hasLexeme]) (by decide))
  · exact blames_weaken (blames_call_expression blamed) fun u e found => .leftHandSide u e found

omit blamed in
theorem blames_operator_chain {ω : Type} [Spelled ω] (rung : Rung)
    (build : ω → act.Expression → act.Expression → act.Expression)
    (builds : ∀ text, rung.build? act text = (Spelled.ofSpelling? text).map build)
    (operators : ∀ t : Token, t.kind = rung.kind → t.wellSpelled = true →
      ∃ found : ω, Spelled.ofSpelling? t.text = some found)
    (operand : Parse σ act.Expression) (yields : Yields operand (Phrase.Ladder act rung.tighter))
    (each : Blames limit operand (Phrase.Ladder act rung.tighter)) :
    Blames limit (operatorChain act build rung.kind operand) (Phrase.Ladder act (some rung)) := by
  refine blames_bind yields each fun u left first _ => ?_
  refine blames_repeat_while (Phrase.Ladder act (some rung))
    (yields_operator_step rung build builds operand yields) (fun w left chain => ?_) u left
    (.tighter rung u left first)
  refine blames_bind (yields_expect _) (blames_expect _) fun _ op ⟨one, fits⟩ spelled => ?_
  have readable := operators op fits (spelled op (by simp [one]))
  refine blames_bind (yields_operator op) (blames_operator op readable) fun _ operator ⟨still, spells⟩ _ => ?_
  refine blames_bind yields each fun v right found _ => ?_
  refine blames_pure ?_
  have built : rung.build? act op.text = some (build operator) := by rw [builds, spells]; rfl
  simpa [one, still] using Phrase.Ladder.operator rung w v op left right _ chain fits built found

theorem blames_multiplicative :
    Blames limit (multiplicative act inner) (Phrase.Ladder act (some .multiplicative)) :=
  blames_operator_chain .multiplicative act.binary (fun _ => rfl)
    (operator_of_lexeme _ [['*'], ['/']] (by simp [Rung.kind, TokenKind.hasLexeme]) (by decide)) _
    (yields_unary blamed.sound) (blames_unary blamed)

theorem blames_additive : Blames limit (additive act inner) (Phrase.Ladder act (some .additive)) :=
  blames_operator_chain .additive act.binary (fun _ => rfl)
    (operator_of_lexeme _ [['+'], ['-']] (by simp [Rung.kind, TokenKind.hasLexeme]) (by decide)) _
    (yields_multiplicative blamed.sound) (blames_multiplicative blamed)

theorem blames_relational : Blames limit (relational act inner) (Phrase.Ladder act (some .relational)) :=
  blames_operator_chain .relational act.binary (fun _ => rfl)
    (operator_of_lexeme _ [['>'], ['>', '='], ['<'], ['<', '=']] (by simp [Rung.kind, TokenKind.hasLexeme])
      (by decide)) _ (yields_additive blamed.sound) (blames_additive blamed)

theorem blames_equality : Blames limit (equality act inner) (Phrase.Ladder act (some .equality)) :=
  blames_operator_chain .equality act.binary (fun _ => rfl)
    (operator_of_lexeme _ [['=', '='], ['!', '=']] (by simp [Rung.kind, TokenKind.hasLexeme]) (by decide)) _
    (yields_relational blamed.sound) (blames_relational blamed)

theorem blames_logical_and : Blames limit (logicalAnd act inner) (Phrase.Ladder act (some .and)) :=
  blames_operator_chain .and act.logical (fun _ => rfl)
    (operator_of_lexeme _ [['&', '&']] (by simp [Rung.kind, TokenKind.hasLexeme]) (by decide)) _
    (yields_equality blamed.sound) (blames_equality blamed)

theorem blames_logical_or : Blames limit (logicalOr act inner) (Phrase.Ladder act (some .or)) :=
  blames_operator_chain .or act.logical (fun _ => rfl)
    (operator_of_lexeme _ [['|', '|']] (by simp [Rung.kind, TokenKind.hasLexeme]) (by decide)) _
    (yields_logical_and blamed.sound) (blames_logical_and blamed)

-- An expression that cannot be assigned to is an expression for all that, so the operator is blamed.
theorem blames_assign_to (kind : TokenKind) (assigns : kind.isAssignment = true)
    (operators : ∀ t : Token, t.kind = kind → t.wellSpelled = true →
      ∃ found : AssignmentOperator, Spelled.ofSpelling? t.text = some found)
    (u : List Token) (left : act.Expression) (chain : Phrase.Ladder act (some .or) u left)
    (s : ParseState σ) (ahead : s.lookahead.map Token.kind = some kind) :
    BlamesAt limit (assignTo act inner kind left) (fun v e => Phrase.Assignment act (u ++ v) e) s := by
  unfold assignTo
  split
  · intro tokens error after _ _ run
    injection run with same ended
    subst same ended
    obtain ⟨t, next, fits⟩ := Option.map_eq_some_iff.mp ahead
    have alone : Begins (fun v e => Phrase.Assignment act (u ++ v) e) [] :=
      ⟨[], left, well_spelled_nil, by simpa using Phrase.Assignment.level u left chain⟩
    exact .inr ⟨[], .invalidTarget, rfl, .nothing _, ⟨t, next, fits ▸ assigns⟩, alone,
      fun _ asked _ => by cases asked⟩
  · rename_i place target
    refine Blames.blames (?_ : Blames limit _ _) s
    refine blames_bind (yields_expect _) (blames_expect _) fun _ op ⟨one, fits⟩ spelled => ?_
    have readable := operators op fits (spelled op (by simp [one]))
    refine blames_bind (yields_operator op) (blames_operator op readable) fun _ operator ⟨still, spells⟩ _ => ?_
    refine blames_bind blamed.sound.expression blamed.expression fun v value found _ => ?_
    refine blames_pure ?_
    simpa [one, still] using
      Phrase.Assignment.assign u v op left value place operator chain target (fits ▸ assigns) spells found

theorem blames_assignment : Blames limit (assignment act inner) (Phrase.Assignment act) := by
  refine blames_bind (yields_logical_or blamed.sound) (blames_logical_or blamed) fun u left chain _ => ?_
  have alone : Phrase.Assignment act (u ++ []) left := by simpa using Phrase.Assignment.level u left chain
  refine ⟨⟨[], left, well_spelled_nil, alone⟩, fun s => ?_⟩
  refine blames_at_look s ?_
  split
  · rename_i ahead
    exact blames_assign_to blamed _ rfl
      (operator_of_lexeme _ [['=']] (by simp [TokenKind.hasLexeme]) (by decide)) u left chain s ahead
  · rename_i ahead
    exact blames_assign_to blamed _ rfl
      (operator_of_lexeme _ [['*', '='], ['/', '='], ['+', '='], ['-', '=']] (by simp [TokenKind.hasLexeme])
        (by decide)) u left chain s ahead
  · exact (blames_pure alone).blames s

theorem blames_construction : Blames limit (construction act inner) (Phrase.Primary act) := by
  refine blames_bind (yields_expect _) (blames_expect _) fun _ word ⟨one, kind⟩ _ => ?_
  refine blames_bind (yields_member_expression blamed.sound) (blames_member_expression blamed)
    fun u callee member _ => ?_
  refine blames_bind (yields_arguments blamed.sound) (blames_arguments blamed) fun v found list _ => ?_
  exact blames_pure (by simpa [one] using Phrase.Primary.new word u v callee found kind member list)

end Grammar

end ScriptFront
