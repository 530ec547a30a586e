import ScriptFront.Proofs.Agreement
import ScriptFront.Proofs.WordBoundary
import ScriptFront.SExpr.Actions
import ScriptFront.Tree.Actions

set_option autoImplicit false

/-! The S-expression of a source is that of its tree. Identifiers and keywords are both symbols there,
so the test for what can be assigned to needs that no identifier is spelled like a keyword. -/

namespace ScriptFront

open SExpr

def Literal.encoded : Literal → SExpr
  | .number value => .number value
  | .string text => .string text
  | .boolean true => .symbol "true"
  | .boolean false => .symbol "false"
  | .null => .symbol "null"

mutual
def Expression.encoded : Expression → SExpr
  | .identifier id => .symbol id.name
  | .literal value => value.encoded
  | .this => .symbol "this"
  | .super => .symbol "super"
  | .new callee arguments => form "new" (callee.encoded :: encodedExpressions arguments)
  | .call callee arguments => form "call" (callee.encoded :: encodedExpressions arguments)
  | .member place => place.encoded
  | .assignment operator target value => form (Spelled.spelling operator) [target.encoded, value.encoded]
  | .binary operator left right => form (Spelled.spelling operator) [left.encoded, right.encoded]
  | .logical operator left right => form (Spelled.spelling operator) [left.encoded, right.encoded]
  | .unary operator argument => form (Spelled.spelling operator) [argument.encoded]

def Member.encoded : Member → SExpr
  | .named object property => form "prop" [object.encoded, .symbol property.name]
  | .computed object property => form "index" [object.encoded, property.encoded]

def Target.encoded : Target → SExpr
  | .identifier id => .symbol id.name
  | .member place => place.encoded

def encodedExpressions : List Expression → List SExpr
  | [] => []
  | e :: rest => e.encoded :: encodedExpressions rest
end

-- The name alone, or the name and the initial value.
def VariableDeclaration.encoded : VariableDeclaration → SExpr
  | ⟨id, none⟩ => .list [.symbol id.name]
  | ⟨id, some e⟩ => .list [.symbol id.name, e.encoded]

def encodedVariables (declarations : List VariableDeclaration) : SExpr :=
  form "let" (declarations.map VariableDeclaration.encoded)

def ForInit.encoded : ForInit → SExpr
  | .variables declarations => encodedVariables declarations
  | .expression value => value.encoded

-- An absent part of a loop or a class is the empty list.
def encodedPart {α : Type} (encoded : α → SExpr) : Option α → SExpr
  | none => .list []
  | some a => encoded a

mutual
def Statement.encoded : Statement → SExpr
  | .block body => form "begin" (encodedStatements body)
  | .empty => .list []
  | .expression value => value.encoded
  | .variables declarations => encodedVariables declarations
  | .conditional test consequent none => form "if" [test.encoded, consequent.encoded]
  | .conditional test consequent (some alternate) =>
      form "if" [test.encoded, consequent.encoded, alternate.encoded]
  | .whileLoop test body => form "while" [test.encoded, body.encoded]
  | .doWhileLoop body test => form "do-while" [body.encoded, test.encoded]
  | .forLoop init test update body =>
      form "for"
        [encodedPart ForInit.encoded init, encodedPart Expression.encoded test,
         encodedPart Expression.encoded update, body.encoded]
  | .function name params body =>
      form "def"
        [.symbol name.name, .list (params.map fun id => .symbol id.name),
         form "begin" (encodedStatements body)]
  | .returning none => form "return" []
  | .returning (some argument) => form "return" [argument.encoded]
  | .classDeclaration id superClass body =>
      form "class"
        [.symbol id.name, encodedPart (fun parent => .symbol parent.name) superClass,
         form "begin" (encodedStatements body)]

def encodedStatements : List Statement → List SExpr
  | [] => []
  | s :: rest => s.encoded :: encodedStatements rest
end

def Program.encoded (program : Program) : SExpr :=
  form "begin" (encodedStatements program.body)

theorem encoded_expressions_eq_map (list : List Expression) :
    encodedExpressions list = list.map Expression.encoded := by
  induction list with
  | nil => rfl
  | cons e rest ih => rw [encodedExpressions, List.map_cons, ih]

theorem encoded_statements_eq_map (list : List Statement) :
    encodedStatements list = list.map Statement.encoded := by
  induction list with
  | nil => rfl
  | cons s rest ih => rw [encodedStatements, List.map_cons, ih]

theorem target_encoded (t : Target) : t.encoded = t.toExpression.encoded := by
  cases t <;> rfl

-- An expression that is no identifier with the name of a reserved symbol.
def Expression.Unreserved (e : Expression) : Prop :=
  ∀ id, e = .identifier id → id.name ∉ reserved

-- No operator is spelled like the head of a member.
theorem assignable_operator {ω : Type} [Spelled ω] (operator : ω) (items : List SExpr)
    (others : ∀ o ∈ (Spelled.all : List ω), (Spelled.spelling o == "prop" || Spelled.spelling o == "index") = false) :
    (form (Spelled.spelling operator) items).isAssignable = false :=
  others operator (Spelled.complete operator)

theorem assignable_encoded (e : Expression) (unreserved : e.Unreserved) :
    e.encoded.isAssignable = e.target?.isSome := by
  cases e with
  | identifier id => simpa [Expression.encoded, isAssignable, Expression.target?] using unreserved id rfl
  | literal value =>
      cases value with
      | boolean value => cases value <;> rfl
      | _ => rfl
  | this => rfl
  | super => rfl
  | new callee arguments => rfl
  | call callee arguments => rfl
  | member place => cases place <;> rfl
  | assignment operator target value => exact assignable_operator operator _ (by decide)
  | binary operator left right => exact assignable_operator operator _ (by decide)
  | logical operator left right => exact assignable_operator operator _ (by decide)
  | unary operator argument => exact assignable_operator operator _ (by decide)

theorem eq_map_of_forall {α β : Type} {f : α → β} {rel : α → β → Prop} (as : List α) (bs : List β)
    (all : List.Forall₂ rel as bs) (exact_ : ∀ a b, rel a b → b = f a) : bs = as.map f := by
  induction all with
  | nil => rfl
  | cons same _ ih => rw [List.map_cons, exact_ _ _ same, ih]

theorem eq_encoded_part {α : Type} {f : α → SExpr} {rel : α → SExpr → Prop} (a : Option α)
    (b : Option SExpr) (part : Option.Rel rel a b) (exact_ : ∀ a b, rel a b → b = f a) :
    orNil b = encodedPart f a := by
  cases part with
  | none => rfl
  | some same => exact exact_ _ _ same

-- The parts of a tree and those of its S-expression, where no identifier is spelled like a keyword.
def encodedRelation (taken : Token → Prop)
    (names : ∀ token, taken token → token.kind = .identifier → token.text ∉ reserved) :
    Actions.Relation taken Program.actions SExpr.actions where
  Program a b := b = a.encoded
  Block a b := b = form "begin" (encodedStatements a)
  Statement a b := b = a.encoded
  Expression a b := b = a.encoded ∧ a.Unreserved
  Identifier a b := b = .symbol a.name ∧ a.name ∉ reserved
  Declaration a b := b = a.encoded
  Target a b := b = a.encoded
  ForInit a b := b = a.encoded
  program a b body := by
    rw [eq_map_of_forall a b body fun _ _ same => same, ← encoded_statements_eq_map]
    rfl
  block a b body := by
    rw [eq_map_of_forall a b body fun _ _ same => same, ← encoded_statements_eq_map]
  blockStatement a b same := same
  emptyStatement := rfl
  expressionStatement a b same := same.1
  declaration i j a b id init := by
    rw [id.1]
    cases init with
    | none => rfl
    | some same => rw [same.1]; rfl
  variableStatement a b list := by
    rw [eq_map_of_forall a b list fun _ _ same => same]
    rfl
  ifStatement t u a b c d test consequent alternate := by
    rw [test.1, consequent]
    cases alternate with
    | none => rfl
    | some same => rw [same]; rfl
  whileStatement t u a b test body := by
    rw [test.1, body]
    rfl
  doWhileStatement t u a b test body := by
    rw [test.1, body]
    rfl
  forVariables a b list := by
    rw [eq_map_of_forall a b list fun _ _ same => same]
    rfl
  forExpression a b same := same.1
  forStatement i j t u v w a b init test update body := by
    change form "for" [orNil j, orNil u, orNil w, b] = _
    rw [eq_encoded_part i j init fun _ _ same => same, eq_encoded_part t u test fun _ _ same => same.1,
      eq_encoded_part v w update fun _ _ same => same.1, body]
    rfl
  functionDeclaration i j p q a b name params body := by
    rw [name.1, eq_map_of_forall p q params fun _ _ same => same.1, body]
    rfl
  returnStatement a b argument := by
    cases argument with
    | none => rfl
    | some same => rw [same.1]; rfl
  classDeclaration i j p q a b id parent body := by
    change form "class" [j, orNil q, b] = _
    rw [id.1, eq_encoded_part p q parent fun _ _ same => same.1, body]
    rfl
  identifier token known kind := ⟨rfl, names token known kind⟩
  identifierExpression i j same := ⟨same.1, by rintro _ ⟨⟩; exact same.2⟩
  number value := ⟨rfl, by rintro _ ⟨⟩⟩
  string text := ⟨rfl, by rintro _ ⟨⟩⟩
  boolean value := ⟨by cases value <;> rfl, by rintro _ ⟨⟩⟩
  null := ⟨rfl, by rintro _ ⟨⟩⟩
  this := ⟨rfl, by rintro _ ⟨⟩⟩
  super := ⟨rfl, by rintro _ ⟨⟩⟩
  new f g a b callee list := by
    rw [callee.1, eq_map_of_forall a b list fun _ _ same => same.1, ← encoded_expressions_eq_map]
    exact ⟨rfl, by rintro _ ⟨⟩⟩
  call f g a b callee list := by
    rw [callee.1, eq_map_of_forall a b list fun _ _ same => same.1, ← encoded_expressions_eq_map]
    exact ⟨rfl, by rintro _ ⟨⟩⟩
  member a b i j object property := by
    rw [object.1, property.1]
    exact ⟨rfl, by rintro _ ⟨⟩⟩
  computedMember a b c d object property := by
    rw [object.1, property.1]
    exact ⟨rfl, by rintro _ ⟨⟩⟩
  target a b same := by
    have assignable := assignable_encoded a same.2
    rw [← same.1] at assignable
    change Option.Rel _ a.target? (if b.isAssignable then some b else none)
    rw [assignable]
    cases place : a.target? with
    | none => exact .none
    | some t =>
        refine .some ?_
        rw [same.1, (target_eq_some_iff a t).mp place, target_encoded]
  assignment operator t u a b target value := by
    rw [target, value.1]
    exact ⟨rfl, by rintro _ ⟨⟩⟩
  binary operator a b c d left right := by
    rw [left.1, right.1]
    exact ⟨rfl, by rintro _ ⟨⟩⟩
  logical operator a b c d left right := by
    rw [left.1, right.1]
    exact ⟨rfl, by rintro _ ⟨⟩⟩
  unary operator a b argument := by
    rw [argument.1]
    exact ⟨rfl, by rintro _ ⟨⟩⟩

-- The lookahead is no name that is spelled like a keyword, unless a lexical error comes next.
def ParseState.Bounded (s : ParseState Tokenizer) : Prop :=
  ∀ token keyword, s.lookahead = some token → token.kind = .identifier →
    token.text = Spelled.spelling (keyword : Keyword) → ∃ fault, s.source.read = .error fault s.source

theorem bounded_of_read (s : ParseState Tokenizer) (source : Tokenizer)
    (found : source.read = .ok s.lookahead s.source) : s.Bounded := by
  intro token keyword ahead kind spelled
  rw [ahead] at found
  exact Tokenizer.read_after_keyword_name source s.source token keyword found kind spelled

-- The reserved symbols are keywords.
theorem reserved_keyword (name : String) (member : name ∈ reserved) :
    ∃ keyword : Keyword, name = Spelled.spelling keyword := by
  simp only [reserved, List.mem_cons, List.not_mem_nil, or_false] at member
  rcases member with rfl | rfl | rfl | rfl | rfl
  · exact ⟨.thisWord, rfl⟩
  · exact ⟨.superWord, rfl⟩
  · exact ⟨.nullWord, rfl⟩
  · exact ⟨.trueWord, rfl⟩
  · exact ⟨.falseWord, rfl⟩

-- Two parses in the same state. A token is taken when the next one is found, so a name that is taken
-- is no keyword.
def sameState : StartingCoupling Tokenizer Tokenizer where
  related s t := s = t ∧ s.Bounded
  taken token := token.kind = .identifier → token.text ∉ reserved
  ahead s t related := related.1 ▸ rfl
  enter s t related := ⟨related.1 ▸ rfl, related.2⟩
  leave s t related := ⟨related.1 ▸ rfl, related.2⟩
  refill s t token related ahead := by
    obtain ⟨rfl, bounded⟩ := related
    unfold Parse.refill
    cases found : TokenSource.next s.source with
    | ok next after =>
        refine ⟨fun kind member => ?_, rfl, bounded_of_read _ s.source found⟩
        obtain ⟨keyword, spelled⟩ := reserved_keyword token.text member
        obtain ⟨fault, failed⟩ := bounded token keyword ahead kind spelled
        have both := failed.symm.trans found
        contradiction
    | error fault after => exact ⟨rfl, rfl, fun token keyword ahead => by cases ahead⟩
  fill s t related start := by
    obtain ⟨rfl, _⟩ := related
    unfold Parse.refill
    cases found : TokenSource.next s.source with
    | ok next after => exact ⟨trivial, rfl, bounded_of_read _ s.source found⟩
    | error fault after => exact ⟨rfl, rfl, fun token keyword ahead => by cases ahead⟩

def encodes : Actions.Relation sameState.taken Program.actions SExpr.actions :=
  encodedRelation sameState.taken fun _ taken kind => taken kind

-- The states that a parse of a source can be in: some of its tokens are taken. How many levels are
-- open does not matter here.
def ParseState.Reached (source : String) (s : ParseState Tokenizer) : Prop :=
  ∃ begun taken, Parse.refill (.start (Tokenizer.ofSource source)) = .ok () begun ∧
    Reads begun.ahead taken s.ahead

theorem bounded_of_reads (s s' : ParseState Tokenizer) (taken : List Token) (bounded : s.Bounded)
    (reads : Reads s.ahead taken s'.ahead) : s'.Bounded := by
  generalize start : s.ahead = place at reads
  generalize stop : s'.ahead = place' at reads
  induction reads generalizing s with
  | nothing place =>
      obtain ⟨ahead, source⟩ := Prod.mk.inj (start.trans stop.symm)
      intro token keyword found
      rw [← ahead] at found
      exact source ▸ bounded token keyword found
  | token t behind after next rest place found _ ih =>
      exact ih ⟨next, after, 0, 0⟩ (bounded_of_read ⟨next, after, 0, 0⟩ behind found) rfl stop

theorem bounded_of_reached (source : String) (s : ParseState Tokenizer) (reached : s.Reached source) :
    s.Bounded := by
  obtain ⟨begun, taken, filled, reads⟩ := reached
  obtain ⟨next, after, found, rfl⟩ := (Parse.refill_ok_iff _ _).mp filled
  exact bounded_of_reads _ s taken (bounded_of_read _ _ found) reads

-- Wherever a parse may have to decide whether an expression can be assigned to, both forms have the
-- same expression and decide alike.
theorem logical_or_agrees (s after : ParseState Tokenizer) (bounded : s.Bounded) (limit levels : Nat)
    (e : Expression)
    (run : Grammar.logicalOr Program.actions (Grammar.nested Program.actions limit levels) s = .ok e after) :
    Grammar.logicalOr SExpr.actions (Grammar.nested SExpr.actions limit levels) s = .ok e.encoded after ∧
      e.encoded.isAssignable = e.target?.isSome := by
  have inner := Grammar.nested_agree encodes sameState.comparison limit levels
  have alike := Grammar.agree_logical_or sameState.comparison.leads_self inner inner.construction s s
    ⟨rfl, bounded⟩
  rw [run] at alike
  cases other : Grammar.logicalOr SExpr.actions (Grammar.nested SExpr.actions limit levels) s with
  | ok x after' =>
      rw [other] at alike
      obtain ⟨⟨rfl, unreserved⟩, rfl, _⟩ := alike
      exact ⟨rfl, assignable_encoded e unreserved⟩
  | error fault after' =>
      rw [other] at alike
      exact alike.elim

theorem parse_encoded (source : String) :
    parse SExpr.actions source = (parse Program.actions source).map Program.encoded := by
  have alike := parse_from_agree encodes maxNesting (Tokenizer.ofSource source) (Tokenizer.ofSource source)
    ⟨rfl, fun token keyword ahead => by cases ahead⟩
  unfold parse
  cases tree : parseFrom Program.actions maxNesting (Tokenizer.ofSource source) <;>
    cases form : parseFrom SExpr.actions maxNesting (Tokenizer.ofSource source) <;>
    rw [tree, form] at alike
  · exact congrArg Except.error alike.symm
  · exact alike.elim
  · exact alike.elim
  · exact congrArg Except.ok alike

theorem encoded_of_parsed (source : String) (program : Program)
    (parsed : parse Program.actions source = .ok program) :
    parse SExpr.actions source = .ok program.encoded := by
  rw [parse_encoded, parsed]
  rfl

-- The two forms of a source: the same error, or the tree and its S-expression.
theorem output_forms_agree (source : String) :
    parse SExpr.actions source = (parse Program.actions source).map Program.encoded ∧
      ∀ s after limit levels e, ParseState.Reached source s →
        Grammar.logicalOr Program.actions (Grammar.nested Program.actions limit levels) s = .ok e after →
        Grammar.logicalOr SExpr.actions (Grammar.nested SExpr.actions limit levels) s =
            .ok e.encoded after ∧
          e.encoded.isAssignable = e.target?.isSome := by
  constructor
  · exact parse_encoded source
  · intro s after limit levels e reached run
    exact logical_or_agrees s after (bounded_of_reached source s reached) limit levels e run

-- At the start of this source both forms read a member, which can be assigned to.
theorem output_forms_agree_at_member :
    ∃ s after e, ParseState.Reached "f.this_[0] = this;" s ∧
      Grammar.logicalOr Program.actions (Grammar.nested Program.actions 64 64) s = .ok e after ∧
      Grammar.logicalOr SExpr.actions (Grammar.nested SExpr.actions 64 64) s = .ok e.encoded after ∧
      e.encoded.isAssignable = e.target?.isSome := by
  have runs : (match Parse.refill (.start (Tokenizer.ofSource "f.this_[0] = this;")) with
      | .ok _ s =>
          match Grammar.logicalOr Program.actions (Grammar.nested Program.actions 64 64) s with
          | .ok _ _ => true
          | .error _ _ => false
      | .error _ _ => false) = true := by decide +kernel
  split at runs
  · rename_i s begun
    split at runs
    · rename_i e after run
      have reached : ParseState.Reached "f.this_[0] = this;" s := ⟨s, [], begun, .nothing _⟩
      exact ⟨s, after, e, reached, run, (output_forms_agree _).2 s after 64 64 e reached run⟩
    · contradiction
  · contradiction

end ScriptFront
