import ScriptFront.Proofs.Phrase
import ScriptFront.Tree.Basic

set_option autoImplicit false

/-! A source text for a tree: the tokens of every node in the order of its production, with parentheses
around each operand that has parts of its own, and a space between any two tokens. The expressions that
are parts of statements stand in such parentheses or not. -/

namespace ScriptFront

-- A token without a place.
def TokenKind.written (kind : TokenKind) (text : String) : Token :=
  ⟨kind, text, .empty⟩

@[simp] theorem TokenKind.written_kind (kind : TokenKind) (text : String) : (kind.written text).kind = kind :=
  rfl

@[simp] theorem TokenKind.written_text (kind : TokenKind) (text : String) : (kind.written text).text = text :=
  rfl

def Mark.token (m : Mark) : Token :=
  (TokenKind.mark m).written (Spelled.spelling m)

def Keyword.token (k : Keyword) : Token :=
  (TokenKind.keyword k).written (Spelled.spelling k)

@[simp] theorem Mark.token_kind (m : Mark) : m.token.kind = .mark m :=
  rfl

@[simp] theorem Keyword.token_kind (k : Keyword) : k.token.kind = .keyword k :=
  rfl

def Identifier.token (id : Identifier) : Token :=
  TokenKind.identifier.written id.name

-- The level of an operator with two operands.
def BinaryOperator.rung : BinaryOperator → Rung
  | .add | .subtract => .additive
  | .multiply | .divide => .multiplicative
  | .equal | .notEqual => .equality
  | .less | .lessEqual | .greater | .greaterEqual => .relational

def LogicalOperator.rung : LogicalOperator → Rung
  | .and => .and
  | .or => .or

def UnaryOperator.kind : UnaryOperator → TokenKind
  | .plus | .minus => .additive
  | .not => .logicalNot

def AssignmentOperator.kind : AssignmentOperator → TokenKind
  | .assign => .simpleAssign
  | _ => .complexAssign

def Binary64.isSafeNatural : Binary64 → Bool
  | .finite x => x.safeInteger?.any (0 ≤ ·)
  | _ => false

-- The natural number that a number is, if it is one.
def Binary64.natural : Binary64 → Nat
  | .finite x => (x.safeInteger?.getD 0).toNat
  | _ => 0

-- Single quotes around a text with a double quote inside, and double quotes around all others.
def quoteOf (text : String) : Char :=
  if text.toList.contains '"' then '\x27' else '"'

def Literal.token : Literal → Token
  | .number value => TokenKind.number.written (String.ofList (Nat.toDigits 10 value.natural))
  | .string text =>
      TokenKind.string.written (String.ofList (quoteOf text :: (text.toList ++ [quoteOf text])))
  | .boolean true => Keyword.trueWord.token
  | .boolean false => Keyword.falseWord.token
  | .null => Keyword.nullWord.token

def Expression.isCompound : Expression → Bool
  | .identifier _ | .literal _ | .this | .super => false
  | _ => true

def parenthesized (tokens : List Token) : List Token :=
  Mark.leftParen.token :: (tokens ++ [Mark.rightParen.token])

def enclosed (compound : Bool) (tokens : List Token) : List Token :=
  if compound then parenthesized tokens else tokens

def commas (items : List (List Token)) : List Token :=
  [Mark.comma.token].intercalate items

def braced (tokens : List Token) : List Token :=
  Mark.leftBrace.token :: (tokens ++ [Mark.rightBrace.token])

mutual
def Expression.tokens : Expression → List Token
  | .identifier id => [id.token]
  | .literal value => [value.token]
  | .this => [Keyword.thisWord.token]
  | .super => [Keyword.superWord.token]
  | .new callee arguments =>
      Keyword.newWord.token ::
        (enclosed callee.isCompound callee.tokens ++ parenthesized (commas (operandTokens arguments)))
  | .call callee arguments =>
      enclosed callee.isCompound callee.tokens ++ parenthesized (commas (operandTokens arguments))
  | .member place => place.tokens
  | .assignment operator target value =>
      target.tokens ++ operator.kind.written (Spelled.spelling operator) :: enclosed value.isCompound value.tokens
  | .binary operator left right =>
      enclosed left.isCompound left.tokens ++
        operator.rung.kind.written (Spelled.spelling operator) :: enclosed right.isCompound right.tokens
  | .logical operator left right =>
      enclosed left.isCompound left.tokens ++
        operator.rung.kind.written (Spelled.spelling operator) :: enclosed right.isCompound right.tokens
  | .unary operator argument =>
      operator.kind.written (Spelled.spelling operator) :: enclosed argument.isCompound argument.tokens

def Member.tokens : Member → List Token
  | .named object property => enclosed object.isCompound object.tokens ++ [Mark.dot.token, property.token]
  | .computed object property =>
      enclosed object.isCompound object.tokens ++
        Mark.leftBracket.token :: (enclosed property.isCompound property.tokens ++ [Mark.rightBracket.token])

def Target.tokens : Target → List Token
  | .identifier id => [id.token]
  | .member place => parenthesized place.tokens

def operandTokens : List Expression → List (List Token)
  | [] => []
  | e :: rest => enclosed e.isCompound e.tokens :: operandTokens rest
end

-- An expression that is no operand of another one. The production of its statement ends it, so it stands
-- in parentheses only if these are `fenced`.
def Expression.wholeTokens (fenced : Bool) (e : Expression) : List Token :=
  enclosed (fenced && e.isCompound) e.tokens

def VariableDeclaration.tokens (fenced : Bool) (declaration : VariableDeclaration) : List Token :=
  declaration.id.token ::
    declaration.init.elim [] fun value => TokenKind.simpleAssign.written "=" :: value.wholeTokens fenced

def variableTokens (fenced : Bool) (declarations : List VariableDeclaration) : List Token :=
  Keyword.letWord.token :: commas (declarations.map (VariableDeclaration.tokens fenced))

def ForInit.tokens (fenced : Bool) : ForInit → List Token
  | .variables declarations => variableTokens fenced declarations
  | .expression value => value.wholeTokens fenced

mutual
def Statement.tokens (fenced : Bool) : Statement → List Token
  | .block body => braced (statementTokens fenced body)
  | .empty => [Mark.semicolon.token]
  | .expression value => value.wholeTokens fenced ++ [Mark.semicolon.token]
  | .variables declarations => variableTokens fenced declarations ++ [Mark.semicolon.token]
  | .conditional test consequent none =>
      Keyword.ifWord.token :: (parenthesized (test.wholeTokens fenced) ++ consequent.tokens fenced)
  | .conditional test consequent (some alternate) =>
      Keyword.ifWord.token :: (parenthesized (test.wholeTokens fenced) ++
        (consequent.tokens fenced ++ Keyword.elseWord.token :: alternate.tokens fenced))
  | .whileLoop test body =>
      Keyword.whileWord.token :: (parenthesized (test.wholeTokens fenced) ++ body.tokens fenced)
  | .doWhileLoop body test =>
      Keyword.doWord.token :: (body.tokens fenced ++ Keyword.whileWord.token ::
        (parenthesized (test.wholeTokens fenced) ++ [Mark.semicolon.token]))
  | .forLoop init test update body =>
      Keyword.forWord.token :: Mark.leftParen.token ::
        (init.elim [] (ForInit.tokens fenced) ++ Mark.semicolon.token ::
          (test.elim [] (Expression.wholeTokens fenced) ++ Mark.semicolon.token ::
            (update.elim [] (Expression.wholeTokens fenced) ++ Mark.rightParen.token :: body.tokens fenced)))
  | .function name params body =>
      Keyword.defWord.token :: name.token ::
        (parenthesized (commas (params.map fun id => [id.token])) ++ braced (statementTokens fenced body))
  | .returning argument =>
      Keyword.returnWord.token ::
        (argument.elim [] (Expression.wholeTokens fenced) ++ [Mark.semicolon.token])
  | .classDeclaration id superClass body =>
      Keyword.classWord.token :: id.token ::
        (superClass.elim [] (fun parent => [Keyword.extendsWord.token, parent.token]) ++
          braced (statementTokens fenced body))

def statementTokens (fenced : Bool) : List Statement → List Token
  | [] => []
  | s :: rest => s.tokens fenced ++ statementTokens fenced rest
end

def Program.tokens (fenced : Bool) (program : Program) : List Token :=
  statementTokens fenced program.body

def Program.text (fenced : Bool) (program : Program) : String :=
  " ".intercalate ((program.tokens fenced).map Token.text)

section Levels

def enclosedLevels (compound : Bool) (levels : Nat) : Nat :=
  if compound then levels + 1 else levels

mutual
-- How many expressions and constructions are open at once inside the tokens of an expression. Every
-- pair of parentheses, every argument, every property in brackets, the value of an assignment and the
-- argument of a prefix operator is an expression of its own.
def Expression.levels : Expression → Nat
  | .identifier _ | .literal _ | .this | .super => 0
  | .new callee arguments => max (enclosedLevels callee.isCompound callee.levels) (operandLevels arguments) + 1
  | .call callee arguments => max (enclosedLevels callee.isCompound callee.levels) (operandLevels arguments)
  | .member place => place.levels
  | .assignment _ target value => max target.levels (enclosedLevels value.isCompound value.levels + 1)
  | .binary _ left right =>
      max (enclosedLevels left.isCompound left.levels) (enclosedLevels right.isCompound right.levels)
  | .logical _ left right =>
      max (enclosedLevels left.isCompound left.levels) (enclosedLevels right.isCompound right.levels)
  | .unary _ argument => enclosedLevels argument.isCompound argument.levels + 1

def Member.levels : Member → Nat
  | .named object _ => enclosedLevels object.isCompound object.levels
  | .computed object property =>
      max (enclosedLevels object.isCompound object.levels) (enclosedLevels property.isCompound property.levels + 1)

def Target.levels : Target → Nat
  | .identifier _ => 0
  | .member place => place.levels + 1

def operandLevels : List Expression → Nat
  | [] => 0
  | e :: rest => max (enclosedLevels e.isCompound e.levels + 1) (operandLevels rest)
end

def deepest {α : Type} (levels : α → Nat) : List α → Nat
  | [] => 0
  | a :: rest => max (levels a) (deepest levels rest)

def Expression.wholeLevels (fenced : Bool) (e : Expression) : Nat :=
  enclosedLevels (fenced && e.isCompound) e.levels + 1

def VariableDeclaration.levels (fenced : Bool) (declaration : VariableDeclaration) : Nat :=
  declaration.init.elim 0 (Expression.wholeLevels fenced)

def ForInit.levels (fenced : Bool) : ForInit → Nat
  | .variables declarations => deepest (VariableDeclaration.levels fenced) declarations
  | .expression value => value.wholeLevels fenced

mutual
-- How many statements, expressions and constructions are open at once inside the tokens of a statement.
def Statement.levels (fenced : Bool) : Statement → Nat
  | .block body => statementLevels fenced body
  | .empty => 0
  | .expression value => value.wholeLevels fenced
  | .variables declarations => deepest (VariableDeclaration.levels fenced) declarations
  | .conditional test consequent none => max (test.wholeLevels fenced) (consequent.levels fenced + 1)
  | .conditional test consequent (some alternate) =>
      max (test.wholeLevels fenced) (max (consequent.levels fenced + 1) (alternate.levels fenced + 1))
  | .whileLoop test body => max (test.wholeLevels fenced) (body.levels fenced + 1)
  | .doWhileLoop body test => max (body.levels fenced + 1) (test.wholeLevels fenced)
  | .forLoop init test update body =>
      max (init.elim 0 (ForInit.levels fenced))
        (max (test.elim 0 (Expression.wholeLevels fenced))
          (max (update.elim 0 (Expression.wholeLevels fenced)) (body.levels fenced + 1)))
  | .function _ _ body => statementLevels fenced body
  | .returning argument => argument.elim 0 (Expression.wholeLevels fenced)
  | .classDeclaration _ _ body => statementLevels fenced body

def statementLevels (fenced : Bool) : List Statement → Nat
  | [] => 0
  | s :: rest => max (s.levels fenced + 1) (statementLevels fenced rest)
end

def Program.levels (fenced : Bool) (program : Program) : Nat :=
  statementLevels fenced program.body

end Levels

end ScriptFront
