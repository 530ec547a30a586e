import ScriptFront.Grammar.Actions
import ScriptFront.Grammar.Expression

set_option autoImplicit false

/-! The grammar as a relation between tokens and what they build. A production may be derived in
several ways where the grammar is ambiguous: an `else` can belong to any `if` that waits for one, and
the operand of a prefix operator can end before any operator. -/

namespace ScriptFront

-- The levels of operators with two operands, from the loosest to the tightest.
inductive Rung where
  | or
  | and
  | equality
  | relational
  | additive
  | multiplicative
deriving DecidableEq

namespace Rung

def kind : Rung → TokenKind
  | .or => .logicalOr
  | .and => .logicalAnd
  | .equality => .equality
  | .relational => .relational
  | .additive => .additive
  | .multiplicative => .multiplicative

-- The next level. The operands of the tightest level are unary expressions.
def tighter : Rung → Option Rung
  | .or => some .and
  | .and => some .equality
  | .equality => some .relational
  | .relational => some .additive
  | .additive => some .multiplicative
  | .multiplicative => none

-- What an operator of the level, given by its text, makes of its operands.
def build? (act : Actions) : Rung → String → Option (act.Expression → act.Expression → act.Expression)
  | .or, text | .and, text => (Spelled.ofSpelling? text).map act.logical
  | _, text => (Spelled.ofSpelling? text).map act.binary

end Rung

namespace Phrase

-- Items with commas between them, at least one and none after the last.
inductive CommaList {α : Type} (item : List Token → α → Prop) : List Token → List α → Prop where
  | one (u : List Token) (a : α) : item u a → CommaList item u [a]
  | more (u v : List Token) (comma : Token) (a : α) (rest : List α) :
      item u a → comma.kind = .mark .comma → CommaList item v rest →
      CommaList item (u ++ comma :: v) (a :: rest)

variable (act : Actions)

inductive Name : List Token → act.Identifier → Prop where
  | intro (id : Token) : id.kind = .identifier → Name [id] (act.identifier id.text)

mutual
inductive Assignment : List Token → act.Expression → Prop where
  | level (u : List Token) (e : act.Expression) : Ladder (some .or) u e → Assignment u e
  | assign (u v : List Token) (op : Token) (left value : act.Expression) (place : act.Target)
      (operator : AssignmentOperator) :
      Ladder (some .or) u left → act.target? left = some place → op.kind.isAssignment = true →
      Spelled.ofSpelling? op.text = some operator → Assignment v value →
      Assignment (u ++ op :: v) (act.assignment operator place value)

-- The levels between an assignment and a call; the last one, of unary expressions, is `none`.
inductive Ladder : Option Rung → List Token → act.Expression → Prop where
  | tighter (rung : Rung) (u : List Token) (e : act.Expression) :
      Ladder rung.tighter u e → Ladder (some rung) u e
  | operator (rung : Rung) (u v : List Token) (op : Token) (left right : act.Expression)
      (build : act.Expression → act.Expression → act.Expression) :
      Ladder (some rung) u left → op.kind = rung.kind → rung.build? act op.text = some build →
      Ladder rung.tighter v right → Ladder (some rung) (u ++ op :: v) (build left right)
  | unary (op : Token) (v : List Token) (operator : UnaryOperator) (e : act.Expression) :
      op.kind = .additive ∨ op.kind = .logicalNot → Spelled.ofSpelling? op.text = some operator →
      Assignment v e → Ladder none (op :: v) (act.unary operator e)
  | leftHandSide (u : List Token) (e : act.Expression) : LeftHandSide u e → Ladder none u e

inductive LeftHandSide : List Token → act.Expression → Prop where
  | member (u : List Token) (e : act.Expression) : Member u e → LeftHandSide u e
  | calls (u : List Token) (e : act.Expression) : Calls u e → LeftHandSide u e

-- A callee and at least one list of arguments.
inductive Calls : List Token → act.Expression → Prop where
  | super (word : Token) (v : List Token) (found : List act.Expression) :
      word.kind = .keyword .superWord → Arguments v found → Calls (word :: v) (act.call act.super found)
  | member (u v : List Token) (callee : act.Expression) (found : List act.Expression) :
      Member u callee → Arguments v found → Calls (u ++ v) (act.call callee found)
  | more (u v : List Token) (callee : act.Expression) (found : List act.Expression) :
      Calls u callee → Arguments v found → Calls (u ++ v) (act.call callee found)

inductive Member : List Token → act.Expression → Prop where
  | primary (u : List Token) (e : act.Expression) : Primary u e → Member u e
  | named (u : List Token) (dot id : Token) (object : act.Expression) :
      Member u object → dot.kind = .mark .dot → id.kind = .identifier →
      Member (u ++ [dot, id]) (act.member object (act.identifier id.text))
  | computed (u v : List Token) (open_ close : Token) (object property : act.Expression) :
      Member u object → open_.kind = .mark .leftBracket → Assignment v property →
      close.kind = .mark .rightBracket →
      Member (u ++ open_ :: (v ++ [close])) (act.computedMember object property)

inductive Primary : List Token → act.Expression → Prop where
  | number (t : Token) (value : Binary64) :
      t.kind = .number → digitsValue? t.text.toList = some value → Primary [t] (act.number value)
  | string (t : Token) : t.kind = .string → Primary [t] (act.string (unquoted t.text))
  | true (t : Token) : t.kind = .keyword .trueWord → Primary [t] (act.boolean true)
  | false (t : Token) : t.kind = .keyword .falseWord → Primary [t] (act.boolean false)
  | null (t : Token) : t.kind = .keyword .nullWord → Primary [t] act.null
  | parenthesized (u : List Token) (open_ close : Token) (e : act.Expression) :
      open_.kind = .mark .leftParen → Assignment u e → close.kind = .mark .rightParen →
      Primary (open_ :: (u ++ [close])) e
  | identifier (t : Token) :
      t.kind = .identifier → Primary [t] (act.identifierExpression (act.identifier t.text))
  | this (t : Token) : t.kind = .keyword .thisWord → Primary [t] act.this
  | new (word : Token) (u v : List Token) (callee : act.Expression) (found : List act.Expression) :
      word.kind = .keyword .newWord → Member u callee → Arguments v found →
      Primary (word :: (u ++ v)) (act.new callee found)

inductive Arguments : List Token → List act.Expression → Prop where
  | none (open_ close : Token) :
      open_.kind = .mark .leftParen → close.kind = .mark .rightParen → Arguments [open_, close] []
  | some (u : List Token) (open_ close : Token) (found : List act.Expression) :
      open_.kind = .mark .leftParen → ArgumentList u found → close.kind = .mark .rightParen →
      Arguments (open_ :: (u ++ [close])) found

inductive ArgumentList : List Token → List act.Expression → Prop where
  | one (u : List Token) (e : act.Expression) : Assignment u e → ArgumentList u [e]
  | more (u v : List Token) (comma : Token) (e : act.Expression) (rest : List act.Expression) :
      Assignment u e → comma.kind = .mark .comma → ArgumentList v rest →
      ArgumentList (u ++ comma :: v) (e :: rest)
end

inductive VariableDeclaration : List Token → act.Declaration → Prop where
  | bare (id : Token) :
      id.kind = .identifier → VariableDeclaration [id] (act.declaration (act.identifier id.text) none)
  | initial (id equals : Token) (u : List Token) (e : act.Expression) :
      id.kind = .identifier → equals.kind = .simpleAssign → Assignment act u e →
      VariableDeclaration (id :: equals :: u) (act.declaration (act.identifier id.text) (some e))

inductive Variables : List Token → List act.Declaration → Prop where
  | intro (word : Token) (u : List Token) (declarations : List act.Declaration) :
      word.kind = .keyword .letWord → CommaList (VariableDeclaration act) u declarations →
      Variables (word :: u) declarations

inductive OptionalExpression : List Token → Option act.Expression → Prop where
  | none : OptionalExpression [] none
  | some (u : List Token) (e : act.Expression) : Assignment act u e → OptionalExpression u (some e)

inductive Condition : List Token → act.Expression → Prop where
  | intro (u : List Token) (open_ close : Token) (e : act.Expression) :
      open_.kind = .mark .leftParen → Assignment act u e → close.kind = .mark .rightParen →
      Condition (open_ :: (u ++ [close])) e

inductive ForInit : List Token → Option act.ForInit → Prop where
  | none : ForInit [] none
  | variables (u : List Token) (declarations : List act.Declaration) :
      Variables act u declarations → ForInit u (some (act.forVariables declarations))
  | expression (u : List Token) (e : act.Expression) :
      Assignment act u e → ForInit u (some (act.forExpression e))

inductive Parameters : List Token → List act.Identifier → Prop where
  | none (open_ close : Token) :
      open_.kind = .mark .leftParen → close.kind = .mark .rightParen → Parameters [open_, close] []
  | some (u : List Token) (open_ close : Token) (params : List act.Identifier) :
      open_.kind = .mark .leftParen → CommaList (Name act) u params →
      close.kind = .mark .rightParen → Parameters (open_ :: (u ++ [close])) params

inductive SuperClass : List Token → Option act.Identifier → Prop where
  | none : SuperClass [] none
  | some (word id : Token) :
      word.kind = .keyword .extendsWord → id.kind = .identifier →
      SuperClass [word, id] (some (act.identifier id.text))

mutual
inductive Statement : List Token → act.Statement → Prop where
  | empty (stop : Token) : stop.kind = .mark .semicolon → Statement [stop] act.emptyStatement
  | block (u : List Token) (body : act.Block) : Block u body → Statement u (act.blockStatement body)
  | variables (u : List Token) (stop : Token) (declarations : List act.Declaration) :
      Variables act u declarations → stop.kind = .mark .semicolon →
      Statement (u ++ [stop]) (act.variableStatement declarations)
  | function (word name : Token) (u v : List Token) (params : List act.Identifier) (body : act.Block) :
      word.kind = .keyword .defWord → name.kind = .identifier → Parameters act u params → Block v body →
      Statement (word :: name :: (u ++ v)) (act.functionDeclaration (act.identifier name.text) params body)
  | classDeclaration (word id : Token) (u v : List Token) (parent : Option act.Identifier)
      (body : act.Block) :
      word.kind = .keyword .classWord → id.kind = .identifier → SuperClass act u parent → Block v body →
      Statement (word :: id :: (u ++ v)) (act.classDeclaration (act.identifier id.text) parent body)
  | returning (word stop : Token) (u : List Token) (argument : Option act.Expression) :
      word.kind = .keyword .returnWord → OptionalExpression act u argument →
      stop.kind = .mark .semicolon → Statement (word :: (u ++ [stop])) (act.returnStatement argument)
  | conditional (word : Token) (u v : List Token) (test : act.Expression) (consequent : act.Statement) :
      word.kind = .keyword .ifWord → Condition act u test → Statement v consequent →
      Statement (word :: (u ++ v)) (act.ifStatement test consequent none)
  | alternative (word otherwise : Token) (u v w : List Token) (test : act.Expression)
      (consequent alternate : act.Statement) :
      word.kind = .keyword .ifWord → Condition act u test → Statement v consequent →
      otherwise.kind = .keyword .elseWord → Statement w alternate →
      Statement (word :: (u ++ (v ++ otherwise :: w))) (act.ifStatement test consequent (some alternate))
  | whileLoop (word : Token) (u v : List Token) (test : act.Expression) (body : act.Statement) :
      word.kind = .keyword .whileWord → Condition act u test → Statement v body →
      Statement (word :: (u ++ v)) (act.whileStatement test body)
  | doWhileLoop (word again stop : Token) (u v : List Token) (body : act.Statement)
      (test : act.Expression) :
      word.kind = .keyword .doWord → Statement u body → again.kind = .keyword .whileWord →
      Condition act v test → stop.kind = .mark .semicolon →
      Statement (word :: (u ++ again :: (v ++ [stop]))) (act.doWhileStatement body test)
  | forLoop (word open_ first second close : Token) (u v w x : List Token)
      (init : Option act.ForInit) (test update : Option act.Expression) (body : act.Statement) :
      word.kind = .keyword .forWord → open_.kind = .mark .leftParen → ForInit act u init →
      first.kind = .mark .semicolon → OptionalExpression act v test → second.kind = .mark .semicolon →
      OptionalExpression act w update → close.kind = .mark .rightParen → Statement x body →
      Statement (word :: open_ :: (u ++ first :: (v ++ second :: (w ++ close :: x))))
        (act.forStatement init test update body)
  | expression (u : List Token) (stop : Token) (e : act.Expression) :
      Assignment act u e → stop.kind = .mark .semicolon →
      Statement (u ++ [stop]) (act.expressionStatement e)

inductive Block : List Token → act.Block → Prop where
  | intro (open_ close : Token) (u : List Token) (body : List act.Statement) :
      open_.kind = .mark .leftBrace → Statements u body → close.kind = .mark .rightBrace →
      Block (open_ :: (u ++ [close])) (act.block body)

inductive Statements : List Token → List act.Statement → Prop where
  | none : Statements [] []
  | more (u v : List Token) (first : act.Statement) (rest : List act.Statement) :
      Statement u first → Statements v rest → Statements (u ++ v) (first :: rest)
end

inductive Program : List Token → act.Program → Prop where
  | intro (u : List Token) (body : List act.Statement) :
      Statements act u body → Program u (act.program body)

end Phrase

end ScriptFront
