import ScriptFront.Number.Binary64
import ScriptFront.Operator

set_option autoImplicit false

/-! What a parse builds: one action for every production of the grammar. -/

namespace ScriptFront

-- The kinds of nodes of an output form, and how each node is made of its parts.
structure Actions where
  Program : Type
  Block : Type
  Statement : Type
  Expression : Type
  Identifier : Type
  Declaration : Type
  Target : Type
  ForInit : Type
  program : List Statement → Program
  block : List Statement → Block
  blockStatement : Block → Statement
  emptyStatement : Statement
  expressionStatement : Expression → Statement
  declaration : Identifier → Option Expression → Declaration
  variableStatement : List Declaration → Statement
  ifStatement : Expression → Statement → Option Statement → Statement
  whileStatement : Expression → Statement → Statement
  doWhileStatement : Statement → Expression → Statement
  forVariables : List Declaration → ForInit
  forExpression : Expression → ForInit
  forStatement : Option ForInit → Option Expression → Option Expression → Statement → Statement
  functionDeclaration : Identifier → List Identifier → Block → Statement
  returnStatement : Option Expression → Statement
  classDeclaration : Identifier → Option Identifier → Block → Statement
  identifier : String → Identifier
  identifierExpression : Identifier → Expression
  number : Binary64 → Expression
  string : String → Expression
  boolean : Bool → Expression
  null : Expression
  this : Expression
  super : Expression
  new : Expression → List Expression → Expression
  call : Expression → List Expression → Expression
  member : Expression → Identifier → Expression
  computedMember : Expression → Expression → Expression
  -- What an expression names, if it can be assigned to.
  target? : Expression → Option Target
  assignment : AssignmentOperator → Target → Expression → Expression
  binary : BinaryOperator → Expression → Expression → Expression
  logical : LogicalOperator → Expression → Expression → Expression
  unary : UnaryOperator → Expression → Expression

end ScriptFront
