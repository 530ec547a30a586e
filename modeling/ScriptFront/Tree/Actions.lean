import ScriptFront.Grammar.Actions
import ScriptFront.Tree.Basic

set_option autoImplicit false

/-! The syntax tree as an output form of the grammar. -/

namespace ScriptFront

-- A parse with these actions gives the tree of its source.
@[reducible] def Program.actions : Actions where
  Program := Program
  Block := List Statement
  Statement := Statement
  Expression := Expression
  Identifier := Identifier
  Declaration := VariableDeclaration
  Target := Target
  ForInit := ForInit
  program := .mk
  block body := body
  blockStatement := .block
  emptyStatement := .empty
  expressionStatement := .expression
  declaration := .mk
  variableStatement := .variables
  ifStatement := .conditional
  whileStatement := .whileLoop
  doWhileStatement := .doWhileLoop
  forVariables := .variables
  forExpression := .expression
  forStatement := .forLoop
  functionDeclaration := .function
  returnStatement := .returning
  classDeclaration := .classDeclaration
  identifier := .mk
  identifierExpression := .identifier
  number value := .literal (.number value)
  string text := .literal (.string text)
  boolean value := .literal (.boolean value)
  null := .literal .null
  this := .this
  super := .super
  new := .new
  call := .call
  member object property := .member (.named object property)
  computedMember object property := .member (.computed object property)
  target? := Expression.target?
  assignment := .assignment
  binary := .binary
  logical := .logical
  unary := .unary

end ScriptFront
