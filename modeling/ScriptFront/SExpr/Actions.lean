import ScriptFront.Grammar.Actions
import ScriptFront.SExpr.Basic

set_option autoImplicit false

/-! S-expressions as an output form of the grammar. Identifiers and keywords are symbols, every other
node is a list headed by a symbol that names it, and an absent part is the empty list. -/

namespace ScriptFront

namespace SExpr

def orNil (part : Option SExpr) : SExpr :=
  part.getD nil

def ofBoolean (value : Bool) : SExpr :=
  .symbol (if value then "true" else "false")

-- A parse with these actions gives the S-expression of its source.
@[reducible] def actions : Actions where
  Program := SExpr
  Block := SExpr
  Statement := SExpr
  Expression := SExpr
  Identifier := SExpr
  Declaration := SExpr
  Target := SExpr
  ForInit := SExpr
  program := form "begin"
  block := form "begin"
  blockStatement block := block
  emptyStatement := nil
  expressionStatement e := e
  declaration id init := .list (id :: init.toList)
  variableStatement := form "let"
  ifStatement test consequent alternate := form "if" (test :: consequent :: alternate.toList)
  whileStatement test body := form "while" [test, body]
  doWhileStatement body test := form "do-while" [body, test]
  forVariables := form "let"
  forExpression e := e
  forStatement init test update body := form "for" [orNil init, orNil test, orNil update, body]
  functionDeclaration name params body := form "def" [name, .list params, body]
  returnStatement argument := form "return" argument.toList
  classDeclaration id superClass body := form "class" [id, orNil superClass, body]
  identifier := .symbol
  identifierExpression id := id
  number := .number
  string := .string
  boolean := ofBoolean
  null := .symbol "null"
  this := .symbol "this"
  super := .symbol "super"
  new callee arguments := form "new" (callee :: arguments)
  call callee arguments := form "call" (callee :: arguments)
  member object property := form "prop" [object, property]
  computedMember object property := form "index" [object, property]
  target? e := if e.isAssignable then some e else none
  assignment operator left right := form (Spelled.spelling operator) [left, right]
  binary operator left right := form (Spelled.spelling operator) [left, right]
  logical operator left right := form (Spelled.spelling operator) [left, right]
  unary operator argument := form (Spelled.spelling operator) [argument]

end SExpr

end ScriptFront
