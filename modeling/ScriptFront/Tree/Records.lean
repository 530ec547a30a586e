import ScriptFront.Tree.Reader

set_option autoImplicit false

/-! Reading the nodes that stand in a tree under their kind only, as records of their own: from an object,
whatever kind it says that it is of, or from an array. -/

namespace ScriptFront

namespace Node

def expressionStatementRecord (n : Node) : Except Fault Statement :=
  n.record "ExpressionStatement" n.expressionStatement
    (do
      let value ← n.item "ExpressionStatement" 1 0 Reading.expression
      n.noMoreItems 1
      return .expression value)

def variablesRecord (n : Node) : Except Fault (List VariableDeclaration) :=
  n.record "VariableStatement" n.variableList
    (do
      let declarations ← n.item "VariableStatement" 1 0 Reading.declarations
      n.noMoreItems 1
      return declarations)

def conditionalRecord (n : Node) : Except Fault Statement :=
  n.record "IfStatement" n.conditional
    (do
      let test ← n.item "IfStatement" 3 0 Reading.expression
      let consequent ← n.item "IfStatement" 3 1 Reading.statement
      let alternate ← n.item "IfStatement" 3 2 (Reading.optional Reading.statement)
      n.noMoreItems 3
      return .conditional test consequent alternate)

def whileLoopRecord (n : Node) : Except Fault Statement :=
  n.record "WhileStatement" n.whileLoop
    (do
      let test ← n.item "WhileStatement" 2 0 Reading.expression
      let body ← n.item "WhileStatement" 2 1 Reading.statement
      n.noMoreItems 2
      return .whileLoop test body)

def doWhileLoopRecord (n : Node) : Except Fault Statement :=
  n.record "DoWhileStatement" n.doWhileLoop
    (do
      let body ← n.item "DoWhileStatement" 2 0 Reading.statement
      let test ← n.item "DoWhileStatement" 2 1 Reading.expression
      n.noMoreItems 2
      return .doWhileLoop body test)

def forLoopRecord (n : Node) : Except Fault Statement :=
  n.record "ForStatement" n.forLoop
    (do
      let init ← n.item "ForStatement" 4 0 (Reading.optional Reading.forInit)
      let test ← n.item "ForStatement" 4 1 (Reading.optional Reading.expression)
      let update ← n.item "ForStatement" 4 2 (Reading.optional Reading.expression)
      let body ← n.item "ForStatement" 4 3 Reading.statement
      n.noMoreItems 4
      return .forLoop init test update body)

def functionRecord (n : Node) : Except Fault Statement :=
  n.record "FunctionDeclaration" n.function
    (do
      let name ← n.item "FunctionDeclaration" 3 0 Reading.identifier
      let params ← n.item "FunctionDeclaration" 3 1 Reading.identifiers
      let body ← n.item "FunctionDeclaration" 3 2 Reading.block
      n.noMoreItems 3
      return .function name params body)

def returningRecord (n : Node) : Except Fault Statement :=
  n.record "ReturnStatement" n.returning
    (do
      let argument ← n.item "ReturnStatement" 1 0 (Reading.optional Reading.expression)
      n.noMoreItems 1
      return .returning argument)

-- A callee and its arguments, of a call or of a construction.
def applicationRecord (n : Node) (name : String) : Except Fault (Expression × List Expression) :=
  n.record name n.application
    (do
      let callee ← n.item name 2 0 Reading.expression
      let arguments ← n.item name 2 1 Reading.expressions
      n.noMoreItems 2
      return (callee, arguments))

def assignmentRecord (n : Node) : Except Fault Expression :=
  n.record "AssignmentExpression" n.assignment
    (do
      let operator ← n.item "AssignmentExpression" 3 0 Reading.word
      let left ← n.item "AssignmentExpression" 3 1 Reading.target
      let right ← n.item "AssignmentExpression" 3 2 Reading.expression
      n.noMoreItems 3
      return .assignment operator left right)

def operationRecord {ω : Type} [Spelled ω] (n : Node) (name : String)
    (build : ω → Expression → Expression → Expression) : Except Fault Expression :=
  n.record name (n.operation build)
    (do
      let operator ← n.item name 3 0 Reading.word
      let left ← n.item name 3 1 Reading.expression
      let right ← n.item name 3 2 Reading.expression
      n.noMoreItems 3
      return build operator left right)

def unaryRecord (n : Node) : Except Fault Expression :=
  n.record "UnaryExpression" n.unary
    (do
      let operator ← n.item "UnaryExpression" 2 0 Reading.word
      let argument ← n.item "UnaryExpression" 2 1 Reading.expression
      n.noMoreItems 2
      return .unary operator argument)

end Node

end ScriptFront
