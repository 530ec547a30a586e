import ScriptFront.Json.Scalar
import ScriptFront.Tree.Basic

set_option autoImplicit false

/-! Reading trees from JSON values. What a value reads as follows from what its parts read as, so
every value is read as each kind of node at once, from the parts up. Of several faults the first
counts: members are looked at in the order of their names, and missing ones after that in the order
of the node. -/

namespace ScriptFront

-- What a JSON value reads as, for every kind of part of a node.
structure Reading where
  value : Json
  statement : Except Fault Statement
  expression : Except Fault Expression
  forInit : Except Fault ForInit
  target : Except Fault Target
  identifier : Except Fault Identifier
  declaration : Except Fault VariableDeclaration
  block : Except Fault (List Statement)
  statements : Except Fault (List Statement)
  expressions : Except Fault (List Expression)
  identifiers : Except Fault (List Identifier)
  declarations : Except Fault (List VariableDeclaration)

namespace Reading

def text (r : Reading) : Except Fault String :=
  r.value.asText

def boolean (r : Reading) : Except Fault Bool :=
  r.value.asBoolean

def number (r : Reading) : Except Fault Binary64 :=
  r.value.asNumber

def word {α : Type} [Spelled α] (r : Reading) : Except Fault α :=
  r.value.asWord

-- `null` stands for an absent part.
def optional {α : Type} (read : Reading → Except Fault α) (r : Reading) : Except Fault (Option α) :=
  match r.value with
  | .null => .ok none
  | _ => (read r).map some

end Reading

-- A JSON value and what its items or members read as.
structure Node where
  value : Json
  items : List Reading
  members : List (String × Reading)

-- The kind of node that an object says it is.
def nodeKind (value : Json) : Except Fault String :=
  match (value.member? "type").bind Json.text? with
  | some kind => .ok kind
  | none => .error (.missingField "type")

def required {α : Type} (name : String) : Option α → Except Fault α
  | some a => .ok a
  | none => .error (.missingField name)

def statementKinds : List String :=
  ["BlockStatement", "EmptyStatement", "ExpressionStatement", "VariableStatement", "IfStatement",
    "WhileStatement", "DoWhileStatement", "ForStatement", "FunctionDeclaration", "ReturnStatement",
    "ClassDeclaration"]

def literalKinds : List String :=
  ["NumericLiteral", "StringLiteral", "BooleanLiteral", "NullLiteral"]

def expressionKinds : List String :=
  ["Identifier"] ++ literalKinds ++
    ["ThisExpression", "Super", "NewExpression", "CallExpression", "MemberExpression",
      "AssignmentExpression", "BinaryExpression", "LogicalExpression", "UnaryExpression"]

namespace Node

variable {α : Type}

-- The value of a member, if it is there.
def field? (n : Node) (name : String) (read : Reading → Except Fault α) : Except Fault (Option α) :=
  match lastOf name n.members with
  | none => .ok none
  | some r => (read r).map some

-- The value of a member that may be missing or `null`.
def optionalField (n : Node) (name : String) (read : Reading → Except Fault α) :
    Except Fault (Option α) :=
  (n.field? name (Reading.optional read)).map Option.join

-- The item of an array that holds the fields of a record in their order.
def item (n : Node) (record : String) (fields index : Nat) (read : Reading → Except Fault α) :
    Except Fault α :=
  match n.items[index]? with
  | none => .error (.tooFewItems index record fields)
  | some r => read r

def noMoreItems (n : Node) (fields : Nat) : Except Fault Unit :=
  if fields < n.items.length then .error (.tooManyItems n.items.length) else .ok ()

-- A record is an object with its fields as members, or an array with them as items.
def record (n : Node) (name : String) (ofMembers ofItems : Except Fault α) : Except Fault α :=
  match n.value with
  | .object _ => ofMembers
  | .array _ => ofItems
  | other => .error (.invalidType other.shape (.record name))

def list (n : Node) (read : Reading → Except Fault α) : Except Fault (List α) :=
  match n.value with
  | .array _ => n.items.mapM read
  | other => .error (.invalidType other.shape .sequence)

def identifier (n : Node) : Except Fault Identifier :=
  n.record "Identifier"
    (do
      let name ← n.field? "name" Reading.text
      return ⟨← required "name" name⟩)
    (do
      let name ← n.item "Identifier" 1 0 Reading.text
      n.noMoreItems 1
      return ⟨name⟩)

-- A record with the one field `body`.
def bodyOf (n : Node) (name : String) : Except Fault (List Statement) :=
  n.record name
    (do
      let body ← n.field? "body" Reading.statements
      required "body" body)
    (do
      let body ← n.item name 1 0 Reading.statements
      n.noMoreItems 1
      return body)

def block (n : Node) : Except Fault (List Statement) :=
  n.bodyOf "BlockStatement"

def declaration (n : Node) : Except Fault VariableDeclaration :=
  n.record "VariableDeclaration"
    (do
      let id ← n.field? "id" Reading.identifier
      let init ← n.optionalField "init" Reading.expression
      return ⟨← required "id" id, init⟩)
    (do
      let id ← n.item "VariableDeclaration" 2 0 Reading.identifier
      let init ← n.item "VariableDeclaration" 2 1 (Reading.optional Reading.expression)
      n.noMoreItems 2
      return ⟨id, init⟩)

def variableList (n : Node) : Except Fault (List VariableDeclaration) := do
  let declarations ← n.field? "declarations" Reading.declarations
  required "declarations" declarations

def literalValue (n : Node) (read : Reading → Except Fault α) : Except Fault α := do
  let value ← n.field? "value" read
  required "value" value

def literal (n : Node) : Except Fault Literal := do
  match ← nodeKind n.value with
  | "NumericLiteral" => return .number (← n.literalValue Reading.number)
  | "StringLiteral" => return .string (← n.literalValue Reading.text)
  | "BooleanLiteral" => return .boolean (← n.literalValue Reading.boolean)
  | "NullLiteral" => return .null
  | other => throw (.unknownVariant other literalKinds)

-- The property of a member is an identifier unless it is computed.
def memberOf (object : Expression) (property : Reading) (computed : Bool) : Except Fault Member := do
  if computed then return .computed object (← property.expression)
  else if (← nodeKind property.value) = "Identifier" then return .named object (← property.identifier)
  else throw .computedName

def member (n : Node) : Except Fault Member :=
  n.record "RawMember"
    (do
      let computed ← n.field? "computed" Reading.boolean
      let object ← n.field? "object" Reading.expression
      let property ← n.field? "property" Except.ok
      let object ← required "object" object
      let property ← required "property" property
      let computed ← required "computed" computed
      memberOf object property computed)
    (do
      let object ← n.item "RawMember" 3 0 Reading.expression
      let property ← n.item "RawMember" 3 1 Except.ok
      let computed ← n.item "RawMember" 3 2 Reading.boolean
      n.noMoreItems 3
      memberOf object property computed)

-- A callee and its arguments.
def application (n : Node) : Except Fault (Expression × List Expression) := do
  let arguments ← n.field? "arguments" Reading.expressions
  let callee ← n.field? "callee" Reading.expression
  let callee ← required "callee" callee
  let arguments ← required "arguments" arguments
  return (callee, arguments)

def assignment (n : Node) : Except Fault Expression := do
  let left ← n.field? "left" Reading.target
  let operator ← n.field? "operator" Reading.word
  let right ← n.field? "right" Reading.expression
  let operator ← required "operator" operator
  let left ← required "left" left
  let right ← required "right" right
  return .assignment operator left right

-- An operator with two operands.
def operation {ω : Type} [Spelled ω] (n : Node)
    (build : ω → Expression → Expression → Expression) : Except Fault Expression := do
  let left ← n.field? "left" Reading.expression
  let operator ← n.field? "operator" Reading.word
  let right ← n.field? "right" Reading.expression
  let operator ← required "operator" operator
  let left ← required "left" left
  let right ← required "right" right
  return build operator left right

def unary (n : Node) : Except Fault Expression := do
  let argument ← n.field? "argument" Reading.expression
  let operator ← n.field? "operator" Reading.word
  let operator ← required "operator" operator
  let argument ← required "argument" argument
  return .unary operator argument

def expression (n : Node) : Except Fault Expression := do
  match ← nodeKind n.value with
  | "Identifier" => return .identifier (← n.identifier)
  | "NumericLiteral" | "StringLiteral" | "BooleanLiteral" | "NullLiteral" =>
      return .literal (← n.literal)
  | "ThisExpression" => return .this
  | "Super" => return .super
  | "NewExpression" =>
      let (callee, arguments) ← n.application
      return .new callee arguments
  | "CallExpression" =>
      let (callee, arguments) ← n.application
      return .call callee arguments
  | "MemberExpression" => return .member (← n.member)
  | "AssignmentExpression" => n.assignment
  | "BinaryExpression" => n.operation .binary
  | "LogicalExpression" => n.operation .logical
  | "UnaryExpression" => n.unary
  | other => throw (.unknownVariant other expressionKinds)

def target (n : Node) : Except Fault Target := do
  match (← n.expression).target? with
  | some place => return place
  | none => throw .notAssignable

-- A list of declarations is told from an expression by its kind alone.
def forInit (n : Node) : Except Fault ForInit := do
  if (← nodeKind n.value) = "VariableStatement" then return .variables (← n.variableList)
  else return .expression (← n.expression)

def conditional (n : Node) : Except Fault Statement := do
  let alternate ← n.optionalField "alternate" Reading.statement
  let consequent ← n.field? "consequent" Reading.statement
  let test ← n.field? "test" Reading.expression
  let test ← required "test" test
  let consequent ← required "consequent" consequent
  return .conditional test consequent alternate

def whileLoop (n : Node) : Except Fault Statement := do
  let body ← n.field? "body" Reading.statement
  let test ← n.field? "test" Reading.expression
  let test ← required "test" test
  let body ← required "body" body
  return .whileLoop test body

def doWhileLoop (n : Node) : Except Fault Statement := do
  let body ← n.field? "body" Reading.statement
  let test ← n.field? "test" Reading.expression
  let body ← required "body" body
  let test ← required "test" test
  return .doWhileLoop body test

def forLoop (n : Node) : Except Fault Statement := do
  let body ← n.field? "body" Reading.statement
  let init ← n.optionalField "init" Reading.forInit
  let test ← n.optionalField "test" Reading.expression
  let update ← n.optionalField "update" Reading.expression
  let body ← required "body" body
  return .forLoop init test update body

def function (n : Node) : Except Fault Statement := do
  let body ← n.field? "body" Reading.block
  let name ← n.field? "name" Reading.identifier
  let params ← n.field? "params" Reading.identifiers
  let name ← required "name" name
  let params ← required "params" params
  let body ← required "body" body
  return .function name params body

def classDeclaration (n : Node) : Except Fault Statement :=
  n.record "ClassDeclaration"
    (do
      let body ← n.field? "body" Reading.block
      let id ← n.field? "id" Reading.identifier
      let superClass ← n.optionalField "superClass" Reading.identifier
      let id ← required "id" id
      let body ← required "body" body
      return .classDeclaration id superClass body)
    (do
      let id ← n.item "ClassDeclaration" 3 0 Reading.identifier
      let superClass ← n.item "ClassDeclaration" 3 1 (Reading.optional Reading.identifier)
      let body ← n.item "ClassDeclaration" 3 2 Reading.block
      n.noMoreItems 3
      return .classDeclaration id superClass body)

def expressionStatement (n : Node) : Except Fault Statement := do
  let value ← n.field? "expression" Reading.expression
  return .expression (← required "expression" value)

def returning (n : Node) : Except Fault Statement := do
  let argument ← n.optionalField "argument" Reading.expression
  return .returning argument

def statement (n : Node) : Except Fault Statement := do
  match ← nodeKind n.value with
  | "BlockStatement" => return .block (← n.block)
  | "EmptyStatement" => return .empty
  | "ExpressionStatement" => n.expressionStatement
  | "VariableStatement" => return .variables (← n.variableList)
  | "IfStatement" => n.conditional
  | "WhileStatement" => n.whileLoop
  | "DoWhileStatement" => n.doWhileLoop
  | "ForStatement" => n.forLoop
  | "FunctionDeclaration" => n.function
  | "ReturnStatement" => n.returning
  | "ClassDeclaration" => n.classDeclaration
  | other => throw (.unknownVariant other statementKinds)

def program (n : Node) : Except Fault Program :=
  (n.bodyOf "Program").map .mk

def reading (n : Node) : Reading where
  value := n.value
  statement := n.statement
  expression := n.expression
  forInit := n.forInit
  target := n.target
  identifier := n.identifier
  declaration := n.declaration
  block := n.block
  statements := n.list Reading.statement
  expressions := n.list Reading.expression
  identifiers := n.list Reading.identifier
  declarations := n.list Reading.declaration

end Node

mutual
def Json.reading : Json → Reading
  | .array items => Node.reading ⟨.array items, readings items, []⟩
  | .object members => Node.reading ⟨.object members, [], memberReadings members⟩
  | .null => Node.reading ⟨.null, [], []⟩
  | .boolean value => Node.reading ⟨.boolean value, [], []⟩
  | .integer value => Node.reading ⟨.integer value, [], []⟩
  | .float value => Node.reading ⟨.float value, [], []⟩
  | .string text => Node.reading ⟨.string text, [], []⟩

def readings : List Json → List Reading
  | [] => []
  | item :: rest => item.reading :: readings rest

def memberReadings : List (String × Json) → List (String × Reading)
  | [] => []
  | (name, value) :: rest => (name, value.reading) :: memberReadings rest
end

-- A JSON value as a node whose parts are read.
def Json.node : Json → Node
  | .array items => ⟨.array items, readings items, []⟩
  | .object members => ⟨.object members, [], memberReadings members⟩
  | atom => ⟨atom, [], []⟩

end ScriptFront
