import ScriptFront.Json.Basic
import ScriptFront.Tree.Basic

set_option autoImplicit false

/-! Trees as JSON. Every node is an object whose first member `type` names the kind of the node;
absent parts are `null`. -/

namespace ScriptFront

def nodeJson (kind : String) (members : List (String × Json)) : Json :=
  .object (("type", .string kind) :: members)

-- A word of a finite family as JSON.
def spellingJson {α : Type} [Spelled α] (a : α) : Json :=
  .string (Spelled.spelling a)

def optionJson {α : Type} (toJson : α → Json) : Option α → Json
  | none => .null
  | some a => toJson a

def Identifier.toJson (id : Identifier) : Json :=
  nodeJson "Identifier" [("name", .string id.name)]

def Literal.toJson : Literal → Json
  | .number value => nodeJson "NumericLiteral" [("value", .ofNumber value)]
  | .string text => nodeJson "StringLiteral" [("value", .string text)]
  | .boolean value => nodeJson "BooleanLiteral" [("value", .boolean value)]
  | .null => nodeJson "NullLiteral" []

mutual
def Expression.toJson : Expression → Json
  | .identifier id => id.toJson
  | .literal value => value.toJson
  | .this => nodeJson "ThisExpression" []
  | .super => nodeJson "Super" []
  | .new callee arguments =>
      nodeJson "NewExpression" [("callee", callee.toJson), ("arguments", .array (expressionsJson arguments))]
  | .call callee arguments =>
      nodeJson "CallExpression" [("callee", callee.toJson), ("arguments", .array (expressionsJson arguments))]
  | .member place => place.toJson
  | .assignment operator target value =>
      nodeJson "AssignmentExpression"
        [("operator", spellingJson operator), ("left", target.toJson), ("right", value.toJson)]
  | .binary operator left right =>
      nodeJson "BinaryExpression"
        [("operator", spellingJson operator), ("left", left.toJson), ("right", right.toJson)]
  | .logical operator left right =>
      nodeJson "LogicalExpression"
        [("operator", spellingJson operator), ("left", left.toJson), ("right", right.toJson)]
  | .unary operator argument =>
      nodeJson "UnaryExpression" [("operator", spellingJson operator), ("argument", argument.toJson)]

def Member.toJson : Member → Json
  | .named object property =>
      nodeJson "MemberExpression"
        [("object", object.toJson), ("property", property.toJson), ("computed", .boolean false)]
  | .computed object property =>
      nodeJson "MemberExpression"
        [("object", object.toJson), ("property", property.toJson), ("computed", .boolean true)]

def Target.toJson : Target → Json
  | .identifier id => id.toJson
  | .member place => place.toJson

def expressionsJson : List Expression → List Json
  | [] => []
  | e :: rest => e.toJson :: expressionsJson rest
end

def VariableDeclaration.toJson (declaration : VariableDeclaration) : Json :=
  nodeJson "VariableDeclaration"
    [("id", declaration.id.toJson), ("init", optionJson Expression.toJson declaration.init)]

def variablesJson (declarations : List VariableDeclaration) : Json :=
  nodeJson "VariableStatement"
    [("declarations", .array (declarations.map VariableDeclaration.toJson))]

def ForInit.toJson : ForInit → Json
  | .variables declarations => variablesJson declarations
  | .expression value => value.toJson

-- A block of statements that are written already.
def blockJson (body : List Json) : Json :=
  nodeJson "BlockStatement" [("body", .array body)]

def classJson (id : Identifier) (superClass : Option Identifier) (body : List Json) : Json :=
  nodeJson "ClassDeclaration"
    [("id", id.toJson), ("superClass", optionJson Identifier.toJson superClass),
     ("body", blockJson body)]

mutual
def Statement.toJson : Statement → Json
  | .block body => blockJson (statementsJson body)
  | .empty => nodeJson "EmptyStatement" []
  | .expression value => nodeJson "ExpressionStatement" [("expression", value.toJson)]
  | .variables declarations => variablesJson declarations
  | .conditional test consequent none =>
      nodeJson "IfStatement"
        [("test", test.toJson), ("consequent", consequent.toJson), ("alternate", .null)]
  | .conditional test consequent (some alternate) =>
      nodeJson "IfStatement"
        [("test", test.toJson), ("consequent", consequent.toJson), ("alternate", alternate.toJson)]
  | .whileLoop test body =>
      nodeJson "WhileStatement" [("test", test.toJson), ("body", body.toJson)]
  | .doWhileLoop body test =>
      nodeJson "DoWhileStatement" [("body", body.toJson), ("test", test.toJson)]
  | .forLoop init test update body =>
      nodeJson "ForStatement"
        [("init", optionJson ForInit.toJson init), ("test", optionJson Expression.toJson test),
         ("update", optionJson Expression.toJson update), ("body", body.toJson)]
  | .function name params body =>
      nodeJson "FunctionDeclaration"
        [("name", name.toJson), ("params", .array (params.map Identifier.toJson)),
         ("body", blockJson (statementsJson body))]
  | .returning argument =>
      nodeJson "ReturnStatement" [("argument", optionJson Expression.toJson argument)]
  | .classDeclaration id superClass body => classJson id superClass (statementsJson body)

def statementsJson : List Statement → List Json
  | [] => []
  | s :: rest => s.toJson :: statementsJson rest
end

def Program.toJson (program : Program) : Json :=
  nodeJson "Program" [("body", .array (statementsJson program.body))]

end ScriptFront
