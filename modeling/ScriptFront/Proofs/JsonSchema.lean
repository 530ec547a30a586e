import Mathlib.Data.List.Forall2
import ScriptFront.Proofs.TreeJson
import ScriptFront.Tree.Records

set_option autoImplicit false

/-! The JSON values that are trees: which parts a node must have, which it may have, and where a value has to
say of what kind it is. A value is a tree if that is derived so, and it is the tree that the derivation names. -/

namespace ScriptFront

-- An object says of what kind it is.
def Json.HasKind (v : Json) (kind : String) : Prop :=
  (v.member? "type").bind Json.text? = some kind

-- The parts of a record: of an object the last member with each name, of an array as many items as there are
-- names, in their order.
inductive RecordParts (names : List String) : Json → (String → Option Json) → Prop where
  | members (members : List (String × Json)) :
      RecordParts names (.object members) fun name => lastOf name members
  | items (items : List Json) : items.length = names.length →
      RecordParts names (.array items) fun name => items[names.idxOf name]?

-- A part that must be there.
inductive Needed {α : Type} (shape : Json → α → Prop) : Option Json → α → Prop where
  | given (part : Json) (a : α) : shape part a → Needed shape (some part) a

-- A part that may be missing or `null`.
inductive Optional {α : Type} (shape : Json → α → Prop) : Option Json → Option α → Prop where
  | missing : Optional shape none none
  | null : Optional shape (some .null) none
  | given (part : Json) (a : α) : part ≠ .null → shape part a → Optional shape (some part) (some a)

inductive Listed {α : Type} (shape : Json → α → Prop) : Json → List α → Prop where
  | items (items : List Json) (list : List α) : List.Forall₂ shape items list → Listed shape (.array items) list

inductive TextShape : Json → String → Prop where
  | text (text : String) : TextShape (.string text) text

inductive BooleanShape : Json → Bool → Prop where
  | boolean (value : Bool) : BooleanShape (.boolean value) value

inductive NumberShape : Json → Binary64 → Prop where
  | integer (value : Integer64) : NumberShape (.integer value) (.ofInt value.value)
  | float (value : Finite64) : NumberShape (.float value) (.finite value)

-- An operator is given by its spelling, or by that as the only name in an object, with the value `null`.
inductive WordShape {ω : Type} [Spelled ω] : Json → ω → Prop where
  | spelling (word : ω) : WordShape (.string (Spelled.spelling word)) word
  | member (members : List (String × Json)) (word : ω) :
      (∀ m ∈ members, m.1 = Spelled.spelling word) → lastOf (Spelled.spelling word) members = some .null →
      WordShape (.object members) word

inductive IdentifierShape : Json → Identifier → Prop where
  | record (v : Json) (parts : String → Option Json) (name : String) : RecordParts ["name"] v parts →
      Needed TextShape (parts "name") name → IdentifierShape v ⟨name⟩

def Literal.kind : Literal → String
  | .number _ => "NumericLiteral"
  | .string _ => "StringLiteral"
  | .boolean _ => "BooleanLiteral"
  | .null => "NullLiteral"

def Expression.kind : Expression → String
  | .identifier _ => "Identifier"
  | .literal l => l.kind
  | .this => "ThisExpression"
  | .super => "Super"
  | .new _ _ => "NewExpression"
  | .call _ _ => "CallExpression"
  | .member _ => "MemberExpression"
  | .assignment _ _ _ => "AssignmentExpression"
  | .binary _ _ _ => "BinaryExpression"
  | .logical _ _ _ => "LogicalExpression"
  | .unary _ _ => "UnaryExpression"

-- A literal has one member beside its kind.
inductive LiteralRecord : Json → Literal → Prop where
  | number (v : Json) (value : Binary64) :
      Needed NumberShape (v.member? "value") value → LiteralRecord v (.number value)
  | string (v : Json) (text : String) :
      Needed TextShape (v.member? "value") text → LiteralRecord v (.string text)
  | boolean (v : Json) (value : Bool) :
      Needed BooleanShape (v.member? "value") value → LiteralRecord v (.boolean value)
  | null (v : Json) : LiteralRecord v .null

inductive LiteralShape : Json → Literal → Prop where
  | tagged (v : Json) (l : Literal) : v.HasKind l.kind → LiteralRecord v l → LiteralShape v l

mutual
-- A record of the kind that the value says it is of.
inductive ExpressionShape : Json → Expression → Prop where
  | tagged (v : Json) (e : Expression) : v.HasKind e.kind → ExpressionRecord v e → ExpressionShape v e

-- A record of a kind, whatever kind the value says it is of.
inductive ExpressionRecord : Json → Expression → Prop where
  | identifier (v : Json) (id : Identifier) :
      IdentifierShape v id → ExpressionRecord v (.identifier id)
  | literal (v : Json) (l : Literal) : LiteralRecord v l → ExpressionRecord v (.literal l)
  | this (v : Json) : ExpressionRecord v .this
  | super (v : Json) : ExpressionRecord v .super
  | new (v : Json) (callee : Expression) (arguments : List Expression) :
      ApplicationShape v callee arguments → ExpressionRecord v (.new callee arguments)
  | call (v : Json) (callee : Expression) (arguments : List Expression) :
      ApplicationShape v callee arguments → ExpressionRecord v (.call callee arguments)
  | member (v : Json) (place : Member) :
      MemberShape v place → ExpressionRecord v (.member place)
  | assignment (v : Json) (parts : String → Option Json) (operator : AssignmentOperator) (left : Target)
      (right : Expression) : RecordParts ["operator", "left", "right"] v parts →
      Needed WordShape (parts "operator") operator → Needed TargetShape (parts "left") left →
      Needed ExpressionShape (parts "right") right →
      ExpressionRecord v (.assignment operator left right)
  | binary (v : Json) (parts : String → Option Json) (operator : BinaryOperator) (left right : Expression) :
      RecordParts ["operator", "left", "right"] v parts → Needed WordShape (parts "operator") operator →
      Needed ExpressionShape (parts "left") left → Needed ExpressionShape (parts "right") right →
      ExpressionRecord v (.binary operator left right)
  | logical (v : Json) (parts : String → Option Json) (operator : LogicalOperator) (left right : Expression) :
      RecordParts ["operator", "left", "right"] v parts → Needed WordShape (parts "operator") operator →
      Needed ExpressionShape (parts "left") left → Needed ExpressionShape (parts "right") right →
      ExpressionRecord v (.logical operator left right)
  | unary (v : Json) (parts : String → Option Json) (operator : UnaryOperator) (argument : Expression) :
      RecordParts ["operator", "argument"] v parts → Needed WordShape (parts "operator") operator →
      Needed ExpressionShape (parts "argument") argument →
      ExpressionRecord v (.unary operator argument)

inductive ApplicationShape : Json → Expression → List Expression → Prop where
  | record (v : Json) (parts : String → Option Json) (callee : Expression) (arguments : List Expression) :
      RecordParts ["callee", "arguments"] v parts → Needed ExpressionShape (parts "callee") callee →
      Needed (Listed ExpressionShape) (parts "arguments") arguments → ApplicationShape v callee arguments

-- The property has to say that it is an identifier unless it is computed.
inductive MemberShape : Json → Member → Prop where
  | named (v : Json) (parts : String → Option Json) (object : Expression) (property : Json) (id : Identifier) :
      RecordParts ["object", "property", "computed"] v parts → Needed ExpressionShape (parts "object") object →
      parts "property" = some property → property.HasKind "Identifier" → IdentifierShape property id →
      Needed BooleanShape (parts "computed") false → MemberShape v (.named object id)
  | computed (v : Json) (parts : String → Option Json) (object property : Expression) :
      RecordParts ["object", "property", "computed"] v parts → Needed ExpressionShape (parts "object") object →
      Needed ExpressionShape (parts "property") property → Needed BooleanShape (parts "computed") true →
      MemberShape v (.computed object property)

-- An expression that is an identifier or a member.
inductive TargetShape : Json → Target → Prop where
  | identifier (v : Json) (id : Identifier) : ExpressionShape v (.identifier id) → TargetShape v (.identifier id)
  | member (v : Json) (place : Member) : ExpressionShape v (.member place) → TargetShape v (.member place)
end

inductive DeclarationShape : Json → VariableDeclaration → Prop where
  | record (v : Json) (parts : String → Option Json) (id : Identifier) (init : Option Expression) :
      RecordParts ["id", "init"] v parts → Needed IdentifierShape (parts "id") id →
      Optional ExpressionShape (parts "init") init → DeclarationShape v ⟨id, init⟩

inductive VariablesShape : Json → List VariableDeclaration → Prop where
  | record (v : Json) (parts : String → Option Json) (declarations : List VariableDeclaration) :
      RecordParts ["declarations"] v parts → Needed (Listed DeclarationShape) (parts "declarations") declarations →
      VariablesShape v declarations

inductive ForInitShape : Json → ForInit → Prop where
  | variables (v : Json) (declarations : List VariableDeclaration) : v.HasKind "VariableStatement" →
      VariablesShape v declarations → ForInitShape v (.variables declarations)
  | expression (v : Json) (e : Expression) : ¬ v.HasKind "VariableStatement" → ExpressionShape v e →
      ForInitShape v (.expression e)

mutual
inductive StatementShape : Json → Statement → Prop where
  | tagged (v : Json) (s : Statement) : v.HasKind s.kind → StatementRecord v s → StatementShape v s

inductive StatementRecord : Json → Statement → Prop where
  | block (v : Json) (body : List Statement) :
      BodyShape v body → StatementRecord v (.block body)
  | empty (v : Json) : StatementRecord v .empty
  | expression (v : Json) (parts : String → Option Json) (e : Expression) : RecordParts ["expression"] v parts →
      Needed ExpressionShape (parts "expression") e → StatementRecord v (.expression e)
  | variables (v : Json) (declarations : List VariableDeclaration) :
      VariablesShape v declarations → StatementRecord v (.variables declarations)
  | conditional (v : Json) (parts : String → Option Json) (test : Expression) (consequent : Statement)
      (alternate : Option Statement) : RecordParts ["test", "consequent", "alternate"] v parts →
      Needed ExpressionShape (parts "test") test → Needed StatementShape (parts "consequent") consequent →
      Optional StatementShape (parts "alternate") alternate →
      StatementRecord v (.conditional test consequent alternate)
  | whileLoop (v : Json) (parts : String → Option Json) (test : Expression) (body : Statement) :
      RecordParts ["test", "body"] v parts → Needed ExpressionShape (parts "test") test →
      Needed StatementShape (parts "body") body → StatementRecord v (.whileLoop test body)
  | doWhileLoop (v : Json) (parts : String → Option Json) (body : Statement) (test : Expression) :
      RecordParts ["body", "test"] v parts → Needed StatementShape (parts "body") body →
      Needed ExpressionShape (parts "test") test → StatementRecord v (.doWhileLoop body test)
  | forLoop (v : Json) (parts : String → Option Json) (init : Option ForInit) (test update : Option Expression)
      (body : Statement) : RecordParts ["init", "test", "update", "body"] v parts →
      Optional ForInitShape (parts "init") init → Optional ExpressionShape (parts "test") test →
      Optional ExpressionShape (parts "update") update → Needed StatementShape (parts "body") body →
      StatementRecord v (.forLoop init test update body)
  | function (v : Json) (parts : String → Option Json) (name : Identifier) (params : List Identifier)
      (body : List Statement) : RecordParts ["name", "params", "body"] v parts →
      Needed IdentifierShape (parts "name") name → Needed (Listed IdentifierShape) (parts "params") params →
      Needed BodyShape (parts "body") body → StatementRecord v (.function name params body)
  | returning (v : Json) (parts : String → Option Json) (argument : Option Expression) :
      RecordParts ["argument"] v parts → Optional ExpressionShape (parts "argument") argument →
      StatementRecord v (.returning argument)
  | classDeclaration (v : Json) (parts : String → Option Json) (id : Identifier) (superClass : Option Identifier)
      (body : List Statement) : RecordParts ["id", "superClass", "body"] v parts →
      Needed IdentifierShape (parts "id") id → Optional IdentifierShape (parts "superClass") superClass →
      Needed BodyShape (parts "body") body →
      StatementRecord v (.classDeclaration id superClass body)

-- The one part of a block, and of a program.
inductive BodyShape : Json → List Statement → Prop where
  | record (v : Json) (parts : String → Option Json) (body : List Statement) : RecordParts ["body"] v parts →
      Needed (Listed StatementShape) (parts "body") body → BodyShape v body
end

end ScriptFront
