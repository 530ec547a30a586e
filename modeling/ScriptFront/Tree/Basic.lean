import ScriptFront.Number.Binary64
import ScriptFront.Operator

set_option autoImplicit false

/-! The syntax tree of a program, and equality of trees, in which numbers are compared by value. -/

namespace ScriptFront

structure Identifier where
  name : String
deriving DecidableEq

inductive Literal where
  | number (value : Binary64)
  | string (text : String)
  | boolean (value : Bool)
  | null

mutual
inductive Expression where
  | identifier (id : Identifier)
  | literal (value : Literal)
  | this
  | super
  | new (callee : Expression) (arguments : List Expression)
  | call (callee : Expression) (arguments : List Expression)
  | member (place : Member)
  | assignment (operator : AssignmentOperator) (target : Target) (value : Expression)
  | binary (operator : BinaryOperator) (left right : Expression)
  | logical (operator : LogicalOperator) (left right : Expression)
  | unary (operator : UnaryOperator) (argument : Expression)

-- A property of an object, by its name or by the value of an expression in brackets.
inductive Member where
  | named (object : Expression) (property : Identifier)
  | computed (object property : Expression)

-- What can be assigned to.
inductive Target where
  | identifier (id : Identifier)
  | member (place : Member)
end

structure VariableDeclaration where
  id : Identifier
  init : Option Expression

inductive ForInit where
  | variables (declarations : List VariableDeclaration)
  | expression (value : Expression)

inductive Statement where
  | block (body : List Statement)
  | empty
  | expression (value : Expression)
  | variables (declarations : List VariableDeclaration)
  | conditional (test : Expression) (consequent : Statement) (alternate : Option Statement)
  | whileLoop (test : Expression) (body : Statement)
  | doWhileLoop (body : Statement) (test : Expression)
  | forLoop (init : Option ForInit) (test update : Option Expression) (body : Statement)
  | function (name : Identifier) (params : List Identifier) (body : List Statement)
  | returning (argument : Option Expression)
  | classDeclaration (id : Identifier) (superClass : Option Identifier) (body : List Statement)

structure Program where
  body : List Statement

namespace Expression

-- The place that an expression names, if it can be assigned to.
def target? : Expression → Option Target
  | .identifier id => some (.identifier id)
  | .member place => some (.member place)
  | _ => none

end Expression

def Target.toExpression : Target → Expression
  | .identifier id => .identifier id
  | .member place => .member place

def Member.isComputed : Member → Bool
  | .named _ _ => false
  | .computed _ _ => true

theorem target_eq_some_iff (e : Expression) (t : Target) : e.target? = some t ↔ e = t.toExpression := by
  cases e <;> cases t <;> simp [Expression.target?, Target.toExpression]

namespace Literal

def same : Literal → Literal → Bool
  | .number x, .number y => x == y
  | .string a, .string b => a == b
  | .boolean a, .boolean b => a == b
  | .null, .null => true
  | _, _ => false

end Literal

mutual
def Expression.same : Expression → Expression → Bool
  | .identifier a, .identifier b => a == b
  | .literal a, .literal b => a.same b
  | .this, .this => true
  | .super, .super => true
  | .new f a, .new g b => f.same g && sameExpressions a b
  | .call f a, .call g b => f.same g && sameExpressions a b
  | .member a, .member b => a.same b
  | .assignment o t a, .assignment p u b => o == p && t.same u && a.same b
  | .binary o a c, .binary p b d => o == p && a.same b && c.same d
  | .logical o a c, .logical p b d => o == p && a.same b && c.same d
  | .unary o a, .unary p b => o == p && a.same b
  | _, _ => false

def Member.same : Member → Member → Bool
  | .named a m, .named b n => a.same b && m == n
  | .computed a c, .computed b d => a.same b && c.same d
  | _, _ => false

def Target.same : Target → Target → Bool
  | .identifier a, .identifier b => a == b
  | .member a, .member b => a.same b
  | _, _ => false

def sameExpressions : List Expression → List Expression → Bool
  | [], [] => true
  | a :: as, b :: bs => a.same b && sameExpressions as bs
  | _, _ => false
end

-- Whether two optional parts are both missing or both there and the same.
def sameOption {α : Type} (same : α → α → Bool) : Option α → Option α → Bool
  | none, none => true
  | some a, some b => same a b
  | _, _ => false

def sameList {α : Type} (same : α → α → Bool) : List α → List α → Bool
  | [], [] => true
  | a :: as, b :: bs => same a b && sameList same as bs
  | _, _ => false

def VariableDeclaration.same (a b : VariableDeclaration) : Bool :=
  a.id == b.id && sameOption Expression.same a.init b.init

def ForInit.same : ForInit → ForInit → Bool
  | .variables a, .variables b => sameList VariableDeclaration.same a b
  | .expression a, .expression b => a.same b
  | _, _ => false

mutual
def Statement.same : Statement → Statement → Bool
  | .block a, .block b => sameStatements a b
  | .empty, .empty => true
  | .expression a, .expression b => a.same b
  | .variables a, .variables b => sameList VariableDeclaration.same a b
  | .conditional t a none, .conditional u b none => t.same u && a.same b
  | .conditional t a (some c), .conditional u b (some d) => t.same u && a.same b && c.same d
  | .whileLoop t a, .whileLoop u b => t.same u && a.same b
  | .doWhileLoop a t, .doWhileLoop b u => a.same b && t.same u
  | .forLoop i t u a, .forLoop j v w b =>
      sameOption ForInit.same i j && sameOption Expression.same t v &&
        sameOption Expression.same u w && a.same b
  | .function m p a, .function n q b => m == n && p == q && sameStatements a b
  | .returning a, .returning b => sameOption Expression.same a b
  | .classDeclaration m p a, .classDeclaration n q b => m == n && p == q && sameStatements a b
  | _, _ => false

def sameStatements : List Statement → List Statement → Bool
  | [], [] => true
  | a :: as, b :: bs => a.same b && sameStatements as bs
  | _, _ => false
end

def Program.same (a b : Program) : Bool :=
  sameStatements a.body b.body

end ScriptFront
