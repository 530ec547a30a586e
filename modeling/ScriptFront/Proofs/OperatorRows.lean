import ScriptFront.Proofs.Chain
import ScriptFront.Proofs.Grouping
import ScriptFront.Proofs.Printed

set_option autoImplicit false

/-! Operands and operators as they stand in a row, the one tree that is grouped by the levels of the operators,
and the grammar of expressions by rows, with the levels of nesting that an expression needs. -/

namespace ScriptFront

-- The operators with two operands.
inductive InfixOperator where
  | binary (operator : BinaryOperator)
  | logical (operator : LogicalOperator)
deriving DecidableEq

namespace InfixOperator

def rung : InfixOperator → Rung
  | .binary operator => operator.rung
  | .logical operator => operator.rung

def height (operator : InfixOperator) : Nat :=
  operator.rung.height

def spelling : InfixOperator → String
  | .binary operator => Spelled.spelling operator
  | .logical operator => Spelled.spelling operator

def IsWritten (operator : InfixOperator) (t : Token) : Prop :=
  t.kind = operator.rung.kind ∧ t.text = operator.spelling

def build (act : Actions) : InfixOperator → act.Expression → act.Expression → act.Expression
  | .binary operator => act.binary operator
  | .logical operator => act.logical operator

end InfixOperator

-- What the actions make of a grouping.
def Grouping.expression (act : Actions) : Grouping InfixOperator act.Expression → act.Expression
  | .operand e => e
  | .node operator left right => operator.build act (left.expression act) (right.expression act)

-- Operands with operators between them, and prefix operators in front of any of them.
inductive Row (α : Type) where
  | last (operand : α)
  | prefixed (operator : UnaryOperator) (later : Row α)
  | followed (operand : α) (operator : InfixOperator) (later : Row α)

namespace Row

variable (act : Actions)

-- The operands and operators up to the first prefix operator. That one has all that is behind it, grouped in the
-- same way, for its operand, and together they are the last operand.
def reading : Row act.Expression → act.Expression × List (InfixOperator × act.Expression)
  | .last operand => (operand, [])
  | .prefixed operator later =>
      let behind := later.reading
      let argument := Grouping.ofReading InfixOperator.height behind.1 behind.2
      (act.unary operator (argument.expression act), [])
  | .followed operand operator later =>
      let behind := later.reading
      (operand, (operator, behind.1) :: behind.2)

def grouping (row : Row act.Expression) : Grouping InfixOperator act.Expression :=
  .ofReading InfixOperator.height (row.reading act).1 (row.reading act).2

def expression (row : Row act.Expression) : act.Expression :=
  (row.grouping act).expression act

end Row

namespace Grouped

variable (act : Actions)

-- Every sort has the tokens, what they build, and the levels of nesting that they need.
mutual
-- An expression. Where the index is true it may be an assignment.
inductive Chain : Bool → List Token → Row act.Expression → Nat → Prop where
  | last (assigns : Bool) (u : List Token) (e : act.Expression) (n : Nat) :
      Operand u e n → Chain assigns u (.last e) n
  | prefixed (assigns : Bool) (op : Token) (v : List Token) (operator : UnaryOperator) (row : Row act.Expression)
      (n : Nat) :
      op.kind = .additive ∨ op.kind = .logicalNot → Spelled.ofSpelling? op.text = some operator →
      Chain true v row n → Chain assigns (op :: v) (.prefixed operator row) (n + 1)
  | followed (assigns : Bool) (u v : List Token) (op : Token) (operator : InfixOperator) (e : act.Expression)
      (row : Row act.Expression) (m n : Nat) :
      Operand u e m → operator.IsWritten op → Chain false v row n →
      Chain assigns (u ++ op :: v) (.followed e operator row) (max m n)
  | assign (u v : List Token) (op : Token) (operator : AssignmentOperator) (left : act.Expression)
      (place : act.Target) (row : Row act.Expression) (m n : Nat) :
      Operand u left m → act.target? left = some place → op.kind.isAssignment = true →
      Spelled.ofSpelling? op.text = some operator → Chain true v row n →
      Chain true (u ++ op :: v) (.last (act.assignment operator place (row.expression act))) (max m (n + 1))

inductive Operand : List Token → act.Expression → Nat → Prop where
  | member (u : List Token) (e : act.Expression) (n : Nat) : Member u e n → Operand u e n
  | calls (u : List Token) (e : act.Expression) (n : Nat) : Calls u e n → Operand u e n

inductive Calls : List Token → act.Expression → Nat → Prop where
  | super (word : Token) (v : List Token) (found : List act.Expression) (n : Nat) :
      word.kind = .keyword .superWord → Arguments v found n → Calls (word :: v) (act.call act.super found) n
  | member (u v : List Token) (callee : act.Expression) (found : List act.Expression) (m n : Nat) :
      Member u callee m → Arguments v found n → Calls (u ++ v) (act.call callee found) (max m n)
  | more (u v : List Token) (callee : act.Expression) (found : List act.Expression) (m n : Nat) :
      Calls u callee m → Arguments v found n → Calls (u ++ v) (act.call callee found) (max m n)

inductive Member : List Token → act.Expression → Nat → Prop where
  | primary (u : List Token) (e : act.Expression) (n : Nat) : Primary u e n → Member u e n
  | named (u : List Token) (dot id : Token) (object : act.Expression) (n : Nat) :
      Member u object n → dot.kind = .mark .dot → id.kind = .identifier →
      Member (u ++ [dot, id]) (act.member object (act.identifier id.text)) n
  | computed (u v : List Token) (open_ close : Token) (object : act.Expression) (row : Row act.Expression)
      (m n : Nat) :
      Member u object m → open_.kind = .mark .leftBracket → Chain true v row n →
      close.kind = .mark .rightBracket →
      Member (u ++ open_ :: (v ++ [close])) (act.computedMember object (row.expression act)) (max m (n + 1))

inductive Primary : List Token → act.Expression → Nat → Prop where
  | number (t : Token) (value : Binary64) :
      t.kind = .number → digitsValue? t.text.toList = some value → Primary [t] (act.number value) 0
  | string (t : Token) : t.kind = .string → Primary [t] (act.string (unquoted t.text)) 0
  | true (t : Token) : t.kind = .keyword .trueWord → Primary [t] (act.boolean true) 0
  | false (t : Token) : t.kind = .keyword .falseWord → Primary [t] (act.boolean false) 0
  | null (t : Token) : t.kind = .keyword .nullWord → Primary [t] act.null 0
  | parenthesized (u : List Token) (open_ close : Token) (row : Row act.Expression) (n : Nat) :
      open_.kind = .mark .leftParen → Chain true u row n → close.kind = .mark .rightParen →
      Primary (open_ :: (u ++ [close])) (row.expression act) (n + 1)
  | identifier (t : Token) :
      t.kind = .identifier → Primary [t] (act.identifierExpression (act.identifier t.text)) 0
  | this (t : Token) : t.kind = .keyword .thisWord → Primary [t] act.this 0
  | new (word : Token) (u v : List Token) (callee : act.Expression) (found : List act.Expression) (m n : Nat) :
      word.kind = .keyword .newWord → Member u callee m → Arguments v found n →
      Primary (word :: (u ++ v)) (act.new callee found) (max m n + 1)

inductive Arguments : List Token → List act.Expression → Nat → Prop where
  | none (open_ close : Token) :
      open_.kind = .mark .leftParen → close.kind = .mark .rightParen → Arguments [open_, close] [] 0
  | some (u : List Token) (open_ close : Token) (found : List act.Expression) (n : Nat) :
      open_.kind = .mark .leftParen → ArgumentList u found n → close.kind = .mark .rightParen →
      Arguments (open_ :: (u ++ [close])) found n

inductive ArgumentList : List Token → List act.Expression → Nat → Prop where
  | one (u : List Token) (row : Row act.Expression) (n : Nat) :
      Chain true u row n → ArgumentList u [row.expression act] (n + 1)
  | more (u v : List Token) (comma : Token) (row : Row act.Expression) (rest : List act.Expression) (m n : Nat) :
      Chain true u row m → comma.kind = .mark .comma → ArgumentList v rest n →
      ArgumentList (u ++ comma :: v) (row.expression act :: rest) (max (m + 1) n)
end

end Grouped

end ScriptFront
