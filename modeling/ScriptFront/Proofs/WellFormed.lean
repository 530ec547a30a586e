import ScriptFront.Proofs.Lexemes
import ScriptFront.Tree.Actions

set_option autoImplicit false

/-! The trees that can come from a source: every part is one that a token can give, and every `else`
belongs to the nearest conditional that waits for one. -/

namespace ScriptFront

-- Neither below zero, the zero with a sign included, nor no number at all.
def Binary64.isNonnegative : Binary64 → Bool
  | .nan => false
  | .infinite negative => !negative
  | .finite number => !number.negative

def Identifier.isProper (id : Identifier) : Bool :=
  isName id.name.toList

def Expression.isSuper : Expression → Bool
  | .super => true
  | _ => false

section Parts

variable (number : Binary64 → Bool)

def Literal.isProper : Literal → Bool
  | .number value => number value
  | .string text => !(text.toList.contains '"' && text.toList.contains '\x27')
  | .boolean _ | .null => true

mutual
-- Names are no keywords, `super` is only called, no string has both quotes, and the numbers pass a test.
def Expression.isProper : Expression → Bool
  | .identifier id => id.isProper
  | .literal value => value.isProper number
  | .this => true
  | .super => false
  | .new callee arguments => callee.isProper && properExpressions arguments
  | .call callee arguments => (callee.isSuper || callee.isProper) && properExpressions arguments
  | .member place => place.isProper
  | .assignment _ target value => target.isProper && value.isProper
  | .binary _ left right => left.isProper && right.isProper
  | .logical _ left right => left.isProper && right.isProper
  | .unary _ argument => argument.isProper

def Member.isProper : Member → Bool
  | .named object property => object.isProper && property.isProper
  | .computed object property => object.isProper && property.isProper

def Target.isProper : Target → Bool
  | .identifier id => id.isProper
  | .member place => place.isProper

def properExpressions : List Expression → Bool
  | [] => true
  | e :: rest => e.isProper && properExpressions rest
end

def VariableDeclaration.isProper (declaration : VariableDeclaration) : Bool :=
  declaration.id.isProper && declaration.init.all (Expression.isProper number)

-- Variables are declared one at least.
def properVariables (declarations : List VariableDeclaration) : Bool :=
  !declarations.isEmpty && declarations.all (VariableDeclaration.isProper number)

def ForInit.isProper : ForInit → Bool
  | .variables declarations => properVariables number declarations
  | .expression value => value.isProper number

mutual
def Statement.isProper : Statement → Bool
  | .block body => properStatements body
  | .empty => true
  | .expression value => value.isProper number
  | .variables declarations => properVariables number declarations
  | .conditional test consequent none => test.isProper number && consequent.isProper
  | .conditional test consequent (some alternate) =>
      test.isProper number && consequent.isProper && alternate.isProper
  | .whileLoop test body => test.isProper number && body.isProper
  | .doWhileLoop body test => body.isProper && test.isProper number
  | .forLoop init test update body =>
      init.all (ForInit.isProper number) && test.all (Expression.isProper number) &&
        update.all (Expression.isProper number) && body.isProper
  | .function name params body => name.isProper && params.all Identifier.isProper && properStatements body
  | .returning argument => argument.all (Expression.isProper number)
  | .classDeclaration id superClass body =>
      id.isProper && superClass.all Identifier.isProper && properStatements body

def properStatements : List Statement → Bool
  | [] => true
  | s :: rest => s.isProper && properStatements rest
end

-- Only `super` can be called without being proper.
theorem callee_of_proper (e : Expression) (proper : e.isProper number = true) :
    (e.isSuper || e.isProper number) = true := by
  rw [proper, Bool.or_true]

end Parts

-- Whether a statement ends in a conditional without an `else`.
def Statement.waitsForElse : Statement → Bool
  | .conditional _ _ none => true
  | .conditional _ _ (some alternate) => alternate.waitsForElse
  | .whileLoop _ body => body.waitsForElse
  | .forLoop _ _ _ body => body.waitsForElse
  | _ => false

mutual
-- No `else` stands behind a statement that waits for one.
def Statement.elseNearest : Statement → Bool
  | .block body => elsesNearest body
  | .conditional _ consequent none => consequent.elseNearest
  | .conditional _ consequent (some alternate) =>
      consequent.elseNearest && !consequent.waitsForElse && alternate.elseNearest
  | .whileLoop _ body => body.elseNearest
  | .doWhileLoop body _ => body.elseNearest
  | .forLoop _ _ _ body => body.elseNearest
  | .function _ _ body => elsesNearest body
  | .classDeclaration _ _ body => elsesNearest body
  | .empty | .expression _ | .variables _ | .returning _ => true

def elsesNearest : List Statement → Bool
  | [] => true
  | s :: rest => s.elseNearest && elsesNearest rest
end

-- With numeric literals that pass a test.
def Program.isWellFormed (number : Binary64 → Bool) (program : Program) : Bool :=
  properStatements number program.body && elsesNearest program.body

end ScriptFront
