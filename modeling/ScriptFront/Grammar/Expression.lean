import ScriptFront.Grammar.Actions
import ScriptFront.Grammar.State

set_option autoImplicit false

/-! The productions of expressions, from the loosest to the tightest:

assignment (to the right), `||`, `&&`, equality, relation, sum, product (to the left), prefix
operators, calls, members, and primary expressions. A prefix operator takes a whole expression. -/

namespace ScriptFront

-- The productions that open a nesting level. All others are made of these.
structure Nested (σ : Type) (act : Actions) where
  statement : Parse σ act.Statement
  expression : Parse σ act.Expression
  construction : Parse σ act.Expression

-- The value of a run of digits.
def digitsValue? (digits : List Char) : Option Binary64 :=
  if digits.isEmpty || !digits.all Char.isDigit then none
  else some (.ofNat (digits.foldl (fun value digit => value * 10 + (digit.toNat - '0'.toNat)) 0))

-- A text without its first and last character.
def unquoted (text : String) : String :=
  String.ofList (text.toList.drop 1).dropLast

namespace Grammar

open Parse

variable {σ : Type} [TokenSource σ] (act : Actions)

def identifier : Parse σ act.Identifier := do
  let token ← expect .identifier
  return act.identifier token.text

def unexpectedPrimary {α : Type} : Parse σ α := do
  fail (.unexpectedPrimary (← lookaheadText))

def numberLiteral : Parse σ act.Expression := do
  let token ← expect .number
  match digitsValue? token.text.toList with
  | some value => return act.number value
  | none => fail (.unexpectedPrimary (some token.text))

def keywordExpression (keyword : Keyword) (e : act.Expression) : Parse σ act.Expression := do
  let _ ← expect (.keyword keyword)
  return e

variable (inner : Nested σ act)

def parenthesized : Parse σ act.Expression := do
  let _ ← expect (.mark .leftParen)
  let e ← inner.expression
  let _ ← expect (.mark .rightParen)
  return e

def primary : Parse σ act.Expression := do
  match ← lookaheadKind with
  | some .number => numberLiteral act
  | some .string =>
      let token ← expect .string
      return act.string (unquoted token.text)
  | some (.keyword .trueWord) => keywordExpression act .trueWord (act.boolean true)
  | some (.keyword .falseWord) => keywordExpression act .falseWord (act.boolean false)
  | some (.keyword .nullWord) => keywordExpression act .nullWord act.null
  | some (.mark .leftParen) => parenthesized act inner
  | some .identifier =>
      let id ← identifier act
      return act.identifierExpression id
  | some (.keyword .thisWord) => keywordExpression act .thisWord act.this
  | some (.keyword .newWord) => inner.construction
  | _ => unexpectedPrimary

-- Arguments in parentheses, with commas between them.
def arguments : Parse σ (List act.Expression) := do
  let _ ← expect (.mark .leftParen)
  let found ← if ← isAhead (.mark .rightParen) then pure [] else commaList inner.expression
  let _ ← expect (.mark .rightParen)
  return found

def startsMember (kind : Option TokenKind) : Bool :=
  kind == some (.mark .dot) || kind == some (.mark .leftBracket)

def memberStep (object : act.Expression) : Parse σ act.Expression := do
  if ← isAhead (.mark .dot) then
    let _ ← expect (.mark .dot)
    let property ← identifier act
    return act.member object property
  else
    let _ ← expect (.mark .leftBracket)
    let property ← inner.expression
    let _ ← expect (.mark .rightBracket)
    return act.computedMember object property

def memberExpression : Parse σ act.Expression := do
  let object ← primary act inner
  repeatWhile startsMember (memberStep act inner) object

def callStep (callee : act.Expression) : Parse σ act.Expression := do
  let found ← arguments act inner
  return act.call callee found

-- One argument list, and another for each parenthesis that follows.
def calls (callee : act.Expression) : Parse σ act.Expression := do
  let first ← callStep act inner callee
  repeatWhile (· == some (.mark .leftParen)) (callStep act inner) first

def callExpression : Parse σ act.Expression := do
  if ← isAhead (.keyword .superWord) then
    let _ ← expect (.keyword .superWord)
    calls act inner act.super
  else
    let e ← memberExpression act inner
    if ← isAhead (.mark .leftParen) then calls act inner e else return e

def prefixed (kind : TokenKind) : Parse σ act.Expression := do
  let token ← expect kind
  let operator ← operator token
  let argument ← inner.expression
  return act.unary operator argument

def unary : Parse σ act.Expression := do
  match ← lookaheadKind with
  | some .additive => prefixed act inner .additive
  | some .logicalNot => prefixed act inner .logicalNot
  | _ => callExpression act inner

-- Operands with operators of one kind between them, grouped to the left.
def operatorChain {ω : Type} [Spelled ω]
    (build : ω → act.Expression → act.Expression → act.Expression)
    (kind : TokenKind) (operand : Parse σ act.Expression) : Parse σ act.Expression := do
  let first ← operand
  repeatWhile (· == some kind)
    (fun left => do
      let token ← expect kind
      let operator ← operator token
      let right ← operand
      return build operator left right) first

def multiplicative : Parse σ act.Expression :=
  operatorChain act act.binary .multiplicative (unary act inner)

def additive : Parse σ act.Expression :=
  operatorChain act act.binary .additive (multiplicative act inner)

def relational : Parse σ act.Expression :=
  operatorChain act act.binary .relational (additive act inner)

def equality : Parse σ act.Expression :=
  operatorChain act act.binary .equality (relational act inner)

def logicalAnd : Parse σ act.Expression :=
  operatorChain act act.logical .logicalAnd (equality act inner)

def logicalOr : Parse σ act.Expression :=
  operatorChain act act.logical .logicalOr (logicalAnd act inner)

-- An assignment to the expression on the left, which is an error unless that can be assigned to.
def assignTo (kind : TokenKind) (left : act.Expression) : Parse σ act.Expression := do
  match act.target? left with
  | none => fail .invalidTarget
  | some target =>
      let token ← expect kind
      let operator ← operator token
      let value ← inner.expression
      return act.assignment operator target value

def assignment : Parse σ act.Expression := do
  let left ← logicalOr act inner
  match ← lookaheadKind with
  | some .simpleAssign => assignTo act inner .simpleAssign left
  | some .complexAssign => assignTo act inner .complexAssign left
  | _ => return left

def construction : Parse σ act.Expression := do
  let _ ← expect (.keyword .newWord)
  let callee ← memberExpression act inner
  let found ← arguments act inner
  return act.new callee found

end Grammar

end ScriptFront
