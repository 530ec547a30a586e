import ScriptFront.Grammar.Expression

set_option autoImplicit false

/-! The productions of statements. -/

namespace ScriptFront

namespace Grammar

open Parse

variable {σ : Type} [TokenSource σ] (act : Actions) (inner : Nested σ act)

-- Statements up to the end of the input or to a token of the kind `stop`.
def statements (stop : Option TokenKind) : Parse σ (List act.Statement) := do
  let done ← repeatWhile (fun kind => kind.isSome && kind != stop)
    (fun done => return (← inner.statement) :: done) []
  return done.reverse

def block : Parse σ act.Block := do
  let _ ← expect (.mark .leftBrace)
  let body ← statements act inner (some (.mark .rightBrace))
  let _ ← expect (.mark .rightBrace)
  return act.block body

-- The initial value is absent exactly where a semicolon or a comma follows.
def variableDeclaration : Parse σ act.Declaration := do
  let id ← identifier act
  if (← isAhead (.mark .semicolon)) || (← isAhead (.mark .comma)) then
    return act.declaration id none
  else
    let _ ← expect .simpleAssign
    let init ← inner.expression
    return act.declaration id (some init)

def variableDeclarations : Parse σ (List act.Declaration) := do
  let _ ← expect (.keyword .letWord)
  commaList (variableDeclaration act inner)

def variableStatement : Parse σ act.Statement := do
  let declarations ← variableDeclarations act inner
  let _ ← expect (.mark .semicolon)
  return act.variableStatement declarations

-- An expression, unless the token that would follow it comes first.
def optionalExpression (follower : Mark) : Parse σ (Option act.Expression) := do
  if ← isAhead (.mark follower) then return none
  else
    let e ← inner.expression
    return some e

def condition : Parse σ act.Expression := do
  let _ ← expect (.mark .leftParen)
  let test ← inner.expression
  let _ ← expect (.mark .rightParen)
  return test

-- An `else` belongs to the nearest `if` that still waits for one.
def ifStatement : Parse σ act.Statement := do
  let _ ← expect (.keyword .ifWord)
  let test ← condition act inner
  let consequent ← inner.statement
  if ← isAhead (.keyword .elseWord) then
    let _ ← expect (.keyword .elseWord)
    let alternate ← inner.statement
    return act.ifStatement test consequent (some alternate)
  else return act.ifStatement test consequent none

def whileStatement : Parse σ act.Statement := do
  let _ ← expect (.keyword .whileWord)
  let test ← condition act inner
  let body ← inner.statement
  return act.whileStatement test body

def doWhileStatement : Parse σ act.Statement := do
  let _ ← expect (.keyword .doWord)
  let body ← inner.statement
  let _ ← expect (.keyword .whileWord)
  let test ← condition act inner
  let _ ← expect (.mark .semicolon)
  return act.doWhileStatement body test

def forInit : Parse σ (Option act.ForInit) := do
  if ← isAhead (.mark .semicolon) then return none
  else if ← isAhead (.keyword .letWord) then
    let declarations ← variableDeclarations act inner
    return some (act.forVariables declarations)
  else
    let e ← inner.expression
    return some (act.forExpression e)

def forStatement : Parse σ act.Statement := do
  let _ ← expect (.keyword .forWord)
  let _ ← expect (.mark .leftParen)
  let init ← forInit act inner
  let _ ← expect (.mark .semicolon)
  let test ← optionalExpression act inner .semicolon
  let _ ← expect (.mark .semicolon)
  let update ← optionalExpression act inner .rightParen
  let _ ← expect (.mark .rightParen)
  let body ← inner.statement
  return act.forStatement init test update body

def functionDeclaration : Parse σ act.Statement := do
  let _ ← expect (.keyword .defWord)
  let name ← identifier act
  let _ ← expect (.mark .leftParen)
  let params ← if ← isAhead (.mark .rightParen) then pure [] else commaList (identifier act)
  let _ ← expect (.mark .rightParen)
  let body ← block act inner
  return act.functionDeclaration name params body

def returnStatement : Parse σ act.Statement := do
  let _ ← expect (.keyword .returnWord)
  let argument ← optionalExpression act inner .semicolon
  let _ ← expect (.mark .semicolon)
  return act.returnStatement argument

def superClass : Parse σ (Option act.Identifier) := do
  if ← isAhead (.keyword .extendsWord) then
    let _ ← expect (.keyword .extendsWord)
    let id ← identifier act
    return some id
  else return none

def classDeclaration : Parse σ act.Statement := do
  let _ ← expect (.keyword .classWord)
  let id ← identifier act
  let parent ← superClass act
  let body ← block act inner
  return act.classDeclaration id parent body

def emptyStatement : Parse σ act.Statement := do
  let _ ← expect (.mark .semicolon)
  return act.emptyStatement

def blockStatement : Parse σ act.Statement := do
  let body ← block act inner
  return act.blockStatement body

def expressionStatement : Parse σ act.Statement := do
  let e ← inner.expression
  let _ ← expect (.mark .semicolon)
  return act.expressionStatement e

-- The lookahead decides which statement it is.
def statement : Parse σ act.Statement := do
  match ← lookaheadKind with
  | some (.mark .semicolon) => emptyStatement act
  | some (.mark .leftBrace) => blockStatement act inner
  | some (.keyword .letWord) => variableStatement act inner
  | some (.keyword .defWord) => functionDeclaration act inner
  | some (.keyword .classWord) => classDeclaration act inner
  | some (.keyword .returnWord) => returnStatement act inner
  | some (.keyword .ifWord) => ifStatement act inner
  | some (.keyword .whileWord) => whileStatement act inner
  | some (.keyword .doWord) => doWhileStatement act inner
  | some (.keyword .forWord) => forStatement act inner
  | _ => expressionStatement act inner

-- The productions with `levels` more levels of nesting; with none, each is an error.
def nested (limit : Nat) : (levels : Nat) → Nested σ act
  | 0 =>
      { statement := fail (.nestingTooDeep limit)
        expression := fail (.nestingTooDeep limit)
        construction := fail (.nestingTooDeep limit) }
  | levels + 1 =>
      let rest := nested limit levels
      { statement := deeper (statement act rest)
        expression := deeper (assignment act rest)
        construction := deeper (construction act rest) }

-- A whole input.
def program (limit : Nat) : Parse σ act.Program := do
  refill
  let body ← statements act (nested act limit limit) none
  return act.program body

end Grammar

end ScriptFront
