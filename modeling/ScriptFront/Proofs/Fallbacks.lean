import ScriptFront.Parse

set_option autoImplicit false

/-! A parser with fallbacks, which are run where the text of a token is not what its kind promises: where a
number has no value, where a string cannot be cut at its quotes, and where no operator is spelled so. Apart
from these places its productions are those of the grammar. -/

namespace ScriptFront

namespace Text

-- The characters before an offset in bytes and those behind it, unless it lies in a character or too far.
def splitAt? : List Char → Nat → Option (List Char × List Char)
  | text, 0 => some ([], text)
  | [], _ + 1 => none
  | c :: rest, offset + 1 =>
      if c.utf8Size ≤ offset + 1 then
        (splitAt? rest (offset + 1 - c.utf8Size)).map fun parts => (c :: parts.1, parts.2)
      else none

-- The text between two offsets in bytes. There is none between offsets in the wrong order.
def slice? (text : List Char) (start stop : Nat) : Option (List Char) :=
  if start ≤ stop then do
    let (_, rest) ← splitAt? text start
    let (inside, _) ← splitAt? rest (stop - start)
    return inside
  else none

theorem split_at_iff (text before behind : List Char) (offset : Nat) :
    splitAt? text offset = some (before, behind) ↔ text = before ++ behind ∧ byteLength before = offset := by
  fun_induction splitAt? text offset generalizing before with
  | case1 text =>
      constructor
      · intro found
        injection found with same
        obtain ⟨rfl, rfl⟩ := Prod.mk.inj same
        exact ⟨rfl, rfl⟩
      · rintro ⟨rfl, nothing⟩
        cases before with
        | nil => rfl
        | cons c before =>
            have wide := c.utf8Size_pos
            rw [byteLength] at nothing
            omega
  | case2 offset =>
      constructor
      · nofun
      · rintro ⟨same, length⟩
        obtain ⟨rfl, rfl⟩ := List.append_eq_nil_iff.mp same.symm
        contradiction
  | case3 c rest offset fits ih =>
      constructor
      · intro found
        obtain ⟨⟨first, last⟩, split, same⟩ := Option.map_eq_some_iff.mp found
        obtain ⟨rfl, rfl⟩ := Prod.mk.inj same
        obtain ⟨rfl, length⟩ := (ih first).mp split
        refine ⟨rfl, ?_⟩
        rw [byteLength, length]
        omega
      · rintro ⟨same, length⟩
        cases before with
        | nil => contradiction
        | cons d before =>
            obtain ⟨rfl, rfl⟩ := List.cons.inj same
            rw [byteLength] at length
            rw [(ih before).mpr ⟨rfl, by omega⟩]
            rfl
  | case4 c rest offset wide =>
      constructor
      · nofun
      · rintro ⟨same, length⟩
        cases before with
        | nil => contradiction
        | cons d before =>
            obtain ⟨rfl, _⟩ := List.cons.inj same
            rw [byteLength] at length
            omega

theorem slice_of_parts (before inside behind : List Char) :
    slice? (before ++ (inside ++ behind)) (byteLength before) (byteLength before + byteLength inside) =
      some inside := by
  have first := (split_at_iff _ before (inside ++ behind) _).mpr ⟨rfl, rfl⟩
  have second := (split_at_iff _ inside behind _).mpr ⟨rfl, rfl⟩
  rw [slice?, if_pos (Nat.le_add_right _ _), first, Nat.add_sub_cancel_left]
  simp [second]

end Text

open Parse

-- What to do with a token that was taken, in place of what the grammar makes of it.
structure Fallbacks (σ : Type) (act : Actions) where
  number : Token → Parse σ act.Expression
  string : Token → Parse σ act.Expression
  operator : (ω : Type) → Token → Parse σ ω

namespace Fallbacks

variable {σ : Type} [TokenSource σ] {act : Actions} (fallbacks : Fallbacks σ act)

def spelledOperator {ω : Type} [Spelled ω] (token : Token) : Parse σ ω :=
  match Spelled.ofSpelling? token.text with
  | some found => return found
  | none => fallbacks.operator ω token

def numberLiteral : Parse σ act.Expression := do
  let token ← expect .number
  match digitsValue? token.text.toList with
  | some value => return act.number value
  | none => fallbacks.number token

-- The text between the first and the last byte.
def stringLiteral : Parse σ act.Expression := do
  let token ← expect .string
  let text := token.text.toList
  match Text.slice? text 1 (Text.byteLength text - 1) with
  | some inside => return act.string (String.ofList inside)
  | none => fallbacks.string token

variable (inner : Nested σ act)

def primary : Parse σ act.Expression := do
  match ← lookaheadKind with
  | some .number => fallbacks.numberLiteral
  | some .string => fallbacks.stringLiteral
  | some (.keyword .trueWord) => Grammar.keywordExpression act .trueWord (act.boolean true)
  | some (.keyword .falseWord) => Grammar.keywordExpression act .falseWord (act.boolean false)
  | some (.keyword .nullWord) => Grammar.keywordExpression act .nullWord act.null
  | some (.mark .leftParen) => Grammar.parenthesized act inner
  | some .identifier =>
      let id ← Grammar.identifier act
      return act.identifierExpression id
  | some (.keyword .thisWord) => Grammar.keywordExpression act .thisWord act.this
  | some (.keyword .newWord) => inner.construction
  | _ => Grammar.unexpectedPrimary

def memberExpression : Parse σ act.Expression := do
  let object ← fallbacks.primary inner
  repeatWhile Grammar.startsMember (Grammar.memberStep act inner) object

def callExpression : Parse σ act.Expression := do
  if ← isAhead (.keyword .superWord) then
    let _ ← expect (.keyword .superWord)
    Grammar.calls act inner act.super
  else
    let e ← fallbacks.memberExpression inner
    if ← isAhead (.mark .leftParen) then Grammar.calls act inner e else return e

def prefixed (kind : TokenKind) : Parse σ act.Expression := do
  let token ← expect kind
  let operator ← fallbacks.spelledOperator token
  let argument ← inner.expression
  return act.unary operator argument

def unary : Parse σ act.Expression := do
  match ← lookaheadKind with
  | some .additive => fallbacks.prefixed inner .additive
  | some .logicalNot => fallbacks.prefixed inner .logicalNot
  | _ => fallbacks.callExpression inner

def operatorChain {ω : Type} [Spelled ω] (build : ω → act.Expression → act.Expression → act.Expression)
    (kind : TokenKind) (operand : Parse σ act.Expression) : Parse σ act.Expression := do
  let first ← operand
  repeatWhile (· == some kind)
    (fun left => do
      let token ← expect kind
      let operator ← fallbacks.spelledOperator token
      let right ← operand
      return build operator left right) first

-- The four levels of binary operators, and the two of logical ones around them.

def equality : Parse σ act.Expression :=
  fallbacks.operatorChain act.binary .equality <|
    fallbacks.operatorChain act.binary .relational <|
      fallbacks.operatorChain act.binary .additive <|
        fallbacks.operatorChain act.binary .multiplicative (fallbacks.unary inner)

def logicalOr : Parse σ act.Expression :=
  fallbacks.operatorChain act.logical .logicalOr <|
    fallbacks.operatorChain act.logical .logicalAnd (fallbacks.equality inner)

def assignTo (kind : TokenKind) (left : act.Expression) : Parse σ act.Expression := do
  match act.target? left with
  | none => fail .invalidTarget
  | some target =>
      let token ← expect kind
      let operator ← fallbacks.spelledOperator token
      let value ← inner.expression
      return act.assignment operator target value

def assignment : Parse σ act.Expression := do
  let left ← fallbacks.logicalOr inner
  match ← lookaheadKind with
  | some .simpleAssign => fallbacks.assignTo inner .simpleAssign left
  | some .complexAssign => fallbacks.assignTo inner .complexAssign left
  | _ => return left

def construction : Parse σ act.Expression := do
  let _ ← expect (.keyword .newWord)
  let callee ← fallbacks.memberExpression inner
  let found ← Grammar.arguments act inner
  return act.new callee found

def nested (limit : Nat) : (levels : Nat) → Nested σ act
  | 0 =>
      { statement := fail (.nestingTooDeep limit)
        expression := fail (.nestingTooDeep limit)
        construction := fail (.nestingTooDeep limit) }
  | levels + 1 =>
      let rest := nested limit levels
      { statement := deeper (Grammar.statement act rest)
        expression := deeper (fallbacks.assignment rest)
        construction := deeper (fallbacks.construction rest) }

def program (limit : Nat) : Parse σ act.Program := do
  refill
  let body ← Grammar.statements act (fallbacks.nested limit limit) none
  return act.program body

end Fallbacks

-- The result of a parse with fallbacks.
def Fallbacks.parse {act : Actions} (fallbacks : Fallbacks Tokenizer act) (source : String) :
    Except Error act.Program :=
  match fallbacks.program maxNesting (ParseState.start (Tokenizer.ofSource source)) with
  | .ok program _ => .ok program
  | .error fault _ => .error fault

end ScriptFront
