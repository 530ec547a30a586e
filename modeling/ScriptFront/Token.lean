import ScriptFront.Spelled

set_option autoImplicit false

/-! Tokens: their kinds, the names of the kinds in messages, and their places in the source. -/

namespace ScriptFront

-- A range of bytes in the source.
structure Span where
  start : Nat
  stop : Nat
deriving DecidableEq

namespace Span

def empty : Span :=
  ⟨0, 0⟩

def length (span : Span) : Nat :=
  span.stop - span.start

def isEmpty (span : Span) : Bool :=
  span.start == span.stop

end Span

inductive Mark where
  | semicolon
  | leftBrace
  | rightBrace
  | leftParen
  | rightParen
  | comma
  | dot
  | leftBracket
  | rightBracket
deriving DecidableEq

instance : Spelled Mark where
  all :=
    [.semicolon, .leftBrace, .rightBrace, .leftParen, .rightParen, .comma, .dot, .leftBracket,
      .rightBracket]
  spelling
    | .semicolon => ";"
    | .leftBrace => "\x7b"
    | .rightBrace => "\x7d"
    | .leftParen => "("
    | .rightParen => ")"
    | .comma => ","
    | .dot => "."
    | .leftBracket => "["
    | .rightBracket => "]"
  complete := by intro a; cases a <;> decide
  distinct := by decide

inductive Keyword where
  | letWord
  | ifWord
  | elseWord
  | trueWord
  | falseWord
  | nullWord
  | whileWord
  | doWord
  | forWord
  | defWord
  | returnWord
  | classWord
  | extendsWord
  | superWord
  | newWord
  | thisWord
deriving DecidableEq

instance : Spelled Keyword where
  all :=
    [.letWord, .ifWord, .elseWord, .trueWord, .falseWord, .nullWord, .whileWord, .doWord, .forWord,
      .defWord, .returnWord, .classWord, .extendsWord, .superWord, .newWord, .thisWord]
  spelling
    | .letWord => "let"
    | .ifWord => "if"
    | .elseWord => "else"
    | .trueWord => "true"
    | .falseWord => "false"
    | .nullWord => "null"
    | .whileWord => "while"
    | .doWord => "do"
    | .forWord => "for"
    | .defWord => "def"
    | .returnWord => "return"
    | .classWord => "class"
    | .extendsWord => "extends"
    | .superWord => "super"
    | .newWord => "new"
    | .thisWord => "this"
  complete := by intro a; cases a <;> decide
  distinct := by decide

inductive TokenKind where
  | mark (mark : Mark)
  | keyword (keyword : Keyword)
  | number
  | identifier
  | string
  | equality
  | simpleAssign
  | complexAssign
  | additive
  | multiplicative
  | relational
  | logicalAnd
  | logicalOr
  | logicalNot
deriving DecidableEq

namespace TokenKind

-- Marks and keywords are named by their spelling, the other kinds in capitals.
def name : TokenKind → String
  | .mark m => Spelled.spelling m
  | .keyword k => Spelled.spelling k
  | .number => "NUMBER"
  | .identifier => "IDENTIFIER"
  | .string => "STRING"
  | .equality => "EQUALITY_OPERATOR"
  | .simpleAssign => "SIMPLE_ASSIGN"
  | .complexAssign => "COMPLEX_ASSIGN"
  | .additive => "ADDITIVE_OPERATOR"
  | .multiplicative => "MULTIPLICATIVE_OPERATOR"
  | .relational => "RELATIONAL_OPERATOR"
  | .logicalAnd => "LOGICAL_AND"
  | .logicalOr => "LOGICAL_OR"
  | .logicalNot => "LOGICAL_NOT"

def isLiteral : TokenKind → Bool
  | .number | .string | .keyword .trueWord | .keyword .falseWord | .keyword .nullWord => true
  | _ => false

def isAssignment : TokenKind → Bool
  | .simpleAssign | .complexAssign => true
  | _ => false

end TokenKind

-- A token with the text that it stands for, quotes included.
structure Token where
  kind : TokenKind
  text : String
  span : Span
deriving DecidableEq

end ScriptFront
