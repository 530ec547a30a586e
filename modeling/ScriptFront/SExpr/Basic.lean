import ScriptFront.Json.Basic
import ScriptFront.Number.Layout
import ScriptFront.Text.Quoted

set_option autoImplicit false

/-! S-expressions: atoms and nested lists, their Lisp text and their JSON. -/

namespace ScriptFront

inductive SExpr where
  | number (value : Binary64)
  | string (text : String)
  | symbol (name : String)
  | list (items : List SExpr)

namespace SExpr

-- A list headed by a symbol.
def form (head : String) (items : List SExpr) : SExpr :=
  .list (.symbol head :: items)

def nil : SExpr :=
  .list []

def isNil : SExpr → Bool
  | .list [] => true
  | _ => false

-- The symbol at the head of a list.
def head? : SExpr → Option String
  | .list (.symbol name :: _) => some name
  | _ => none

-- Symbols that stand for keywords; all others are identifiers.
def reserved : List String :=
  ["this", "super", "null", "true", "false"]

-- Identifiers and members can be assigned to.
def isAssignable : SExpr → Bool
  | .symbol name => !reserved.contains name
  | e => e.head? == some "prop" || e.head? == some "index"

mutual
-- The Lisp text in front of the text that follows.
def textThen : SExpr → List Char → List Char
  | .number value, rest => value.lispText ++ rest
  | .string text, rest => (Text.quoted text).toList ++ rest
  | .symbol name, rest => name.toList ++ rest
  | .list [], rest => '(' :: ')' :: rest
  | .list (item :: items), rest => '(' :: textThen item (itemsThen items (')' :: rest))

def itemsThen : List SExpr → List Char → List Char
  | [], rest => rest
  | item :: items, rest => ' ' :: textThen item (itemsThen items rest)
end

def text (e : SExpr) : String :=
  String.ofList (textThen e [])

mutual
-- Lists are arrays; strings keep their quotes and so differ from symbols.
def toJson : SExpr → Json
  | .number value => .ofNumber value
  | .string text => .string ("\"" ++ text ++ "\"")
  | .symbol name => .string name
  | .list items => .array (itemsJson items)

def itemsJson : List SExpr → List Json
  | [] => []
  | item :: items => item.toJson :: itemsJson items
end

mutual
-- Equality, in which numbers are compared by value.
def same : SExpr → SExpr → Bool
  | .number x, .number y => x == y
  | .string a, .string b => a == b
  | .symbol a, .symbol b => a == b
  | .list a, .list b => sameItems a b
  | _, _ => false

def sameItems : List SExpr → List SExpr → Bool
  | [], [] => true
  | a :: as, b :: bs => a.same b && sameItems as bs
  | _, _ => false
end

end SExpr

end ScriptFront
