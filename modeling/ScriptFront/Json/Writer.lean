import ScriptFront.Json.Basic
import ScriptFront.Number.Layout

set_option autoImplicit false

/-! The text of a JSON value, on one line or indented by two spaces a level. Every function puts its
text in front of the text that follows. -/

namespace ScriptFront

namespace Json

-- Quotes, backslashes and controls are escaped; all other characters stand for themselves.
def escapedChar (c : Char) : List Char :=
  match c with
  | '"' => ['\\', '"']
  | '\\' => ['\\', '\\']
  | '\x08' => ['\\', 'b']
  | '\x0c' => ['\\', 'f']
  | '\n' => ['\\', 'n']
  | '\r' => ['\\', 'r']
  | '\t' => ['\\', 't']
  | _ =>
      if c.toNat < 0x20 then
        ['\\', 'u', '0', '0', Nat.digitChar (c.toNat / 16), Nat.digitChar (c.toNat % 16)]
      else [c]

def stringThen (text : String) (rest : List Char) : List Char :=
  '"' :: (text.toList.flatMap escapedChar ++ '"' :: rest)

def atomThen : Json → List Char → List Char
  | .null, rest => "null".toList ++ rest
  | .boolean true, rest => "true".toList ++ rest
  | .boolean false, rest => "false".toList ++ rest
  | .integer i, rest => signText (i.value < 0) ++ Nat.toDigits 10 i.value.natAbs ++ rest
  | .float x, rest => x.jsonText ++ rest
  | .string text, rest => stringThen text rest
  | .array _, rest => rest
  | .object _, rest => rest

mutual
def textThen : Json → List Char → List Char
  | .array [], rest => '[' :: ']' :: rest
  | .array (item :: items), rest => '[' :: textThen item (itemsThen items (']' :: rest))
  | .object [], rest => '{' :: '}' :: rest
  | .object (member :: members), rest => '{' :: memberThen member (membersThen members ('}' :: rest))
  | atom, rest => atomThen atom rest

def itemsThen : List Json → List Char → List Char
  | [], rest => rest
  | item :: items, rest => ',' :: textThen item (itemsThen items rest)

def memberThen : String × Json → List Char → List Char
  | (name, value), rest => stringThen name (':' :: textThen value rest)

def membersThen : List (String × Json) → List Char → List Char
  | [], rest => rest
  | member :: members, rest => ',' :: memberThen member (membersThen members rest)
end

-- The text on one line, without blanks.
def text (value : Json) : String :=
  String.ofList (textThen value [])

def lineThen (level : Nat) (rest : List Char) : List Char :=
  '\n' :: (List.replicate (2 * level) ' ' ++ rest)

mutual
def indentedThen (level : Nat) : Json → List Char → List Char
  | .array [], rest => '[' :: ']' :: rest
  | .array (item :: items), rest =>
      '[' :: lineThen (level + 1) (indentedThen (level + 1) item
        (indentedItemsThen (level + 1) items (lineThen level (']' :: rest))))
  | .object [], rest => '{' :: '}' :: rest
  | .object (member :: members), rest =>
      '{' :: lineThen (level + 1) (indentedMemberThen (level + 1) member
        (indentedMembersThen (level + 1) members (lineThen level ('}' :: rest))))
  | atom, rest => atomThen atom rest

def indentedItemsThen (level : Nat) : List Json → List Char → List Char
  | [], rest => rest
  | item :: items, rest =>
      ',' :: lineThen level (indentedThen level item (indentedItemsThen level items rest))

def indentedMemberThen (level : Nat) : String × Json → List Char → List Char
  | (name, value), rest => stringThen name (':' :: ' ' :: indentedThen level value rest)

def indentedMembersThen (level : Nat) : List (String × Json) → List Char → List Char
  | [], rest => rest
  | member :: members, rest =>
      ',' :: lineThen level (indentedMemberThen level member (indentedMembersThen level members rest))
end

-- The text with one item or member a line.
def indentedText (value : Json) : String :=
  String.ofList (indentedThen 0 value [])

end Json

end ScriptFront
