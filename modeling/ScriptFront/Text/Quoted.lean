import ScriptFront.Text.Printable
import ScriptFront.Text.Extender

set_option autoImplicit false

/-! Quoted text: a text between double quotes, where every character that does not show alone is
written as an escape. -/

namespace ScriptFront.Text

def escaped (c : Char) : List Char :=
  match c with
  | '"' => ['\\', '"']
  | '\\' => ['\\', '\\']
  | '\n' => ['\\', 'n']
  | '\r' => ['\\', 'r']
  | '\t' => ['\\', 't']
  | '\x00' => ['\\', '0']
  | _ =>
      if isPrintable c && !isExtender c then [c]
      else ['\\', 'u', '{'] ++ Nat.toDigits 16 c.toNat ++ ['}']

-- A text in double quotes, with single quotes left as they are.
def quoted (text : String) : String :=
  String.ofList ('"' :: (text.toList.flatMap escaped ++ ['"']))

end ScriptFront.Text
