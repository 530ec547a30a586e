import ScriptFront.Json.Fault
import ScriptFront.Tokenizer

set_option autoImplicit false

/-! What can go wrong between a source text or a configuration and a tree. -/

namespace ScriptFront

-- The ways in which tokens do not fit the grammar.
inductive GrammarError where
  | unexpectedEnd (expected : TokenKind)
  | unexpectedToken (found : String) (expected : TokenKind) (offset : Nat)
  | invalidTarget
  -- No primary expression starts with this token, or at the end of the input.
  | unexpectedPrimary (found : Option String)
  | nestingTooDeep (limit : Nat)
  | unknownOperator (lexeme : String)
deriving DecidableEq

inductive ConfigError where
  | unknownForm (name : String)
  | document (fault : ReadFault)
  | notJson
deriving DecidableEq

inductive Error where
  | lexical (fault : LexicalError)
  | grammar (fault : GrammarError)
  | config (fault : ConfigError)
deriving DecidableEq

def inQuotes (text : String) : String :=
  "\"" ++ text ++ "\""

def LexicalError.message (fault : LexicalError) : String :=
  "LexicalError: Unexpected token: " ++ inQuotes (String.singleton fault.character) ++
    " at offset " ++ toString fault.offset

namespace GrammarError

def detail : GrammarError → String
  | .unexpectedEnd expected => "Unexpected end of input, expected: " ++ inQuotes expected.name
  | .unexpectedToken found expected offset =>
      "Unexpected token: " ++ inQuotes found ++ ", expected: " ++ inQuotes expected.name ++
        " at offset " ++ toString offset
  | .invalidTarget => "Invalid left-hand side in assignment expression"
  | .unexpectedPrimary found =>
      "Unexpected primary expression: " ++ found.getD "end of input"
  | .nestingTooDeep limit => "Nesting deeper than " ++ toString limit ++ " levels"
  | .unknownOperator lexeme => "Unknown operator: " ++ inQuotes lexeme

end GrammarError

def ConfigError.detail? : ConfigError → Option String
  | .unknownForm name => some ("unknown output form: " ++ Text.quoted name)
  | .document fault => fault.message?
  | .notJson => none

namespace Error

def message? : Error → Option String
  | .lexical fault => some fault.message
  | .grammar fault => some ("SyntaxError: " ++ fault.detail)
  | .config fault => fault.detail?.map ("Invalid configuration: " ++ ·)

def isLexical : Error → Bool
  | .lexical _ => true
  | _ => false

def isGrammar : Error → Bool
  | .grammar _ => true
  | _ => false

end Error

end ScriptFront
