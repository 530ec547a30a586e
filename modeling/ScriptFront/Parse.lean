import ScriptFront.Grammar.Statement

set_option autoImplicit false

/-! Parsing a source text. -/

namespace ScriptFront

-- How many statements, expressions and constructions may be open at once.
def maxNesting : Nat := 64

-- The result of a parse in which at most `limit` levels of nesting are open at once.
def parseFrom {σ : Type} [TokenSource σ] (act : Actions) (limit : Nat) (source : σ) :
    Except Error act.Program :=
  match Grammar.program act limit (ParseState.start source) with
  | .ok program _ => .ok program
  | .error fault _ => .error fault

def parse (act : Actions) (source : String) : Except Error act.Program :=
  parseFrom act maxNesting (Tokenizer.ofSource source)

end ScriptFront
