import ScriptFront.Error

set_option autoImplicit false

/-! The state of a parse, and the steps that all productions are made of: look at the next token, take
it, open a nesting level, and repeat while tokens of some kind come. -/

namespace ScriptFront

-- Where a parse takes its tokens from. Every token lowers the bound, so there are no more tokens
-- than it says.
class TokenSource (σ : Type) where
  next : σ → EStateM.Result LexicalError σ (Option Token)
  bound : σ → Nat
  lowers : ∀ source token after, next source = .ok (some token) after → bound after < bound source

-- Tokens are cut from the text when they are needed.
instance : TokenSource Tokenizer where
  next := Tokenizer.read
  bound := Tokenizer.bytesLeft
  lowers source token after := Tokenizer.bytes_left_read source after token

-- Tokens that are cut already.
instance : TokenSource (List Token) where
  next
    | [] => .ok none []
    | token :: rest => .ok (some token) rest
  bound := List.length
  lowers
    | [], _, _, found => by simp at found
    | _ :: _, _, _, found => by injection found with _ same; simp [← same]

-- The lookahead is the one token that was taken from the source and not used. `depth` levels of
-- nesting are open, and `deepest` is the most that were open at once.
structure ParseState (σ : Type) where
  lookahead : Option Token
  source : σ
  depth : Nat
  deepest : Nat

abbrev Parse (σ : Type) := EStateM Error (ParseState σ)

namespace ParseState

variable {σ : Type} [TokenSource σ]

def start (source : σ) : ParseState σ :=
  ⟨none, source, 0, 0⟩

-- At least the number of tokens that are left, with the lookahead.
def bound (s : ParseState σ) : Nat :=
  TokenSource.bound s.source + s.lookahead.toList.length

def enter (s : ParseState σ) : ParseState σ :=
  { s with depth := s.depth + 1, deepest := max s.deepest (s.depth + 1) }

def leave (s : ParseState σ) : ParseState σ :=
  { s with depth := s.depth - 1 }

end ParseState

namespace Parse

variable {σ : Type} [TokenSource σ] {α : Type}

def fail (fault : GrammarError) : Parse σ α :=
  throw (.grammar fault)

-- Fills the lookahead from the source.
def refill : Parse σ Unit := fun s =>
  match TokenSource.next s.source with
  | .ok token source => .ok () { s with lookahead := token, source := source }
  | .error fault source => .error (.lexical fault) { s with lookahead := none, source := source }

def lookaheadKind : Parse σ (Option TokenKind) :=
  return (← get).lookahead.map Token.kind

def lookaheadText : Parse σ (Option String) :=
  return (← get).lookahead.map Token.text

def isAhead (kind : TokenKind) : Parse σ Bool :=
  return (← lookaheadKind) == some kind

-- Takes the lookahead if it is of a kind.
def expect (kind : TokenKind) : Parse σ Token := do
  match (← get).lookahead with
  | none => fail (.unexpectedEnd kind)
  | some token =>
      if token.kind = kind then
        refill
        return token
      else fail (.unexpectedToken token.text kind token.span.start)

-- Runs a production one level deeper.
def deeper (production : Parse σ α) : Parse σ α := fun s =>
  match production s.enter with
  | .ok value after => .ok value after.leave
  | .error fault after => .error fault after.leave

def rounds (goesOn : Option TokenKind → Bool) (step : α → Parse σ α) : Nat → α → Parse σ α
  | 0, value => return value
  | count + 1, value => do
      if goesOn (← lookaheadKind) then rounds goesOn step count (← step value)
      else return value

-- Repeats a step while the lookahead is of the right kind. Every step takes a token, so there are
-- enough rounds.
def repeatWhile (goesOn : Option TokenKind → Bool) (step : α → Parse σ α) (value : α) :
    Parse σ α := fun s =>
  rounds goesOn step s.bound value s

-- Items with commas between them, at least one.
def commaList (item : Parse σ α) : Parse σ (List α) := do
  let first ← item
  let items ← repeatWhile (· == some (.mark .comma))
    (fun done => do
      let _ ← expect (.mark .comma)
      return (← item) :: done) [first]
  return items.reverse

-- The operator that a token spells.
def operator (token : Token) [Spelled α] : Parse σ α :=
  match Spelled.ofSpelling? token.text with
  | some found => return found
  | none => fail (.unknownOperator token.text)

end Parse

end ScriptFront
