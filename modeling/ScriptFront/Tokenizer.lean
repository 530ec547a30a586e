import ScriptFront.Lexicon
import ScriptFront.Text.Bytes

set_option autoImplicit false

/-! The tokenizer: a cursor that takes one token after the other off the front of a source. -/

namespace ScriptFront

-- No pattern of the lexicon matches at this character.
structure LexicalError where
  character : Char
  offset : Nat
deriving DecidableEq

-- A source of `size` bytes, of which those before the cursor are read.
structure Tokenizer where
  size : Nat
  cursor : Nat
  rest : List Char
  covers : cursor + Text.byteLength rest = size

namespace Tokenizer

def ofSource (source : String) : Tokenizer :=
  ⟨Text.byteLength source.toList, 0, source.toList, by simp⟩

def isAtEnd (t : Tokenizer) : Bool :=
  t.cursor == t.size

def hasMore (t : Tokenizer) : Bool :=
  t.cursor < t.size

def bytesLeft (t : Tokenizer) : Nat :=
  t.size - t.cursor

-- Moves the cursor over some characters.
def advance (t : Tokenizer) (count : Nat) : Tokenizer where
  size := t.size
  cursor := t.cursor + Text.byteLength (t.rest.take count)
  rest := t.rest.drop count
  covers := by rw [Nat.add_assoc, Text.byte_length_take_add_drop, t.covers]

-- Moves the cursor to the end.
def finish (t : Tokenizer) : Tokenizer :=
  ⟨t.size, t.size, [], by simp [Text.byteLength]⟩

-- Takes matches off the front until one is a token.
def scan : Nat → Tokenizer → EStateM.Result LexicalError Tokenizer (Option Token)
  | 0, t => .ok none t
  | rounds + 1, t =>
      match t.rest with
      | [] => .ok none t
      | c :: _ =>
          match firstMatch? t.rest with
          | none => .error ⟨c, t.cursor⟩ t
          | some (none, size) => scan rounds (t.advance size)
          | some (some kind, size) =>
              let after := t.advance size
              .ok (some ⟨kind, String.ofList (t.rest.take size), ⟨t.cursor, after.cursor⟩⟩) after

-- The next token, or none at the end. An error leaves the cursor where no pattern matches, so it
-- comes again. A match takes at least one byte, so the rounds do not run out.
def read (t : Tokenizer) : EStateM.Result LexicalError Tokenizer (Option Token) :=
  scan (t.bytesLeft + 1) t

-- The next token or error. After an error the cursor is at the end.
def next (t : Tokenizer) : Option (Except LexicalError Token) × Tokenizer :=
  match t.read with
  | .ok none after => (none, after)
  | .ok (some token) after => (some (.ok token), after)
  | .error fault after => (some (.error fault), after.finish)

theorem bytes_left_eq (t : Tokenizer) : t.bytesLeft = Text.byteLength t.rest := by
  have covers := t.covers
  unfold bytesLeft
  omega

theorem bytes_left_advance (t : Tokenizer) (c : Char) (rest : List Char) (count : Nat)
    (unread : t.rest = c :: rest) (some : 0 < count) : (t.advance count).bytesLeft < t.bytesLeft := by
  obtain ⟨more, rfl⟩ := Nat.exists_eq_add_one.mpr some
  rw [bytes_left_eq, bytes_left_eq, ← Text.byte_length_take_add_drop (more + 1) t.rest]
  have size := c.utf8Size_pos
  simp only [advance, unread, List.take_succ_cons, Text.byteLength]
  omega

theorem bytes_left_scan (rounds : Nat) (t after : Tokenizer) (token : Token)
    (found : scan rounds t = .ok (some token) after) : after.bytesLeft < t.bytesLeft := by
  induction rounds generalizing t with
  | zero => simp [scan] at found
  | succ rounds ih =>
      rw [scan] at found
      split at found
      · simp at found
      · rename_i c rest unread
        split at found
        · simp at found
        · rename_i size matched
          have shorter := bytes_left_advance t c rest size unread (first_match_pos _ _ _ matched)
          have later := ih (t.advance size) found
          omega
        · rename_i kind size matched
          injection found with _ same
          exact same ▸ bytes_left_advance t c rest size unread (first_match_pos _ _ _ matched)

theorem bytes_left_read (t after : Tokenizer) (token : Token)
    (found : t.read = .ok (some token) after) : after.bytesLeft < t.bytesLeft :=
  bytes_left_scan _ t after token found

-- All that `next` still gives.
def drain : Nat → Tokenizer → List (Except LexicalError Token) × Tokenizer
  | 0, t => ([], t)
  | rounds + 1, t =>
      match t.next with
      | (none, after) => ([], after)
      | (some item, after) =>
          let found := drain rounds after
          (item :: found.1, found.2)

def remaining (t : Tokenizer) : List (Except LexicalError Token) × Tokenizer :=
  drain (t.bytesLeft + 1) t

end Tokenizer

def tokensFrom : Nat → Tokenizer → Except LexicalError (List Token)
  | 0, _ => .ok []
  | rounds + 1, t =>
      match t.read with
      | .ok none _ => .ok []
      | .ok (some token) after => (tokensFrom rounds after).map (token :: ·)
      | .error fault _ => .error fault

-- The tokens of a source, or its first lexical error.
def tokenize (source : String) : Except LexicalError (List Token) :=
  let t := Tokenizer.ofSource source
  tokensFrom (t.bytesLeft + 1) t

end ScriptFront
