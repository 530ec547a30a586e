import ScriptFront.Text.Blank
import ScriptFront.Text.Word
import ScriptFront.Token

set_option autoImplicit false

/-! The lexicon: an ordered table of patterns. The first pattern of the table that matches at the
front of a text decides, not the longest. -/

namespace ScriptFront

-- Letters, digits and the underscore of ASCII.
def isNameChar (c : Char) : Bool :=
  c.isAlphanum || c == '_'

inductive Pattern where
  -- As many characters of a class as there are, at least one.
  | run (accepts : Char → Bool)
  -- Two slashes and the rest of the line.
  | lineComment
  -- From `/*` to the first `*/` after it.
  | blockComment
  | exactly (spelling : List Char)
  -- A spelling that no word character follows.
  | word (spelling : List Char)
  | oneOf (choices : List Char)
  | thenEquals (choices : List Char)
  | maybeEquals (choices : List Char)
  -- From a quote to the next one.
  | quoted (quote : Char)

def startsWithWord : List Char → Bool
  | [] => false
  | c :: _ => Text.isWord c

-- How many characters lie up to the end of the first `*/`.
def commentLength? : List Char → Option Nat
  | [] => none
  | '*' :: '/' :: _ => some 2
  | _ :: rest => (commentLength? rest).map (· + 1)

namespace Pattern

-- How many characters the pattern takes off the front of a text, if it matches there.
def length? : Pattern → List Char → Option Nat
  | .run accepts, text =>
      let size := (text.takeWhile accepts).length
      if size = 0 then none else some size
  | .lineComment, '/' :: '/' :: rest => some ((rest.takeWhile (· != '\n')).length + 2)
  | .blockComment, '/' :: '*' :: rest => (commentLength? rest).map (· + 2)
  | .exactly spelling, text => if spelling.isPrefixOf text then some spelling.length else none
  | .word spelling, text =>
      if spelling.isPrefixOf text && !startsWithWord (text.drop spelling.length) then
        some spelling.length
      else none
  | .oneOf choices, c :: _ => if choices.contains c then some 1 else none
  | .thenEquals choices, c :: '=' :: _ => if choices.contains c then some 2 else none
  | .maybeEquals choices, c :: rest =>
      if choices.contains c then some (if rest.head? = some '=' then 2 else 1) else none
  | .quoted quote, c :: rest =>
      let size := (rest.takeWhile (· != quote)).length
      if c = quote && size < rest.length then some (size + 2) else none
  | _, _ => none

end Pattern

-- A pattern and the kind of its tokens. White space and comments have none.
structure Rule where
  pattern : Pattern
  kind : Option TokenKind

def markRule (mark : Mark) : Rule :=
  ⟨.exactly (Spelled.spelling mark).toList, some (.mark mark)⟩

def keywordRule (keyword : Keyword) : Rule :=
  ⟨.word (Spelled.spelling keyword).toList, some (.keyword keyword)⟩

-- The table. Comments come before the operators that start with a slash, keywords before names,
-- numbers before names, and operators that end in `=` before those that start them.
def lexicon : List Rule :=
  [⟨.run Text.isBlank, none⟩, ⟨.lineComment, none⟩, ⟨.blockComment, none⟩] ++
    Spelled.all.map markRule ++ Spelled.all.map keywordRule ++
    [⟨.run Char.isDigit, some .number⟩,
     ⟨.run isNameChar, some .identifier⟩,
     ⟨.thenEquals ['=', '!'], some .equality⟩,
     ⟨.oneOf ['='], some .simpleAssign⟩,
     ⟨.thenEquals ['*', '/', '+', '-'], some .complexAssign⟩,
     ⟨.oneOf ['+', '-'], some .additive⟩,
     ⟨.oneOf ['*', '/'], some .multiplicative⟩,
     ⟨.maybeEquals ['>', '<'], some .relational⟩,
     ⟨.exactly ['&', '&'], some .logicalAnd⟩,
     ⟨.exactly ['|', '|'], some .logicalOr⟩,
     ⟨.oneOf ['!'], some .logicalNot⟩,
     ⟨.quoted '"', some .string⟩,
     ⟨.quoted '\x27', some .string⟩]

-- What stands at the front of a text: the kind of the first rule that matches, and how many
-- characters it takes.
def firstMatch? (text : List Char) : Option (Option TokenKind × Nat) :=
  lexicon.findSome? fun rule => (rule.pattern.length? text).map fun size => (rule.kind, size)

-- Only a spelling without characters could match nothing.
def Pattern.takesSome : Pattern → Bool
  | .exactly spelling | .word spelling => !spelling.isEmpty
  | _ => true

theorem pattern_length_pos (pattern : Pattern) (text : List Char) (size : Nat)
    (takes : pattern.takesSome = true) (found : pattern.length? text = some size) : 0 < size := by
  unfold Pattern.length? at found
  split at found
  · dsimp only at found
    split at found
    · contradiction
    · injection found with same
      omega
  · injection found with same
    omega
  · obtain ⟨rest, _, same⟩ := Option.map_eq_some_iff.mp found
    omega
  · rename_i spelling
    split at found
    · injection found with same
      cases spelling with
      | nil => contradiction
      | cons c rest => exact same ▸ Nat.succ_pos _
    · contradiction
  · rename_i spelling
    split at found
    · injection found with same
      cases spelling with
      | nil => contradiction
      | cons c rest => exact same ▸ Nat.succ_pos _
    · contradiction
  · split at found
    · injection found with same
      omega
    · contradiction
  · split at found
    · injection found with same
      omega
    · contradiction
  · split at found
    · injection found with same
      split at same <;> omega
    · contradiction
  · dsimp only at found
    split at found
    · injection found with same
      omega
    · contradiction
  · contradiction

theorem lexicon_takes_some : lexicon.all (·.pattern.takesSome) = true := by
  decide

theorem first_match_pos (text : List Char) (kind : Option TokenKind) (size : Nat)
    (found : firstMatch? text = some (kind, size)) : 0 < size := by
  obtain ⟨rule, member, matched⟩ := List.exists_of_findSome?_eq_some found
  obtain ⟨count, length, same⟩ := Option.map_eq_some_iff.mp matched
  obtain ⟨_, rfl⟩ := Prod.mk.inj same
  exact pattern_length_pos rule.pattern text count (List.all_eq_true.mp lexicon_takes_some rule member) length

end ScriptFront
