import ScriptFront.Proofs.LexicalErrors
import ScriptFront.Proofs.TokenizerRuns

set_option autoImplicit false

/-! What the kind of a token says about its text and about the character behind it, for every token that a
tokenizer gives. A name is spelled like a keyword only right before a lexical error. -/

namespace ScriptFront

-- The texts of the operators of a kind.
def TokenKind.operators : TokenKind → List String
  | .equality => ["==", "!="]
  | .simpleAssign => ["="]
  | .complexAssign => ["*=", "/=", "+=", "-="]
  | .additive => ["+", "-"]
  | .multiplicative => ["*", "/"]
  | .relational => [">", ">=", "<", "<="]
  | .logicalAnd => ["&&"]
  | .logicalOr => ["||"]
  | .logicalNot => ["!"]
  | _ => []

-- All the characters of a class that stand at the front of a text, and at least one.
structure WholeRun (accepts : Char → Bool) (run rest : List Char) : Prop where
  some : run ≠ []
  inside : run.all accepts = true
  stops : ∀ c, rest.head? = Option.some c → accepts c = false

-- A text of a kind, in front of the rest of the source.
def TokenKind.Fits (text : String) (rest : List Char) : TokenKind → Prop
  | .mark m => text = (TokenKind.mark m).name
  | .keyword k => text = (TokenKind.keyword k).name
  | .number => WholeRun Char.isDigit text.toList rest
  | .identifier => WholeRun isNameChar text.toList rest ∧ ∀ c, text.toList.head? = some c → c.isDigit = false
  | .string => ∃ quote body, (quote = '"' ∨ quote = '\x27') ∧ quote ∉ body ∧ text.toList = quote :: (body ++ [quote])
  | kind => text ∈ kind.operators

-- What holds of a token, with the tokenizer that stands right behind it.
structure Token.Coherent (source : String) (behind : Tokenizer) (token : Token) : Prop where
  place : RestAt source token.span.stop behind.rest
  fits : token.kind.Fits token.text behind.rest
  boundary : ∀ keyword : Keyword, token.kind = .identifier → token.text = Spelled.spelling keyword →
    ∃ c rest, behind.rest = c :: rest ∧ Text.isWord c = true ∧ 0x80 ≤ c.toNat ∧
      behind.read = .error ⟨c, token.span.stop⟩ behind

theorem rule_of_first_match (text : List Char) (kind : Option TokenKind) (size : Nat)
    (found : firstMatch? text = some (kind, size)) :
    ∃ rule ∈ lexicon, rule.kind = kind ∧ rule.pattern.length? text = some size := by
  obtain ⟨rule, member, matched⟩ := List.exists_of_findSome?_eq_some found
  obtain ⟨count, length, same⟩ := Option.map_eq_some_iff.mp matched
  obtain ⟨sort, rfl⟩ := Prod.mk.inj same
  exact ⟨rule, member, sort, length⟩

-- Numbers and names are runs of one class each.
theorem run_rules (rule : Rule) (member : rule ∈ lexicon) :
    (rule.kind = some .number → rule.pattern = .run Char.isDigit) ∧
      (rule.kind = some .identifier → rule.pattern = .run isNameChar) := by
  simp only [lexicon, List.mem_append, List.mem_map, List.mem_cons, List.not_mem_nil, or_false] at member
  rcases member with ((spaces | ⟨mark, _, rfl⟩) | ⟨keyword, _, rfl⟩) | others
  · rcases spaces with rfl | rfl | rfl <;> simp
  · constructor <;> (intro same; cases same)
  · constructor <;> (intro same; cases same)
  · rcases others with rfl | rfl | others
    · simp
    · simp
    · rcases others with rfl | rfl | rfl | rfl | rfl | rfl | rfl | rfl | rfl | rfl | rfl <;> simp

theorem whole_run_of_length (accepts : Char → Bool) (run rest : List Char)
    (found : (Pattern.run accepts).length? (run ++ rest) = some run.length) : WholeRun accepts run rest := by
  obtain ⟨taken, some⟩ := taken_run accepts (run ++ rest) run.length found
  rw [List.take_left] at taken
  have behind := drop_run accepts (run ++ rest)
  rw [← taken, List.drop_left] at behind
  refine ⟨taken ▸ some, taken ▸ List.all_takeWhile, fun c head => ?_⟩
  have stops := List.head?_dropWhile_not accepts (run ++ rest)
  rw [← behind, head] at stops
  simpa using stops

theorem operator_of_has_lexeme (kind : TokenKind) (text : String) (operator : kind.operators ≠ [])
    (lexeme : kind.hasLexeme text.toList = true) : text ∈ kind.operators := by
  have listed (texts : List (List Char)) (same : texts = kind.operators.map String.toList)
      (member : text.toList ∈ texts) : text ∈ kind.operators := by
    rw [same] at member
    obtain ⟨other, member, equal⟩ := List.mem_map.mp member
    exact String.toList_inj.mp equal ▸ member
  cases kind with
  | mark m => contradiction
  | keyword k => contradiction
  | number | identifier | string => contradiction
  | simpleAssign | logicalAnd | logicalOr | logicalNot =>
      exact listed _ rfl (List.mem_singleton.mpr (eq_of_beq lexeme))
  | equality | complexAssign | additive | multiplicative | relational =>
      exact listed _ rfl (List.contains_iff_mem.mp lexeme)

-- A name does not begin with a digit, since the rule of numbers comes first.
theorem name_not_digit (text : List Char) (size : Nat) (found : firstMatch? text = some (some .identifier, size))
    (c : Char) (head : text.head? = some c) : c.isDigit = false := by
  obtain ⟨rest, rfl⟩ := List.head?_eq_some_iff.mp head
  have missed := (first_match_identifier _ size found).1 ⟨.run Char.isDigit, some .number⟩ (by simp [beforeNames])
  simpa [Pattern.length?, List.takeWhile_cons] using missed

theorem fits_of_first_match (kind : TokenKind) (text : String) (rest : List Char)
    (found : firstMatch? (text.toList ++ rest) = some (some kind, text.toList.length)) : kind.Fits text rest := by
  have run (accepts : Char → Bool)
      (only : ∀ rule ∈ lexicon, rule.kind = some kind → rule.pattern = .run accepts) :
      WholeRun accepts text.toList rest := by
    obtain ⟨rule, member, sort, length⟩ := rule_of_first_match _ _ _ found
    exact whole_run_of_length accepts _ rest (only rule member sort ▸ length)
  by_cases name : kind = .identifier
  · subst name
    have whole := run isNameChar fun rule member => (run_rules rule member).2
    refine ⟨whole, fun c head => name_not_digit _ _ found c ?_⟩
    rw [List.head?_append, head, Option.some_or]
  · have lexeme := lexeme_of_first_match _ kind _ found fun same => absurd same name
    rw [List.take_left] at lexeme
    cases kind with
    | mark m => exact String.toList_inj.mp (eq_of_beq lexeme)
    | keyword k => exact String.toList_inj.mp (eq_of_beq lexeme)
    | number => exact run Char.isDigit fun rule member => (run_rules rule member).1
    | identifier => contradiction
    | string => exact body_of_quoted _ lexeme
    | equality | simpleAssign | complexAssign | additive | multiplicative | relational | logicalAnd | logicalOr
    | logicalNot => exact operator_of_has_lexeme _ text (by simp [TokenKind.operators]) lexeme

namespace Tokenizer

theorem coherent_of_read (source : String) (t behind : Tokenizer) (token : Token) (inside : t.Inside source)
    (found : t.read = .ok (some token) behind) : token.Coherent source behind := by
  have covers := covers_read source t inside
  rw [found] at covers
  obtain ⟨_, stop, inside', rest, _, here, matched⟩ := covers
  rw [rest_at_unique source _ rest behind.rest (stop ▸ here) inside'] at matched
  refine ⟨stop ▸ inside', fits_of_first_match token.kind token.text behind.rest matched, ?_⟩
  intro keyword name spelled
  rw [name] at matched
  have spelled' : (token.text.toList ++ behind.rest).take token.text.toList.length =
      (Spelled.spelling keyword).toList := by
    rw [List.take_left, spelled]
  obtain ⟨c, later, next, word, wide⟩ := keyword_name_then_word _ _ keyword matched spelled'
  rw [List.drop_left] at next
  have nothing : firstMatch? behind.rest = none := next ▸ first_match_wide_word c later word wide
  exact ⟨c, later, next, word, wide, stop ▸ read_fails behind c later next nothing⟩

theorem coherent_of_perform (source : String) (t : Tokenizer) (token : Token) (inside : t.Inside source)
    (call : Call) (given : (t.perform call).1.token? = some token) : token.Coherent source (t.perform call).2 := by
  have done := t.performs call
  generalize t.perform call = result at done given
  obtain ⟨answer, behind⟩ := result
  cases done with
  | token _ other behind found =>
      injection given with same
      exact coherent_of_read source t behind token inside (same ▸ found)
  | none | failed | finished | offset | truth => contradiction

end Tokenizer

open Tokenizer

-- Every token that any call gives after any others has a text of its kind, and the next reading fails
-- behind a name that is spelled like a keyword; so there is no such name where nothing fails.
theorem token_texts_coherent (source : String) :
    (∀ calls call token, (((ofSource source).after calls).perform call).1.token? = some token →
        token.Coherent source (((ofSource source).after calls).perform call).2) ∧
      ∀ tokens, tokenize source = .ok tokens → ∀ token ∈ tokens, token.kind = .identifier →
        ∀ keyword : Keyword, token.text ≠ Spelled.spelling keyword := by
  constructor
  · intro calls call token given
    have inside := (after_forward source (ofSource source) (inside_of_source source) calls).1
    exact coherent_of_perform source _ token inside call given
  · intro tokens found token member name keyword spelled
    have lexeme := well_spelled_of_tokenize source tokens found token member
    rw [Token.wellSpelled, name, spelled] at lexeme
    have free : isName (Spelled.spelling keyword).toList = false := by cases keyword <;> decide +kernel
    exact Bool.false_ne_true (free.symm.trans lexeme)

-- A keyword that a letter beyond ASCII follows is a name, in front of an error.
theorem token_texts_coherent_at_accent :
    (((ofSource "7 leté").after [.next]).perform .read).1.token? = some ⟨.identifier, "let", ⟨2, 5⟩⟩ ∧
      Token.Coherent "7 leté" (((ofSource "7 leté").after [.next]).perform .read).2
        ⟨.identifier, "let", ⟨2, 5⟩⟩ ∧
      tokenize "lets" = .ok [⟨.identifier, "lets", ⟨0, 4⟩⟩] ∧ "lets" ≠ Spelled.spelling Keyword.letWord := by
  have given : (((ofSource "7 leté").after [.next]).perform .read).1.token? =
      some ⟨.identifier, "let", ⟨2, 5⟩⟩ := by decide +kernel
  have found : tokenize "lets" = .ok [⟨.identifier, "lets", ⟨0, 4⟩⟩] := by decide +kernel
  exact ⟨given, (token_texts_coherent "7 leté").1 _ _ _ given, found,
    (token_texts_coherent "lets").2 _ found _ (List.mem_singleton_self _) rfl .letWord⟩

end ScriptFront
