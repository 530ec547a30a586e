import ScriptFront.Proofs.Takes
import ScriptFront.Proofs.WordBoundary

set_option autoImplicit false

/-! The texts that tokens of each kind can have. Every token that a parse takes is written so, and no
name among them is spelled like a keyword. -/

namespace ScriptFront

-- Letters, digits and underscores of ASCII without a digit in front, but no keyword.
def isName (text : List Char) : Bool :=
  match text with
  | [] => false
  | c :: rest =>
      (c.isAlpha || c == '_') && rest.all isNameChar &&
        !(Spelled.spellings Keyword).contains (String.ofList text)

-- A text between two quotes of one kind, without that quote inside.
def isQuoted : List Char → Bool
  | [] => false
  | quote :: rest =>
      (quote == '"' || quote == '\x27') && rest.getLast? == some quote && !rest.dropLast.contains quote

theorem body_of_quoted (text : List Char) (quoted : isQuoted text = true) :
    ∃ quote body, (quote = '"' ∨ quote = '\x27') ∧ quote ∉ body ∧ text = quote :: (body ++ [quote]) := by
  cases text with
  | nil => contradiction
  | cons quote rest =>
      simp only [isQuoted, Bool.and_eq_true, Bool.or_eq_true, beq_iff_eq, Bool.not_eq_true',
        List.contains_eq_mem, decide_eq_false_iff_not] at quoted
      obtain ⟨⟨known, closed⟩, inside⟩ := quoted
      obtain ⟨body, rfl⟩ := List.getLast?_eq_some_iff.mp closed
      rw [List.dropLast_concat] at inside
      exact ⟨quote, body, known, inside, rfl⟩

def TokenKind.hasLexeme : TokenKind → List Char → Bool
  | .mark m, text => text == (Spelled.spelling m).toList
  | .keyword k, text => text == (Spelled.spelling k).toList
  | .number, text => !text.isEmpty && text.all Char.isDigit
  | .identifier, text => isName text
  | .string, text => isQuoted text
  | .equality, text => [['=', '='], ['!', '=']].contains text
  | .simpleAssign, text => text == ['=']
  | .complexAssign, text => [['*', '='], ['/', '='], ['+', '='], ['-', '=']].contains text
  | .additive, text => [['+'], ['-']].contains text
  | .multiplicative, text => [['*'], ['/']].contains text
  | .relational, text => [['>'], ['>', '='], ['<'], ['<', '=']].contains text
  | .logicalAnd, text => text == ['&', '&']
  | .logicalOr, text => text == ['|', '|']
  | .logicalNot, text => text == ['!']

-- The kind and the text of a token, without its place.
def Token.lexeme (t : Token) : TokenKind × String :=
  (t.kind, t.text)

def Token.wellSpelled (t : Token) : Bool :=
  t.kind.hasLexeme t.text.toList

def WellSpelled (tokens : List Token) : Prop :=
  ∀ t ∈ tokens, t.wellSpelled = true

@[simp] theorem well_spelled_nil : WellSpelled [] := by
  simp [WellSpelled]

@[simp] theorem well_spelled_cons (t : Token) (rest : List Token) :
    WellSpelled (t :: rest) ↔ t.wellSpelled = true ∧ WellSpelled rest := by
  simp [WellSpelled]

@[simp] theorem well_spelled_append (u v : List Token) :
    WellSpelled (u ++ v) ↔ WellSpelled u ∧ WellSpelled v := by
  simp only [WellSpelled, List.mem_append]
  exact ⟨fun all => ⟨fun t member => all t (.inl member), fun t member => all t (.inr member)⟩,
    fun both t member => member.elim (both.1 t) (both.2 t)⟩

-- Every kind has a text.
theorem exists_well_spelled (kind : TokenKind) : ∃ t : Token, t.kind = kind ∧ t.wellSpelled = true := by
  have spelled (text : String) (fits : kind.hasLexeme text.toList = true) :
      ∃ t : Token, t.kind = kind ∧ t.wellSpelled = true :=
    ⟨⟨kind, text, .empty⟩, rfl, fits⟩
  cases kind with
  | mark m => exact spelled (Spelled.spelling m) (by simp [TokenKind.hasLexeme])
  | keyword k => exact spelled (Spelled.spelling k) (by simp [TokenKind.hasLexeme])
  | number => exact spelled "0" (by decide)
  | identifier => exact spelled "a" (by decide)
  | string => exact spelled "''" (by decide)
  | equality => exact spelled "==" (by decide)
  | simpleAssign => exact spelled "=" (by decide)
  | complexAssign => exact spelled "+=" (by decide)
  | additive => exact spelled "+" (by decide)
  | multiplicative => exact spelled "*" (by decide)
  | relational => exact spelled "<" (by decide)
  | logicalAnd => exact spelled "&&" (by decide)
  | logicalOr => exact spelled "||" (by decide)
  | logicalNot => exact spelled "!" (by decide)

-- What a pattern takes off the front of a text.

theorem taken_exactly (spelling text : List Char) (size : Nat)
    (found : (Pattern.exactly spelling).length? text = some size) : text.take size = spelling := by
  simp only [Pattern.length?] at found
  split at found
  · rename_i front
    injection found with same
    rw [← same]
    exact (List.prefix_iff_eq_take.mp (List.isPrefixOf_iff_prefix.mp front)).symm
  · contradiction

theorem taken_word (spelling text : List Char) (size : Nat)
    (found : (Pattern.word spelling).length? text = some size) : text.take size = spelling := by
  apply taken_exactly
  simp only [Pattern.length?, Option.ite_none_right_eq_some, Bool.and_eq_true] at found ⊢
  exact ⟨found.1.1, found.2⟩

theorem taken_run (accepts : Char → Bool) (text : List Char) (size : Nat)
    (found : (Pattern.run accepts).length? text = some size) :
    text.take size = text.takeWhile accepts ∧ text.takeWhile accepts ≠ [] := by
  simp only [Pattern.length?] at found
  split at found
  · contradiction
  · rename_i some
    injection found with same
    rw [← same]
    exact ⟨(List.prefix_iff_eq_take.mp (List.takeWhile_prefix accepts)).symm,
      fun none => some (by rw [none]; rfl)⟩

theorem taken_one_of (choices text : List Char) (size : Nat)
    (found : (Pattern.oneOf choices).length? text = some size) :
    ∃ c ∈ choices, text.take size = [c] := by
  cases text with
  | nil => contradiction
  | cons c rest =>
      simp only [Pattern.length?, Option.ite_none_right_eq_some, List.contains_iff_mem] at found
      injection found.2 with same
      exact ⟨c, found.1, by rw [← same]; rfl⟩

theorem taken_then_equals (choices text : List Char) (size : Nat)
    (found : (Pattern.thenEquals choices).length? text = some size) :
    ∃ c ∈ choices, text.take size = [c, '='] := by
  unfold Pattern.length? at found
  split at found <;> simp_all
  rename_i c rest _
  exact ⟨c, found.1, by rw [← found.2]; simp⟩

theorem taken_maybe_equals (choices text : List Char) (size : Nat)
    (found : (Pattern.maybeEquals choices).length? text = some size) :
    ∃ c ∈ choices, text.take size = [c] ∨ text.take size = [c, '='] := by
  cases text with
  | nil => contradiction
  | cons c rest =>
      simp only [Pattern.length?, Option.ite_none_right_eq_some, List.contains_iff_mem] at found
      injection found.2 with same
      refine ⟨c, found.1, ?_⟩
      rw [← same]
      split
      · rename_i equals
        obtain ⟨later, rfl⟩ := List.head?_eq_some_iff.mp equals
        exact .inr rfl
      · exact .inl rfl

theorem taken_quoted (quote : Char) (text : List Char) (size : Nat)
    (found : (Pattern.quoted quote).length? text = some size) :
    ∃ body, text.take size = quote :: (body ++ [quote]) ∧ quote ∉ body := by
  cases text with
  | nil => contradiction
  | cons c rest =>
      simp only [Pattern.length?, Option.ite_none_right_eq_some, Bool.and_eq_true, decide_eq_true_eq] at found
      obtain ⟨⟨rfl, closed⟩, found⟩ := found
      injection found with same
      have apart : c ∉ rest.takeWhile (· != c) := fun member => by
        simpa using List.all_eq_true.mp List.all_takeWhile c member
      refine ⟨rest.takeWhile (· != c), ?_, apart⟩
      have parts := List.takeWhile_append_dropWhile (p := (· != c)) (l := rest)
      cases closing : rest.dropWhile (· != c) with
      | nil =>
          rw [closing, List.append_nil] at parts
          rw [parts] at closed
          omega
      | cons d later =>
          have stops := List.head?_dropWhile_not (· != c) rest
          rw [closing] at stops
          have equal : d = c := by simpa using stops
          rw [closing, equal] at parts
          rw [← same, List.take_succ_cons]
          generalize rest.takeWhile (· != c) = body at parts ⊢
          rw [← parts]
          simp [List.take_append, List.take_of_length_le]

theorem name_of_run (text : List Char) (size : Nat)
    (found : firstMatch? text = some (some .identifier, size))
    (free : ∀ keyword : Keyword, text.take size ≠ (Spelled.spelling keyword).toList) :
    isName (text.take size) = true := by
  obtain ⟨earlier, run⟩ := first_match_identifier text size found
  have positive := first_match_pos text _ size found
  have whole : text.take size = text.takeWhile isNameChar :=
    run ▸ (List.prefix_iff_eq_take.mp (List.takeWhile_prefix isNameChar)).symm
  have inside : ∀ c ∈ text.takeWhile isNameChar, isNameChar c = true :=
    List.all_eq_true.mp List.all_takeWhile
  have noDigit : (Pattern.run Char.isDigit).length? text = none :=
    earlier ⟨.run Char.isDigit, some .number⟩ (by simp [beforeNames])
  rw [whole] at free ⊢
  cases text with
  | nil => simp [run] at positive
  | cons c rest =>
      have first : isNameChar c = true := by
        rw [run, List.takeWhile_cons] at positive
        split at positive
        · assumption
        · contradiction
      rw [List.takeWhile_cons, if_pos first] at free inside ⊢
      have plain : c.isDigit = false := by
        simpa [Pattern.length?, List.takeWhile_cons] using noDigit
      have letter : (c.isAlpha || c == '_') = true := by
        simpa [isNameChar, Char.isAlphanum, plain] using first
      have others : (rest.takeWhile isNameChar).all isNameChar = true :=
        List.all_eq_true.mpr fun d member => inside d (List.mem_cons_of_mem c member)
      have noKeyword : (Spelled.spellings Keyword).contains
          (String.ofList (c :: rest.takeWhile isNameChar)) = false := by
        rw [List.contains_eq_mem, decide_eq_false_iff_not, Spelled.spellings, List.mem_map]
        rintro ⟨keyword, _, same⟩
        exact free keyword (by rw [same, String.toList_ofList])
      simp only [isName, letter, others, noKeyword, Bool.and_self, Bool.not_false]

-- The first match at the front of a text is a text of its kind.
theorem lexeme_of_first_match (text : List Char) (kind : TokenKind) (size : Nat)
    (found : firstMatch? text = some (some kind, size))
    (free : kind = .identifier → ∀ keyword : Keyword, text.take size ≠ (Spelled.spelling keyword).toList) :
    kind.hasLexeme (text.take size) = true := by
  obtain ⟨rule, member, matched⟩ := List.exists_of_findSome?_eq_some found
  obtain ⟨count, length, same⟩ := Option.map_eq_some_iff.mp matched
  obtain ⟨sort, rfl⟩ := Prod.mk.inj same
  simp only [lexicon, List.mem_append, List.mem_map, List.mem_cons, List.not_mem_nil, or_false] at member
  rcases member with ((spaces | ⟨mark, _, rfl⟩) | ⟨keyword, _, rfl⟩) | others
  · rcases spaces with rfl | rfl | rfl <;> contradiction
  · injection sort with sort
    rw [← sort, taken_exactly _ text count length]
    simp [TokenKind.hasLexeme]
  · injection sort with sort
    rw [← sort, taken_word _ text count length]
    simp [TokenKind.hasLexeme]
  · rcases others with rfl | rfl | rfl | rfl | rfl | rfl | rfl | rfl | rfl | rfl | rfl | rfl | rfl <;>
      injection sort with sort <;> subst sort
    · obtain ⟨run, some⟩ := taken_run _ text count length
      rw [run, TokenKind.hasLexeme, List.all_takeWhile, Bool.and_true]
      simpa using some
    · exact name_of_run text count found (free rfl)
    · obtain ⟨c, choice, taken⟩ := taken_then_equals _ text count length
      rw [taken]
      simp only [List.mem_cons, List.not_mem_nil, or_false] at choice
      rcases choice with rfl | rfl <;> rfl
    · obtain ⟨c, choice, taken⟩ := taken_one_of _ text count length
      rw [taken, List.mem_singleton.mp choice]
      rfl
    · obtain ⟨c, choice, taken⟩ := taken_then_equals _ text count length
      rw [taken]
      simp only [List.mem_cons, List.not_mem_nil, or_false] at choice
      rcases choice with rfl | rfl | rfl | rfl <;> rfl
    · obtain ⟨c, choice, taken⟩ := taken_one_of _ text count length
      rw [taken]
      simp only [List.mem_cons, List.not_mem_nil, or_false] at choice
      rcases choice with rfl | rfl <;> rfl
    · obtain ⟨c, choice, taken⟩ := taken_one_of _ text count length
      rw [taken]
      simp only [List.mem_cons, List.not_mem_nil, or_false] at choice
      rcases choice with rfl | rfl <;> rfl
    · obtain ⟨c, choice, taken⟩ := taken_maybe_equals _ text count length
      simp only [List.mem_cons, List.not_mem_nil, or_false] at choice
      rcases choice with rfl | rfl <;> rcases taken with taken | taken <;> rw [taken] <;> rfl
    · rw [taken_exactly _ text count length]
      rfl
    · rw [taken_exactly _ text count length]
      rfl
    · obtain ⟨c, choice, taken⟩ := taken_one_of _ text count length
      rw [taken, List.mem_singleton.mp choice]
      rfl
    · obtain ⟨body, taken, inside⟩ := taken_quoted _ text count length
      rw [taken]
      simp [TokenKind.hasLexeme, isQuoted, inside]
    · obtain ⟨body, taken, inside⟩ := taken_quoted _ text count length
      rw [taken]
      simp [TokenKind.hasLexeme, isQuoted, inside]

-- A token is well spelled if the next one is found.
theorem well_spelled_of_read (t after : Tokenizer) (token : Token) (next : Option Token) (later : Tokenizer)
    (found : t.read = .ok (some token) after) (continues : after.read = .ok next later) :
    token.wellSpelled = true := by
  obtain ⟨text, size, matched, same, _⟩ := Tokenizer.scan_token _ t after token found
  rw [Token.wellSpelled, same, String.toList_ofList]
  apply lexeme_of_first_match text token.kind size matched
  intro name keyword spelled
  have spelled' : token.text = Spelled.spelling keyword := by
    rw [same, spelled, String.ofList_toList]
  obtain ⟨fault, failed⟩ := Tokenizer.read_after_keyword_name t after token keyword found name spelled'
  rw [failed] at continues
  contradiction

theorem well_spelled_of_reads (t source : Tokenizer) (next : Option Token) (taken : List Token)
    (place : Option Token × Tokenizer) (found : t.read = .ok next source)
    (reads : Reads (next, source) taken place) : WellSpelled taken := by
  generalize start : (next, source) = begun at reads
  induction reads generalizing t next source with
  | nothing place => exact well_spelled_nil
  | token token behind after next' rest place continues _ ih =>
      obtain ⟨rfl, rfl⟩ := Prod.mk.inj start
      intro other member
      rcases List.mem_cons.mp member with rfl | member
      · exact well_spelled_of_read t source other next' after found continues
      · exact ih source after next' continues rfl other member

-- All tokens of a source without a lexical error are well spelled.
theorem well_spelled_of_tokenize (source : String) (tokens : List Token) (found : tokenize source = .ok tokens) :
    WellSpelled tokens := by
  obtain ⟨next, after, read, last, reads⟩ := offers_of_tokens_from _ _ tokens (Nat.lt_succ_self _) found
  exact well_spelled_of_reads _ after next tokens (none, last) read reads

end ScriptFront
