import Mathlib.Data.List.TakeWhile
import ScriptFront.Proofs.Lexemes

set_option autoImplicit false

/-! A text of a kind is what the lexicon matches at the front, if the characters behind it do not
continue it. -/

namespace ScriptFront

-- Nothing follows, white space does, or a slash does and the text is none itself.
def separates (text : List Char) : List Char → Bool
  | [] => true
  | c :: _ => Text.isBlank c || (c == '/' && text != ['/'])

-- The characters of ASCII can be gone through one by one.
theorem of_narrow (holds : Char → Bool) (each : ((List.range 0x80).all fun n => holds (Char.ofNat n)) = true)
    (c : Char) (narrow : c.toNat < 0x80) : holds c = true := by
  have one := List.all_eq_true.mp each c.toNat (List.mem_range.mpr narrow)
  rwa [Char.ofNat_toNat] at one

theorem word_of_name_char (c : Char) (name : isNameChar c = true) : Text.isWord c = true := by
  rw [Text.isWord, if_pos (name_char_narrow c name)]
  exact name

theorem name_char_of_digit (c : Char) (digit : c.isDigit = true) : isNameChar c = true := by
  simp [isNameChar, Char.isAlphanum, digit]

theorem name_first_char (c : Char) (first : (c.isAlpha || c == '_') = true) :
    isNameChar c = true ∧ c.isDigit = false := by
  have name : isNameChar c = true := by
    rcases Bool.or_eq_true_iff.mp first with letter | underscore
    · simp [isNameChar, Char.isAlphanum, letter]
    · simp [isNameChar, underscore]
  have narrow := name_char_narrow c name
  have apart := of_narrow (fun c => !(c.isAlpha || c == '_') || !c.isDigit) (by decide +kernel) c narrow
  exact ⟨name, by simpa [first] using apart⟩

theorem blank_not_word (c : Char) (blank : Text.isBlank c = true) : Text.isWord c = false := by
  by_cases narrow : c.toNat < 0x80
  · have apart := of_narrow (fun c => !Text.isBlank c || !Text.isWord c) (by decide +kernel) c narrow
    simpa [blank] using apart
  · exact not_word_of_blank c blank (by omega)

theorem separator_not_word (text rest : List Char) (apart : separates text rest = true) :
    startsWithWord rest = false := by
  cases rest with
  | nil => rfl
  | cons c rest =>
      simp only [separates, Bool.or_eq_true, Bool.and_eq_true, beq_iff_eq] at apart
      rcases apart with blank | ⟨rfl, _⟩
      · exact blank_not_word c blank
      · exact show Text.isWord '/' = false by decide

theorem separator_not_equals (text rest : List Char) (apart : separates text rest = true) :
    rest.head? ≠ some '=' := by
  cases rest with
  | nil => simp
  | cons c rest =>
      rw [List.head?_cons, Ne, Option.some.injEq]
      rintro rfl
      simp only [separates, Bool.or_eq_true, Bool.and_eq_true] at apart
      rcases apart with blank | ⟨slash, _⟩ <;> contradiction

theorem take_run (accepts : Char → Bool) (text rest : List Char) (inside : text.all accepts = true)
    (stops : ∀ c, rest.head? = some c → accepts c = false) :
    (text ++ rest).takeWhile accepts = text := by
  rw [List.takeWhile_append_of_pos (List.all_eq_true.mp inside)]
  cases rest with
  | nil => simp
  | cons c rest => simp [stops c rfl]

theorem others_of_missing (c : Char) (text : List Char) (missing : c ∉ text) : text.all (· != c) = true := by
  refine List.all_eq_true.mpr fun d member => bne_iff_ne.mpr ?_
  rintro rfl
  exact missing member

-- A text up to a character that is not in it.
theorem take_until (c : Char) (text rest : List Char) (missing : c ∉ text) :
    (text ++ c :: rest).takeWhile (· != c) = text :=
  take_run (· != c) text (c :: rest) (others_of_missing c text missing) (by simp)

theorem length_of_run (accepts : Char → Bool) (text rest : List Char) (some : text ≠ [])
    (inside : text.all accepts = true) (stops : ∀ c, rest.head? = Option.some c → accepts c = false) :
    (Pattern.run accepts).length? (text ++ rest) = Option.some text.length := by
  have positive : text.length ≠ 0 := by simpa using some
  simp only [Pattern.length?, take_run accepts text rest inside stops, if_neg positive]

-- A spelling of name characters is matched as a word only where it is the whole name.
theorem length_of_other_word (spelling text rest : List Char) (spelled : spelling.all isNameChar = true)
    (inside : text.all isNameChar = true) (stops : startsWithWord rest = false) (other : spelling ≠ text) :
    (Pattern.word spelling).length? (text ++ rest) = none := by
  simp only [Pattern.length?]
  rw [if_neg]
  rw [Bool.and_eq_true, Bool.not_eq_true', List.isPrefixOf_iff_prefix]
  rintro ⟨front, ends⟩
  rcases List.prefix_or_prefix_of_prefix front (List.prefix_append text rest) with shorter | longer
  · obtain ⟨more, rfl⟩ := shorter
    cases more with
    | nil => simp at other
    | cons c more =>
        have name := List.all_eq_true.mp inside c (by simp)
        rw [List.append_assoc, List.drop_left, List.cons_append, startsWithWord, word_of_name_char c name] at ends
        contradiction
  · obtain ⟨more, rfl⟩ := longer
    cases more with
    | nil => simp at other
    | cons c more =>
        have name := List.all_eq_true.mp spelled c (by simp)
        have within := (List.prefix_append_right_inj text).mp front
        obtain ⟨later, rfl⟩ := within
        rw [List.cons_append, startsWithWord, word_of_name_char c name] at stops
        contradiction

theorem keyword_all_name (keyword : Keyword) : (Spelled.spelling keyword).toList.all isNameChar = true := by
  cases keyword <;> decide

-- White space, comments and marks do not begin with a name character.
def beforeWords : List Rule :=
  [⟨.run Text.isBlank, none⟩, ⟨.lineComment, none⟩, ⟨.blockComment, none⟩] ++ Spelled.all.map markRule

theorem before_words_none (c : Char) (rest : List Char) (name : isNameChar c = true) (rule : Rule)
    (member : rule ∈ beforeWords) : rule.pattern.length? (c :: rest) = none := by
  apply length_none_of_not_starts
  simp only [beforeWords, List.mem_append, List.mem_map, List.mem_cons, List.not_mem_nil, or_false] at member
  rcases member with (rfl | rfl | rfl) | ⟨mark, _, rfl⟩
  · apply Bool.eq_false_iff.mpr
    intro blank
    have apart := blank_not_word c blank
    rw [word_of_name_char c name] at apart
    contradiction
  · apply Bool.eq_false_iff.mpr
    intro slash
    rw [beq_iff_eq.mp slash] at name
    contradiction
  · apply Bool.eq_false_iff.mpr
    intro slash
    rw [beq_iff_eq.mp slash] at name
    contradiction
  · apply Bool.eq_false_iff.mpr
    intro starts
    cases mark <;> simp_all [markRule, Pattern.starts, Spelled.spelling] <;> subst starts <;> contradiction

-- The first rule that matches is the one before which none does.
theorem first_match_of_split (earlier later : List Rule) (rule : Rule) (text : List Char) (size : Nat)
    (table : lexicon = earlier ++ rule :: later)
    (missed : ∀ other ∈ earlier, other.pattern.length? text = none)
    (hit : rule.pattern.length? text = some size) : firstMatch? text = some (rule.kind, size) := by
  have none : earlier.findSome? (fun rule => (rule.pattern.length? text).map fun n => (rule.kind, n)) = none :=
    List.findSome?_eq_none_iff.mpr fun other member => by rw [missed other member]; rfl
  rw [firstMatch?, table, List.findSome?_append, none, Option.none_or, List.findSome?_cons, hit]
  rfl

theorem first_match_keyword (keyword : Keyword) (rest : List Char) (stops : startsWithWord rest = false) :
    firstMatch? ((Spelled.spelling keyword).toList ++ rest) =
      some (some (.keyword keyword), (Spelled.spelling keyword).toList.length) := by
  obtain ⟨before, after, members⟩ := List.append_of_mem (Spelled.complete keyword)
  have table : ∃ later, lexicon = (beforeWords ++ before.map keywordRule) ++ keywordRule keyword :: later := by
    have whole : ∃ later, lexicon = beforeWords ++ (Spelled.all.map keywordRule ++ later) := ⟨_, rfl⟩
    obtain ⟨later, whole⟩ := whole
    rw [members] at whole
    exact ⟨after.map keywordRule ++ later, by simp [whole]⟩
  obtain ⟨later, table⟩ := table
  have distinct : keyword ∉ before := by
    have unique : (Spelled.all : List Keyword).Nodup := by decide
    rw [members] at unique
    exact fun member => (List.nodup_append.mp unique).2.2 keyword member keyword (by simp) rfl
  refine first_match_of_split _ later (keywordRule keyword) _ _ table ?_ ?_
  · intro other member
    rcases List.mem_append.mp member with member | member
    · obtain ⟨c, tail, text⟩ := List.exists_cons_of_ne_nil
        (show (Spelled.spelling keyword).toList ≠ [] by cases keyword <;> decide)
      have name := List.all_eq_true.mp (keyword_all_name keyword) c (by simp [text])
      rw [text, List.cons_append]
      exact before_words_none c _ name other member
    · obtain ⟨another, isBefore, rfl⟩ := List.mem_map.mp member
      apply length_of_other_word _ _ _ (keyword_all_name another) (keyword_all_name keyword) stops
      intro same
      have equal := Spelled.spelling_injective another keyword (String.toList_inj.mp same)
      exact distinct (equal ▸ isBefore)
  · have front : (Spelled.spelling keyword).toList.isPrefixOf ((Spelled.spelling keyword).toList ++ rest) = true :=
      List.isPrefixOf_iff_prefix.mpr (List.prefix_append _ _)
    simp only [keywordRule, Pattern.length?, front, List.drop_left, stops]
    rfl

-- No rule for white space, comments, marks or keywords matches at a name.
theorem before_numbers_none (text rest : List Char) (some : text ≠ []) (inside : text.all isNameChar = true)
    (stops : startsWithWord rest = false) (free : ∀ keyword : Keyword, (Spelled.spelling keyword).toList ≠ text)
    (rule : Rule) (member : rule ∈ beforeWords ++ Spelled.all.map keywordRule) :
    rule.pattern.length? (text ++ rest) = none := by
  rcases List.mem_append.mp member with member | member
  · obtain ⟨c, tail, rfl⟩ := List.exists_cons_of_ne_nil some
    exact before_words_none c _ (List.all_eq_true.mp inside c (by simp)) rule member
  · obtain ⟨keyword, _, rfl⟩ := List.mem_map.mp member
    exact length_of_other_word _ _ _ (keyword_all_name keyword) inside stops (free keyword)

theorem first_match_number (text rest : List Char) (some : text ≠ []) (digits : text.all Char.isDigit = true)
    (stops : startsWithWord rest = false) :
    firstMatch? (text ++ rest) = Option.some (Option.some .number, text.length) := by
  have table : ∃ later, lexicon =
      (beforeWords ++ Spelled.all.map keywordRule) ++ ⟨.run Char.isDigit, Option.some .number⟩ :: later := ⟨_, rfl⟩
  obtain ⟨later, table⟩ := table
  have inside : text.all isNameChar = true :=
    List.all_eq_true.mpr fun c member => name_char_of_digit c (List.all_eq_true.mp digits c member)
  have free : ∀ keyword : Keyword, (Spelled.spelling keyword).toList ≠ text := by
    rintro keyword rfl
    cases keyword <;> contradiction
  have ends : ∀ c, rest.head? = Option.some c → c.isDigit = false := by
    intro c head
    obtain ⟨later, rfl⟩ := List.head?_eq_some_iff.mp head
    apply Bool.eq_false_iff.mpr
    intro digit
    rw [startsWithWord, word_of_name_char c (name_char_of_digit c digit)] at stops
    contradiction
  exact first_match_of_split _ later _ _ _ table (before_numbers_none text rest some inside stops free)
    (length_of_run _ text rest some digits ends)

theorem first_match_name (text rest : List Char) (name : isName text = true)
    (stops : startsWithWord rest = false) :
    firstMatch? (text ++ rest) = some (some .identifier, text.length) := by
  have table : ∃ later, lexicon = (beforeWords ++ Spelled.all.map keywordRule ++
      [⟨.run Char.isDigit, some .number⟩]) ++ ⟨.run isNameChar, some .identifier⟩ :: later := ⟨_, rfl⟩
  obtain ⟨later, table⟩ := table
  cases text with
  | nil => contradiction
  | cons c tail =>
      simp only [isName, Bool.and_eq_true, Bool.not_eq_true', List.contains_eq_mem, decide_eq_false_iff_not,
        Spelled.spellings, List.mem_map, not_exists, not_and] at name
      obtain ⟨⟨first, others⟩, noKeyword⟩ := name
      obtain ⟨firstName, plain⟩ := name_first_char c first
      have inside : (c :: tail).all isNameChar = true := by
        rw [List.all_cons, firstName, others]
        rfl
      have free : ∀ keyword : Keyword, (Spelled.spelling keyword).toList ≠ c :: tail := by
        intro keyword same
        exact noKeyword keyword (Spelled.complete keyword) (by rw [← same, String.ofList_toList])
      have ends : ∀ d, rest.head? = some d → isNameChar d = false := by
        intro d head
        obtain ⟨later, rfl⟩ := List.head?_eq_some_iff.mp head
        apply Bool.eq_false_iff.mpr
        intro nameChar
        rw [startsWithWord, word_of_name_char d nameChar] at stops
        contradiction
      refine first_match_of_split _ later _ _ _ table ?_ (length_of_run _ (c :: tail) rest (by simp) inside ends)
      intro other member
      rcases List.mem_append.mp member with member | member
      · exact before_numbers_none (c :: tail) rest (by simp) inside stops free other member
      · rw [List.mem_singleton.mp member]
        exact length_none_of_not_starts _ c _ plain

-- The rules that can match at a character.
def contenders (c : Char) : List Rule :=
  lexicon.filter (·.pattern.starts c)

-- At a slash a comment can begin, or one of two operators.
theorem contenders_slash : contenders '/' = [⟨.lineComment, none⟩, ⟨.blockComment, none⟩,
    ⟨.thenEquals ['*', '/', '+', '-'], some .complexAssign⟩, ⟨.oneOf ['*', '/'], some .multiplicative⟩] :=
  rfl

-- At a quote only a string can begin.
theorem contenders_quote (quote : Char) (known : quote = '"' ∨ quote = '\x27') :
    contenders quote = [⟨.quoted quote, some .string⟩] := by
  rcases known with rfl | rfl <;> rfl

theorem first_match_contenders (c : Char) (rest : List Char) :
    firstMatch? (c :: rest) =
      (contenders c).findSome? fun rule => (rule.pattern.length? (c :: rest)).map fun n => (rule.kind, n) := by
  unfold firstMatch? contenders
  induction lexicon with
  | nil => rfl
  | cons rule rules ih =>
      rw [List.filter_cons, List.findSome?_cons]
      by_cases starts : rule.pattern.starts c = true
      · rw [if_pos starts, List.findSome?_cons, ih]
      · have other := length_none_of_not_starts rule.pattern c rest (Bool.eq_false_iff.mpr starts)
        rw [if_neg starts, other, ih]
        rfl

theorem length_of_no_equals (choices rest : List Char) (c : Char) (stops : rest.head? ≠ some '=') :
    (Pattern.thenEquals choices).length? (c :: rest) = none := by
  cases rest with
  | nil => rfl
  | cons d rest =>
      have other : d ≠ '=' := by simpa using stops
      unfold Pattern.length?
      split <;> simp_all

theorem first_match_quoted (text rest : List Char) (quoted : isQuoted text = true) :
    firstMatch? (text ++ rest) = some (some .string, text.length) := by
  obtain ⟨quote, body, known, inside, rfl⟩ := body_of_quoted text quoted
  have length : (Pattern.quoted quote).length? (quote :: (body ++ quote :: rest)) = some (body.length + 2) := by
    simp [Pattern.length?, take_until quote body rest inside]
  have whole : quote :: (body ++ [quote]) ++ rest = quote :: (body ++ quote :: rest) := by simp
  rw [whole, first_match_contenders, contenders_quote quote known, List.findSome?_cons, length]
  simp

-- A string needs its second quote.
theorem first_match_quote (quote : Char) (rest : List Char) (known : quote = '"' ∨ quote = '\x27') :
    firstMatch? (quote :: rest) = none ↔ quote ∉ rest := by
  have shorter := (List.takeWhile_prefix (· != quote) (l := rest)).length_le
  have whole : (rest.takeWhile (· != quote)).length = rest.length ↔ quote ∉ rest := by
    constructor
    · intro same inside
      have all := List.takeWhile_eq_self_iff.mp ((List.takeWhile_prefix _).eq_of_length same) quote inside
      simp at all
    · intro outside
      rw [List.takeWhile_eq_self_iff.mpr (List.all_eq_true.mp (others_of_missing quote rest outside))]
  have closes : (rest.takeWhile (· != quote)).length < rest.length ↔ quote ∈ rest := by
    rw [← not_iff_not, ← whole]
    omega
  rw [first_match_contenders, contenders_quote quote known]
  simp [Pattern.length?, closes]

-- An operator of one character, where no `=` makes another one of it.
theorem first_match_one_of (c : Char) (rest choices choices' : List Char) (other : Option TokenKind)
    (kind : TokenKind) (only : contenders c = [⟨.thenEquals choices, other⟩, ⟨.oneOf choices', some kind⟩])
    (known : choices'.contains c = true) (stops : rest.head? ≠ some '=') :
    firstMatch? ([c] ++ rest) = some (some kind, 1) := by
  rw [List.singleton_append, first_match_contenders, only, List.findSome?_cons,
    length_of_no_equals choices rest c stops]
  simpa [Pattern.length?] using known

-- Behind a slash only white space separates, so no comment begins there.
theorem no_comment_at_slash (rest : List Char) (apart : separates ['/'] rest = true) :
    Pattern.lineComment.length? ('/' :: rest) = none ∧ Pattern.blockComment.length? ('/' :: rest) = none := by
  cases rest with
  | nil => exact ⟨rfl, rfl⟩
  | cons c rest =>
      have blank : Text.isBlank c = true := by simpa [separates] using apart
      have noSlash : c ≠ '/' := by rintro rfl; contradiction
      have noStar : c ≠ '*' := by rintro rfl; contradiction
      constructor
      · unfold Pattern.length?
        split <;> simp_all
      · unfold Pattern.length?
        split <;> simp_all

-- A text of a kind is matched whole, and as one of this kind.
theorem first_match_lexeme (kind : TokenKind) (text rest : List Char) (spelled : kind.hasLexeme text = true)
    (apart : separates text rest = true) : firstMatch? (text ++ rest) = some (some kind, text.length) := by
  have stops := separator_not_word text rest apart
  have noEquals := separator_not_equals text rest apart
  cases kind with
  | mark m =>
      rw [beq_iff_eq.mp spelled]
      cases m <;> rfl
  | keyword k =>
      rw [beq_iff_eq.mp spelled]
      exact first_match_keyword k rest stops
  | number =>
      simp only [TokenKind.hasLexeme, Bool.and_eq_true, Bool.not_eq_true', List.isEmpty_eq_false_iff] at spelled
      exact first_match_number text rest spelled.1 spelled.2 stops
  | identifier => exact first_match_name text rest spelled stops
  | string => exact first_match_quoted text rest spelled
  | equality =>
      simp only [TokenKind.hasLexeme, List.contains_eq_mem, List.mem_cons, List.not_mem_nil, or_false,
        decide_eq_true_eq] at spelled
      rcases spelled with rfl | rfl <;> rfl
  | simpleAssign =>
      rw [beq_iff_eq.mp spelled]
      exact first_match_one_of '=' rest _ _ _ _ rfl rfl noEquals
  | complexAssign =>
      simp only [TokenKind.hasLexeme, List.contains_eq_mem, List.mem_cons, List.not_mem_nil, or_false,
        decide_eq_true_eq] at spelled
      rcases spelled with rfl | rfl | rfl | rfl <;> rfl
  | additive =>
      simp only [TokenKind.hasLexeme, List.contains_eq_mem, List.mem_cons, List.not_mem_nil, or_false,
        decide_eq_true_eq] at spelled
      rcases spelled with rfl | rfl
      · exact first_match_one_of '+' rest _ _ _ _ rfl rfl noEquals
      · exact first_match_one_of '-' rest _ _ _ _ rfl rfl noEquals
  | multiplicative =>
      simp only [TokenKind.hasLexeme, List.contains_eq_mem, List.mem_cons, List.not_mem_nil, or_false,
        decide_eq_true_eq] at spelled
      rcases spelled with rfl | rfl
      · exact first_match_one_of '*' rest _ _ _ _ rfl rfl noEquals
      · have noComment := no_comment_at_slash rest apart
        rw [List.singleton_append, first_match_contenders, contenders_slash, List.findSome?_cons, noComment.1,
          Option.map_none, List.findSome?_cons, noComment.2, Option.map_none, List.findSome?_cons,
          length_of_no_equals _ rest '/' noEquals]
        rfl
  | relational =>
      simp only [TokenKind.hasLexeme, List.contains_eq_mem, List.mem_cons, List.not_mem_nil, or_false,
        decide_eq_true_eq] at spelled
      have only (c : Char) (known : c = '>' ∨ c = '<') :
          contenders c = [⟨.maybeEquals ['>', '<'], some .relational⟩] := by
        rcases known with rfl | rfl <;> rfl
      rcases spelled with rfl | rfl | rfl | rfl
      all_goals
        rw [List.cons_append, first_match_contenders, only _ (by decide)]
        simp [Pattern.length?, noEquals]
  | logicalAnd =>
      rw [beq_iff_eq.mp spelled]
      rfl
  | logicalOr =>
      rw [beq_iff_eq.mp spelled]
      rfl
  | logicalNot =>
      rw [beq_iff_eq.mp spelled]
      exact first_match_one_of '!' rest _ _ _ _ rfl rfl noEquals

end ScriptFront
