import ScriptFront.Proofs.TokenTexts

set_option autoImplicit false

/-! The first match against the longest one. No rule of the lexicon stands before one that takes more of
the same text, but for numbers: digits in front of a letter are a number and a name, and not one name. -/

namespace ScriptFront

-- A run of digits, and a letter or an underscore right behind it.
def DigitsThenLetter (text : List Char) : Prop :=
  ∃ digits c rest, text = digits ++ c :: rest ∧ digits ≠ [] ∧ digits.all Char.isDigit = true ∧
    (c.isAlpha || c == '_') = true

-- Keeps what was found before, unless a rule takes more.
def pickLonger (text : List Char) (best : Option (Option TokenKind × Nat)) (rule : Rule) :
    Option (Option TokenKind × Nat) :=
  match rule.pattern.length? text with
  | none => best
  | some size => if best.all (·.2 < size) then some (rule.kind, size) else best

-- What the rule takes that takes the most, or the first of these rules.
def longestMatch? (text : List Char) : Option (Option TokenKind × Nat) :=
  lexicon.foldl (pickLonger text) none

-- The tokens that are left, where a function says what stands at the front of a text.
def Tokenizer.cut (choose : List Char → Option (Option TokenKind × Nat)) :
    Nat → Tokenizer → Except LexicalError (List Token)
  | 0, _ => .ok []
  | rounds + 1, t =>
      match t.rest with
      | [] => .ok []
      | c :: _ =>
          match choose t.rest with
          | none => .error ⟨c, t.cursor⟩
          | some (none, size) => cut choose rounds (t.advance size)
          | some (some kind, size) =>
              let after := t.advance size
              (cut choose rounds after).map
                (⟨kind, String.ofList (t.rest.take size), ⟨t.cursor, after.cursor⟩⟩ :: ·)

-- The tokens of a source where the longest match decides.
def tokenizeLongest (source : String) : Except LexicalError (List Token) :=
  let t := Tokenizer.ofSource source
  t.cut longestMatch? (t.bytesLeft + 1)

-- A rule takes as much of a text as a later one, unless they are those of numbers and names.
def Outlasts (text : List Char) (earlier later : Rule) : Prop :=
  ∀ n m, earlier.pattern.length? text = some n → later.pattern.length? text = some m →
    m ≤ n ∨ (earlier.kind = some .number ∧ later.kind = some .identifier ∧ DigitsThenLetter text)

-- What the rules of words take.

theorem length_of_run_eq (accepts : Char → Bool) (text : List Char) (size : Nat)
    (found : (Pattern.run accepts).length? text = some size) : size = (text.takeWhile accepts).length := by
  simp only [Pattern.length?] at found
  split at found
  · contradiction
  · injection found with same
    exact same.symm

theorem keyword_takes_run (keyword : Keyword) (text : List Char) (size : Nat)
    (found : (keywordRule keyword).pattern.length? text = some size) :
    size = (text.takeWhile isNameChar).length := by
  simp only [keywordRule, Pattern.length?, Option.ite_none_right_eq_some, Bool.and_eq_true,
    Bool.not_eq_true'] at found
  obtain ⟨⟨front, ends⟩, found⟩ := found
  obtain ⟨rest, rfl⟩ := List.isPrefixOf_iff_prefix.mp front
  rw [List.drop_left] at ends
  have stops : ∀ c, rest.head? = some c → isNameChar c = false := by
    intro c head
    obtain ⟨later, rfl⟩ := List.head?_eq_some_iff.mp head
    by_cases name : isNameChar c = true
    · rw [startsWithWord, word_of_name_char c name] at ends
      contradiction
    · exact Bool.eq_false_iff.mpr name
  rw [take_run isNameChar _ rest (keyword_all_name keyword) stops]
  injection found with same
  exact same.symm

theorem digits_within_names (text : List Char) :
    (text.takeWhile Char.isDigit).length ≤ (text.takeWhile isNameChar).length := by
  induction text with
  | nil => exact Nat.le_refl _
  | cons c rest ih =>
      by_cases digit : c.isDigit = true
      · rw [List.takeWhile_cons_of_pos digit, List.takeWhile_cons_of_pos (name_char_of_digit c digit)]
        exact Nat.succ_le_succ ih
      · rw [List.takeWhile_cons_of_neg digit]
        exact Nat.zero_le _

-- Where digits do not end a run of name characters, a letter or an underscore follows them.
theorem digits_then_letter_of_shorter (text : List Char) (some : text.takeWhile Char.isDigit ≠ [])
    (shorter : (text.takeWhile Char.isDigit).length < (text.takeWhile isNameChar).length) :
    DigitsThenLetter text := by
  have parts := List.takeWhile_append_dropWhile (p := Char.isDigit) (l := text)
  have names : (text.takeWhile Char.isDigit).all isNameChar = true :=
    List.all_eq_true.mpr fun c member => name_char_of_digit c (List.all_eq_true.mp List.all_takeWhile c member)
  cases behind : text.dropWhile Char.isDigit with
  | nil =>
      rw [behind, List.append_nil] at parts
      have fits := (List.takeWhile_prefix isNameChar (l := text)).length_le
      rw [parts] at shorter
      omega
  | cons c rest =>
      rw [behind] at parts
      have stops := List.head?_dropWhile_not Char.isDigit text
      rw [behind] at stops
      have plain : c.isDigit = false := by simpa using stops
      by_cases name : isNameChar c = true
      · have letter : (c.isAlpha || c == '_') = true := by
          simpa [isNameChar, Char.isAlphanum, plain] using name
        exact ⟨_, c, rest, parts.symm, some, List.all_takeWhile, letter⟩
      · have same := take_run isNameChar _ (c :: rest) names fun d head => by
          rw [List.head?_cons, Option.some.injEq] at head
          exact head ▸ Bool.eq_false_iff.mpr name
        rw [parts] at same
        rw [same] at shorter
        exact absurd shorter (Nat.lt_irrefl _)

-- The rules of keywords, numbers and names, in their order.
def wordRules : List Rule :=
  Spelled.all.map keywordRule ++ [⟨.run Char.isDigit, some .number⟩, ⟨.run isNameChar, some .identifier⟩]

theorem word_rules_outlast (text : List Char) : wordRules.Pairwise (Outlasts text) := by
  have keyword (word : Keyword) (later : Rule)
      (within : ∀ m, later.pattern.length? text = some m → m ≤ (text.takeWhile isNameChar).length) :
      Outlasts text (keywordRule word) later := by
    intro n m found found'
    have whole := keyword_takes_run word text n found
    exact .inl (whole ▸ within m found')
  have number : Outlasts text ⟨.run Char.isDigit, some .number⟩ ⟨.run isNameChar, some .identifier⟩ := by
    intro n m found found'
    have some := (taken_run Char.isDigit text n found).2
    have digits := length_of_run_eq Char.isDigit text n found
    have names := length_of_run_eq isNameChar text m found'
    by_cases shorter : n < m
    · exact .inr ⟨rfl, rfl, digits_then_letter_of_shorter text some (digits ▸ names ▸ shorter)⟩
    · exact .inl (Nat.le_of_not_lt shorter)
  refine List.pairwise_append.mpr ⟨?_, ?_, ?_⟩
  · exact List.pairwise_map.mpr (List.pairwise_of_forall fun word other =>
      keyword word _ fun m found => Nat.le_of_eq (keyword_takes_run other text m found))
  · exact List.pairwise_pair.mpr number
  · intro earlier member later member'
    obtain ⟨word, _, rfl⟩ := List.mem_map.mp member
    simp only [List.mem_cons, List.not_mem_nil, or_false] at member'
    rcases member' with rfl | rfl
    · exact keyword word _ fun m found => length_of_run_eq Char.isDigit text m found ▸ digits_within_names text
    · exact keyword word _ fun m found => Nat.le_of_eq (length_of_run_eq isNameChar text m found)

-- What the rules take that start with another character.

def Pattern.isOneOf : Pattern → Bool
  | .oneOf _ => true
  | _ => false

theorem outlasts_one_of (text : List Char) (earlier later : Rule) (member : earlier ∈ lexicon)
    (single : later.pattern.isOneOf = true) : Outlasts text earlier later := by
  intro n m found found'
  have some := pattern_length_pos _ text n (List.all_eq_true.mp lexicon_takes_some earlier member) found
  obtain ⟨pattern, kind⟩ := later
  cases pattern with
  | oneOf choices =>
      cases text with
      | nil => contradiction
      | cons c rest =>
          simp only [Pattern.length?, Option.ite_none_right_eq_some] at found'
          injection found'.2 with same
          exact .inl (same ▸ some)
  | _ => contradiction

theorem contenders_mem (c : Char) (rule : Rule) (member : rule ∈ contenders c) : rule ∈ lexicon :=
  (List.mem_filter.mp member).1

theorem contenders_of_name_char (c : Char) (name : isNameChar c = true) :
    contenders c = wordRules.filter (·.pattern.starts c) := by
  have table : ∃ signs, lexicon = beforeWords ++ wordRules ++ signs ∧
      signs = lexicon.drop (beforeWords ++ wordRules).length := ⟨_, rfl, rfl⟩
  obtain ⟨signs, table, later⟩ := table
  have before : beforeWords.filter (·.pattern.starts c) = [] := by
    have apart := of_narrow (fun c => !isNameChar c || beforeWords.all (!·.pattern.starts c)) (by decide +kernel) c
      (name_char_narrow c name)
    simpa [name] using apart
  have behind : signs.filter (·.pattern.starts c) = [] := by
    have apart := of_narrow
      (fun c => !isNameChar c || (lexicon.drop (beforeWords ++ wordRules).length).all (!·.pattern.starts c))
      (by decide +kernel) c (name_char_narrow c name)
    rw [later]
    simpa [name] using apart
  rw [contenders, table, List.filter_append, List.filter_append, before, behind, List.nil_append, List.append_nil]

-- Where more than one rule can match, all but the first take one character, except in words and at a slash.
theorem contenders_tail (c : Char) (other : isNameChar c = false) (noSlash : c ≠ '/') :
    (contenders c).tail.all (·.pattern.isOneOf) = true := by
  by_cases narrow : c.toNat < 0x80
  · have known := of_narrow
      (fun c => isNameChar c || c == '/' || (contenders c).tail.all (·.pattern.isOneOf)) (by decide +kernel) c narrow
    simpa [other, noSlash] using known
  · have table : lexicon = ⟨.run Text.isBlank, none⟩ :: lexicon.tail := rfl
    have later : lexicon.tail.filter (·.pattern.starts c) = [] :=
      List.filter_eq_nil_iff.mpr fun rule member starts => narrow (later_rule_narrow rule member c starts)
    have few : (contenders c).tail = [] := by
      rw [contenders, table, List.filter_cons, later]
      split <;> rfl
    rw [few]
    rfl

-- The character that has to come second, for the patterns that fix it.
def Pattern.second? : Pattern → Option Char
  | .lineComment => some '/'
  | .blockComment => some '*'
  | .thenEquals _ => some '='
  | _ => none

theorem second_of_length (pattern : Pattern) (c d : Char) (rest : List Char) (size : Nat)
    (second : pattern.second? = some d) (found : pattern.length? (c :: rest) = some size) : rest.head? = some d := by
  unfold Pattern.length? at found
  split at found <;> simp_all [Pattern.second?] <;> exact second

theorem outlasts_apart (c d e : Char) (rest : List Char) (earlier later : Rule)
    (first : earlier.pattern.second? = some d) (second : later.pattern.second? = some e) (different : d ≠ e) :
    Outlasts (c :: rest) earlier later := by
  intro n m found found'
  have head := second_of_length _ c d rest n first found
  have head' := second_of_length _ c e rest m second found'
  exact absurd (Option.some.inj (head.symm.trans head')) different

-- A comment goes on otherwise than an operator, and the one sort of comments otherwise than the other.
theorem slash_rules_outlast (rest : List Char) : (contenders '/').Pairwise (Outlasts ('/' :: rest)) := by
  have last (rule : Rule) (member : rule ∈ contenders '/') :
      Outlasts ('/' :: rest) rule ⟨.oneOf ['*', '/'], some .multiplicative⟩ :=
    outlasts_one_of _ rule _ (contenders_mem '/' rule member) rfl
  rw [contenders_slash] at last ⊢
  simp only [List.forall_mem_cons] at last
  obtain ⟨line, block, equals, _⟩ := last
  simp only [List.pairwise_cons, List.forall_mem_cons]
  have apart (d e : Char) (earlier later : Rule) (first : earlier.pattern.second? = some d)
      (second : later.pattern.second? = some e) (different : d ≠ e) : Outlasts ('/' :: rest) earlier later :=
    outlasts_apart '/' d e rest earlier later first second different
  have comments := apart '/' '*' ⟨.lineComment, none⟩ ⟨.blockComment, none⟩ rfl rfl (by decide)
  have lineEquals := apart '/' '=' ⟨.lineComment, none⟩ ⟨.thenEquals ['*', '/', '+', '-'], some .complexAssign⟩
    rfl rfl (by decide)
  have blockEquals := apart '*' '=' ⟨.blockComment, none⟩ ⟨.thenEquals ['*', '/', '+', '-'], some .complexAssign⟩
    rfl rfl (by decide)
  have none (earlier : Rule) := List.forall_mem_nil (Outlasts ('/' :: rest) earlier)
  exact ⟨⟨comments, lineEquals, line, none _⟩, ⟨blockEquals, block, none _⟩, ⟨equals, none _⟩, none _, .nil⟩

theorem contenders_outlast (c : Char) (rest : List Char) : (contenders c).Pairwise (Outlasts (c :: rest)) := by
  by_cases name : isNameChar c = true
  · rw [contenders_of_name_char c name]
    exact (word_rules_outlast _).filter _
  · by_cases slash : c = '/'
    · exact slash ▸ slash_rules_outlast rest
    · have single := contenders_tail c (Bool.eq_false_iff.mpr name) slash
      have member := contenders_mem c
      cases found : contenders c with
      | nil => exact .nil
      | cons rule others =>
          rw [found] at single member
          have each (earlier : Rule) (inside : earlier ∈ rule :: others) (later : Rule) (behind : later ∈ others) :
              Outlasts (c :: rest) earlier later :=
            outlasts_one_of _ earlier later (member earlier inside) (List.all_eq_true.mp single later behind)
          refine .cons (each rule (.head _)) (List.Pairwise.imp_of_mem ?_ (List.pairwise_of_forall fun _ _ => trivial))
          intro earlier later inside behind _
          exact each earlier (.tail _ inside) later behind

-- The first rule that matches takes as much as any other one, but for the digits in front of a letter.
theorem first_match_outlasts (text : List Char) (kind : Option TokenKind) (size : Nat)
    (found : firstMatch? text = some (kind, size)) (rule : Rule) (member : rule ∈ lexicon) (n : Nat)
    (other : rule.pattern.length? text = some n) :
    n ≤ size ∨ (kind = some .number ∧ rule.kind = some .identifier ∧ DigitsThenLetter text) := by
  cases text with
  | nil =>
      have some := first_match_pos [] kind size found
      have fits := first_match_le [] kind size found
      exact absurd (Nat.le_antisymm fits (Nat.zero_le _)) (Nat.ne_of_gt some)
  | cons c rest =>
      rw [first_match_contenders] at found
      obtain ⟨before, first, behind, split, hit, missed⟩ := List.findSome?_eq_some_iff.mp found
      obtain ⟨count, length, same⟩ := Option.map_eq_some_iff.mp hit
      obtain ⟨rfl, rfl⟩ := Prod.mk.inj same
      have ordered := contenders_outlast c rest
      rw [split] at ordered
      have starts : rule.pattern.starts c = true := by
        by_contra starts
        rw [length_none_of_not_starts rule.pattern c rest (Bool.eq_false_iff.mpr starts)] at other
        contradiction
      have contender : rule ∈ contenders c := List.mem_filter.mpr ⟨member, starts⟩
      rw [split, List.mem_append, List.mem_cons] at contender
      rcases contender with earlier | rfl | later
      · have none := Option.map_eq_none_iff.mp (missed rule earlier)
        rw [none] at other
        contradiction
      · exact .inl (Nat.le_of_eq (Option.some.inj (other.symm.trans length)))
      · exact (List.pairwise_cons.mp (List.pairwise_append.mp ordered).2.1).1 rule later count n length other

-- The choice of the longest match.

theorem pick_longer_keeps (text : List Char) (rules : List Rule) (best : Option TokenKind × Nat)
    (within : ∀ rule ∈ rules, ∀ n, rule.pattern.length? text = some n → n ≤ best.2) :
    rules.foldl (pickLonger text) (some best) = some best := by
  induction rules with
  | nil => rfl
  | cons rule rules ih =>
      rw [List.forall_mem_cons] at within
      have kept : pickLonger text (some best) rule = some best := by
        unfold pickLonger
        cases found : rule.pattern.length? text with
        | none => rfl
        | some n =>
            have fits := within.1 n found
            simp [Nat.not_lt.mpr fits]
      rw [List.foldl_cons, kept]
      exact ih within.2

theorem pick_longer_misses (text : List Char) (rules : List Rule) (best : Option (Option TokenKind × Nat))
    (missed : ∀ rule ∈ rules, rule.pattern.length? text = none) : rules.foldl (pickLonger text) best = best := by
  induction rules with
  | nil => rfl
  | cons rule rules ih =>
      rw [List.forall_mem_cons] at missed
      rw [List.foldl_cons, pickLonger, missed.1]
      exact ih missed.2

-- A pick is at least as long as what was there before and as what the rule takes.
theorem pick_longer_grows (text : List Char) (best : Option (Option TokenKind × Nat)) (rule : Rule) (n : Nat)
    (one : best.map (·.2) = some n ∨ rule.pattern.length? text = some n) :
    ∃ found, pickLonger text best rule = some found ∧ n ≤ found.2 := by
  unfold pickLonger
  cases taken : rule.pattern.length? text with
  | none =>
      rw [taken] at one
      obtain ⟨found, same, rfl⟩ := Option.map_eq_some_iff.mp (one.resolve_right (by simp))
      exact ⟨found, same, Nat.le_refl _⟩
  | some size =>
      dsimp only
      by_cases longer : best.all (·.2 < size) = true
      · rw [if_pos longer]
        refine ⟨_, rfl, ?_⟩
        rcases one with before | same
        · obtain ⟨found, same, rfl⟩ := Option.map_eq_some_iff.mp before
          rw [same, Option.all_some, decide_eq_true_eq] at longer
          exact Nat.le_of_lt longer
        · exact Nat.le_of_eq (Option.some.inj (same.symm.trans taken))
      · rw [if_neg longer]
        cases best with
        | none => exact absurd rfl longer
        | some found =>
            refine ⟨found, rfl, ?_⟩
            rcases one with before | same
            · exact Nat.le_of_eq (Option.some.inj before).symm
            · rw [Option.all_some, decide_eq_true_eq, Nat.not_lt] at longer
              exact Option.some.inj (taken.symm.trans same) ▸ longer

-- No rule takes more than what is picked.
theorem pick_longer_covers (text : List Char) (rules : List Rule) (best : Option (Option TokenKind × Nat)) (n : Nat)
    (one : best.map (·.2) = some n ∨ ∃ rule ∈ rules, rule.pattern.length? text = some n) :
    ∃ found, rules.foldl (pickLonger text) best = some found ∧ n ≤ found.2 := by
  induction rules generalizing best n with
  | nil =>
      obtain ⟨found, same, rfl⟩ := Option.map_eq_some_iff.mp (one.resolve_right (by simp))
      exact ⟨found, same, Nat.le_refl _⟩
  | cons rule rules ih =>
      rw [List.foldl_cons]
      have head (first : best.map (·.2) = some n ∨ rule.pattern.length? text = some n) :
          ∃ found, rules.foldl (pickLonger text) (pickLonger text best rule) = some found ∧ n ≤ found.2 := by
        obtain ⟨found, same, more⟩ := pick_longer_grows text best rule n first
        obtain ⟨found', picked, more'⟩ := ih (pickLonger text best rule) found.2 (.inl (congrArg (Option.map (·.2)) same))
        exact ⟨found', picked, Nat.le_trans more more'⟩
      rcases one with before | ⟨other, member, hit⟩
      · exact head (.inl before)
      · rcases List.mem_cons.mp member with rfl | later
        · exact head (.inr hit)
        · exact ih _ n (.inr ⟨other, later, hit⟩)

-- The longest match is the first one, unless digits stand in front of a letter.
theorem longest_match_eq (text : List Char) (apart : ¬ DigitsThenLetter text) :
    longestMatch? text = firstMatch? text := by
  cases found : firstMatch? text with
  | none =>
      have missed : ∀ rule ∈ lexicon, rule.pattern.length? text = none := fun rule member =>
        Option.map_eq_none_iff.mp (List.findSome?_eq_none_iff.mp found rule member)
      exact pick_longer_misses text lexicon none missed
  | some best =>
      obtain ⟨kind, size⟩ := best
      have within (rule : Rule) (member : rule ∈ lexicon) (n : Nat) (hit : rule.pattern.length? text = some n) :
          n ≤ size :=
        (first_match_outlasts text kind size found rule member n hit).resolve_right fun other => apart other.2.2
      obtain ⟨before, first, behind, split, hit, missed⟩ := List.findSome?_eq_some_iff.mp found
      obtain ⟨count, length, same⟩ := Option.map_eq_some_iff.mp hit
      obtain ⟨rfl, rfl⟩ := Prod.mk.inj same
      rw [split] at within
      rw [longestMatch?, split, List.foldl_append,
        pick_longer_misses text before none fun rule member => Option.map_eq_none_iff.mp (missed rule member),
        List.foldl_cons, pickLonger, length]
      exact pick_longer_keeps text behind (first.kind, count) fun rule member => within rule (by simp [member])

-- Digits in front of a letter are the first match, and a name would be longer.
theorem number_before_letter (text : List Char) (digits : DigitsThenLetter text) :
    firstMatch? text = some (some .number, (text.takeWhile Char.isDigit).length) ∧
      ∃ n, (Pattern.run isNameChar).length? text = some n ∧ (text.takeWhile Char.isDigit).length < n ∧
        n ≤ text.length := by
  obtain ⟨run, c, rest, rfl, some, inside, letter⟩ := digits
  obtain ⟨name, plain⟩ := name_first_char c letter
  have ends : ∀ d, (c :: rest).head? = Option.some d → d.isDigit = false := by
    intro d head
    rw [List.head?_cons, Option.some.injEq] at head
    exact head ▸ plain
  have names : run.all isNameChar = true :=
    List.all_eq_true.mpr fun d member => name_char_of_digit d (List.all_eq_true.mp inside d member)
  rw [take_run Char.isDigit run (c :: rest) inside ends]
  constructor
  · have table : ∃ later, lexicon = (beforeWords ++ Spelled.all.map keywordRule) ++
        ⟨.run Char.isDigit, Option.some .number⟩ :: later := ⟨_, rfl⟩
    obtain ⟨later, table⟩ := table
    refine first_match_of_split _ later _ _ _ table ?_ (length_of_run _ run (c :: rest) some inside ends)
    intro rule member
    obtain ⟨d, tail, rfl⟩ := List.exists_cons_of_ne_nil some
    have digit : d.isDigit = true := List.all_eq_true.mp inside d (.head _)
    rw [List.cons_append]
    rcases List.mem_append.mp member with word | keyword
    · exact before_words_none d _ (name_char_of_digit d digit) rule word
    · have apart := of_narrow
        (fun c => !c.isDigit || ((Spelled.all : List Keyword).map keywordRule).all (!·.pattern.starts c))
        (by decide +kernel) d (digit_narrow d digit)
      rw [digit, Bool.not_true, Bool.false_or, List.all_eq_true] at apart
      exact length_none_of_not_starts rule.pattern d _ (by simpa using apart rule keyword)
  · have whole : (run ++ c :: rest).takeWhile isNameChar = run ++ c :: rest.takeWhile isNameChar := by
      rw [List.takeWhile_append_of_pos (List.all_eq_true.mp names), List.takeWhile_cons_of_pos name]
    refine ⟨(run ++ c :: rest.takeWhile isNameChar).length, ?_, by simp, ?_⟩
    · rw [Pattern.length?, whole]
      exact if_neg (by simp)
    · exact whole ▸ (List.takeWhile_prefix isNameChar).length_le

theorem longest_match_iff (text : List Char) : longestMatch? text = firstMatch? text ↔ ¬ DigitsThenLetter text := by
  refine ⟨fun same digits => ?_, longest_match_eq text⟩
  obtain ⟨first, n, name, longer, _⟩ := number_before_letter text digits
  have member : ⟨.run isNameChar, some .identifier⟩ ∈ lexicon := by simp [lexicon]
  obtain ⟨found, picked, covers⟩ := pick_longer_covers text lexicon none n (.inr ⟨_, member, name⟩)
  rw [first, show longestMatch? text = some found from picked] at same
  injection same with same
  rw [same] at covers
  exact absurd longer (Nat.not_lt.mpr covers)

-- More characters are more bytes.
theorem byte_length_take_le (text : List Char) (n m : Nat) (le : n ≤ m) :
    Text.byteLength (text.take n) ≤ Text.byteLength (text.take m) := by
  obtain ⟨more, same⟩ := List.take_prefix_take_left (l := text) le
  rw [← same, Text.byte_length_append]
  exact Nat.le_add_right _ _

theorem byte_length_take_lt (text : List Char) (n m : Nat) (less : n < m) (fits : m ≤ text.length) :
    Text.byteLength (text.take n) < Text.byteLength (text.take m) := by
  have next := byte_length_take_le text (n + 1) m less
  have inside : n < text.length := by omega
  have wide := text[n].utf8Size_pos
  rw [List.take_succ_eq_append_getElem inside, Text.byte_length_append] at next
  simp only [Text.byteLength] at next
  omega

namespace Tokenizer

theorem tokens_of_skip (t : Tokenizer) (size : Nat) (matched : firstMatch? t.rest = some (none, size)) :
    t.tokens = (t.advance size).tokens := by
  have same := t.read_skips size matched
  cases read : (t.advance size).read with
  | error fault after =>
      rw [tokens_of_error _ after fault read, tokens_of_error t after fault (same.trans read)]
  | ok next after =>
      cases next with
      | none => rw [tokens_of_end _ after read, tokens_of_end t after (same.trans read)]
      | some token => rw [tokens_of_token _ after token read, tokens_of_token t after token (same.trans read)]

-- Cutting by the first match is what the tokenizer does.
theorem cut_first (rounds : Nat) (t : Tokenizer) (enough : t.bytesLeft < rounds) :
    t.cut firstMatch? rounds = t.tokens := by
  induction rounds generalizing t with
  | zero => omega
  | succ rounds ih =>
      rw [cut]
      cases unread : t.rest with
      | nil => rw [tokens_of_end t t (t.read_at_end unread)]
      | cons c rest =>
          dsimp only
          cases matched : firstMatch? (c :: rest) with
          | none => rw [tokens_of_error t t _ (t.read_fails c rest unread (unread ▸ matched))]
          | some found =>
              obtain ⟨kind, size⟩ := found
              have shorter := bytes_left_advance t c rest size unread (first_match_pos _ _ _ matched)
              have later := ih (t.advance size) (by omega)
              cases kind with
              | none => rw [tokens_of_skip t size (unread ▸ matched), ← later]
              | some kind => rw [tokens_of_token t _ _ (t.read_takes kind size (unread ▸ matched)), ← later, unread]

-- What agrees with the first match wherever the scan comes cuts the same tokens.
theorem cut_agrees (source : String) (choose : List Char → Option (Option TokenKind × Nat)) (rounds : Nat)
    (t : Tokenizer) (inside : t.Inside source) (reached : Reached source t.cursor)
    (same : ∀ place rest, Reached source place → RestAt source place rest → choose rest = firstMatch? rest) :
    t.cut choose rounds = t.cut firstMatch? rounds := by
  induction rounds generalizing t with
  | zero => rfl
  | succ rounds ih =>
      rw [cut, cut, same t.cursor t.rest reached inside]
      cases unread : t.rest with
      | nil => rfl
      | cons c rest =>
          dsimp only
          cases matched : firstMatch? (c :: rest) with
          | none => rfl
          | some found =>
              obtain ⟨kind, size⟩ := found
              have goes := matched_at_front source t kind size inside (unread ▸ matched)
              have later := ih (t.advance size) (inside_advance source t size inside) (reached.tail ⟨kind, _, goes⟩)
              cases kind with
              | none => exact later
              | some kind => exact congrArg (Except.map _) later

end Tokenizer

-- Where a rule is chosen, no other one takes more bytes, except that digits in front of a letter are taken as
-- a number though a name would be longer. So the first match is the longest one elsewhere, and both cut the
-- same tokens of a source in which the scan comes to no such digits.
theorem first_match_longest :
    (∀ text kind size, firstMatch? text = some (kind, size) →
      ∀ rule ∈ lexicon, ∀ n, rule.pattern.length? text = some n →
        Text.byteLength (text.take n) ≤ Text.byteLength (text.take size) ∨
          (kind = some .number ∧ rule.kind = some .identifier ∧ DigitsThenLetter text)) ∧
      (∀ text, DigitsThenLetter text → ∃ size n,
        firstMatch? text = some (some .number, size) ∧ text.take size = text.takeWhile Char.isDigit ∧
          (Pattern.run isNameChar).length? text = some n ∧
          Text.byteLength (text.take size) < Text.byteLength (text.take n)) ∧
      (∀ text, longestMatch? text = firstMatch? text ↔ ¬ DigitsThenLetter text) ∧
      ∀ source, (∀ place rest, Reached source place → RestAt source place rest → ¬ DigitsThenLetter rest) →
        tokenizeLongest source = tokenize source := by
  refine ⟨fun text kind size found rule member n hit => ?_, fun text digits => ?_, longest_match_iff,
    fun source apart => ?_⟩
  · rcases first_match_outlasts text kind size found rule member n hit with shorter | exception
    · exact .inl (byte_length_take_le text n size shorter)
    · exact .inr exception
  · obtain ⟨first, n, name, longer, fits⟩ := number_before_letter text digits
    have taken := (List.prefix_iff_eq_take.mp (List.takeWhile_prefix Char.isDigit (l := text))).symm
    exact ⟨_, n, first, taken, name, byte_length_take_lt text _ n longer fits⟩
  · have same := Tokenizer.cut_agrees source longestMatch? ((Tokenizer.ofSource source).bytesLeft + 1)
      (.ofSource source) (Tokenizer.inside_of_source source) .refl
      fun place rest reached here => longest_match_eq rest (apart place rest reached here)
    exact same.trans (Tokenizer.cut_first _ _ (Nat.lt_succ_self _))

-- A comment against a slash, digits against a name, and a source without digits.
theorem first_match_longest_at_comment :
    Text.byteLength ("/*é*/ b".toList.take 1) ≤ Text.byteLength ("/*é*/ b".toList.take 5) ∧
      (∃ size n, firstMatch? "7x".toList = some (some .number, size) ∧
        (Pattern.run isNameChar).length? "7x".toList = some n ∧
        Text.byteLength ("7x".toList.take size) < Text.byteLength ("7x".toList.take n)) ∧
      longestMatch? "7x".toList ≠ firstMatch? "7x".toList ∧
      tokenizeLongest "if (a /= b) /* c */ d_ == do_;" = tokenize "if (a /= b) /* c */ d_ == do_;" := by
  obtain ⟨others, number, same, tokens⟩ := first_match_longest
  have comment : firstMatch? "/*é*/ b".toList = some (none, 5) := by decide +kernel
  have slash : ⟨.oneOf ['*', '/'], some .multiplicative⟩ ∈ lexicon := by simp [lexicon]
  have digits : DigitsThenLetter "7x".toList := ⟨['7'], 'x', [], rfl, by decide, by decide, by decide⟩
  obtain ⟨size, n, first, _, name, longer⟩ := number _ digits
  refine ⟨(others _ none 5 comment _ slash 1 rfl).resolve_right (by simp), ⟨size, n, first, name, longer⟩,
    fun equal => (same _).mp equal digits, tokens _ fun place rest _ here digits => ?_⟩
  obtain ⟨before, whole, _⟩ := here
  obtain ⟨run, c, later, rfl, some, inside, _⟩ := digits
  obtain ⟨d, tail, rfl⟩ := List.exists_cons_of_ne_nil some
  have digit : d.isDigit = true := List.all_eq_true.mp inside d (.head _)
  have none : "if (a /= b) /* c */ d_ == do_;".toList.all (!·.isDigit) = true := by decide +kernel
  have plain := List.all_eq_true.mp none d (whole ▸ by simp)
  rw [digit] at plain
  contradiction

end ScriptFront
