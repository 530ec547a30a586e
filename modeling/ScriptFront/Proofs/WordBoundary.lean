import ScriptFront.Grammar.State

set_option autoImplicit false

/-! Where words end. A keyword ends where no word character of any script follows, and a name takes
letters of ASCII alone; so a name that is spelled like a keyword comes right before a character that
no pattern matches. -/

namespace ScriptFront

-- Whether a pattern can match a text that starts with a character.
def Pattern.starts : Pattern → Char → Bool
  | .run accepts, c => accepts c
  | .lineComment, c | .blockComment, c => c == '/'
  | .exactly spelling, c | .word spelling, c => spelling.head?.all (· == c)
  | .oneOf choices, c | .thenEquals choices, c | .maybeEquals choices, c => choices.contains c
  | .quoted quote, c => c == quote

theorem length_none_of_not_starts (pattern : Pattern) (c : Char) (rest : List Char)
    (other : pattern.starts c = false) : pattern.length? (c :: rest) = none := by
  cases pattern with
  | run accepts => simp_all [Pattern.starts, Pattern.length?]
  | lineComment =>
      simp only [Pattern.starts] at other
      unfold Pattern.length?
      split <;> simp_all
  | blockComment =>
      simp only [Pattern.starts] at other
      unfold Pattern.length?
      split <;> simp_all
  | exactly spelling => cases spelling <;> simp_all [Pattern.starts, Pattern.length?]
  | word spelling => cases spelling <;> simp_all [Pattern.starts, Pattern.length?]
  | oneOf choices => simp_all [Pattern.starts, Pattern.length?]
  | thenEquals choices =>
      simp only [Pattern.starts] at other
      unfold Pattern.length?
      split <;> simp_all
  | maybeEquals choices => simp_all [Pattern.starts, Pattern.length?]
  | quoted quote => simp_all [Pattern.starts, Pattern.length?]

theorem digit_narrow (c : Char) (digit : c.isDigit = true) : c.toNat < 0x80 := by
  simp only [Char.isDigit, Bool.and_eq_true, decide_eq_true_eq, UInt32.le_iff_toNat_le] at digit
  exact Nat.lt_of_le_of_lt digit.2 (by decide)

theorem name_char_narrow (c : Char) (name : isNameChar c = true) : c.toNat < 0x80 := by
  change (((c.isUpper || c.isLower) || c.isDigit) || c == '_') = true at name
  simp only [Bool.or_eq_true, beq_iff_eq] at name
  rcases name with ((upper | lower) | digit) | rfl
  · have range : 'A'.val ≤ c.val ∧ c.val ≤ 'Z'.val := of_decide_eq_true upper
    exact Nat.lt_of_le_of_lt (UInt32.le_iff_toNat_le.mp range.2) (by decide)
  · have range : (decide ('a'.val ≤ c.val) && decide (c.val ≤ 'z'.val)) = true := lower
    have last := of_decide_eq_true (Bool.and_eq_true_iff.mp range).2
    exact Nat.lt_of_le_of_lt (UInt32.le_iff_toNat_le.mp last) (by decide)
  · exact digit_narrow c digit
  · decide

-- Everything but white space, which is the first rule, starts with a character of ASCII.
theorem later_rule_narrow (rule : Rule) (member : rule ∈ lexicon.tail) (c : Char)
    (starts : rule.pattern.starts c = true) : c.toNat < 0x80 := by
  simp only [lexicon, List.cons_append, List.nil_append, List.tail_cons, List.mem_append, List.mem_map,
    List.mem_cons, List.not_mem_nil, or_false] at member
  rcases member with rfl | rfl | (⟨mark, _, rfl⟩ | ⟨keyword, _, rfl⟩) | others
  · simp_all [Pattern.starts]
  · simp_all [Pattern.starts]
  · cases mark <;> simp_all [markRule, Pattern.starts, Spelled.spelling] <;> subst starts <;> decide
  · cases keyword <;> simp_all [keywordRule, Pattern.starts, Spelled.spelling] <;> subst starts <;> decide
  · rcases others with rfl | rfl | rfl | rfl | rfl | rfl | rfl | rfl | rfl | rfl | rfl | rfl | rfl
    · exact digit_narrow c starts
    · exact name_char_narrow c starts
    all_goals
      simp only [Pattern.starts, List.contains_eq_mem, List.mem_cons, List.not_mem_nil, or_false,
        List.head?_cons, Option.all_some, beq_iff_eq, decide_eq_true_eq] at starts
      rcases starts with rfl | rfl | rfl | rfl
      all_goals decide

theorem lexicon_starts (rule : Rule) (member : rule ∈ lexicon) (c : Char)
    (starts : rule.pattern.starts c = true) : Text.isBlank c = true ∨ c.toNat < 0x80 := by
  rcases List.mem_cons.mp member with rfl | later
  · exact .inl starts
  · exact .inr (later_rule_narrow rule later c starts)

theorem ranges_disjoint (a b : Ranges) (c : Char)
    (apart : (a.all fun x => b.all fun y => x.2 < y.1 || y.2 < x.1) = true) (inA : a.has c = true) :
    b.has c = false := by
  obtain ⟨x, member, bounds⟩ := List.any_eq_true.mp inA
  refine List.any_eq_false.mpr fun y member' bounds' => ?_
  have separate := List.all_eq_true.mp (List.all_eq_true.mp apart x member) y member'
  simp only [Bool.and_eq_true, Bool.or_eq_true, decide_eq_true_eq] at bounds bounds' separate
  omega

theorem not_word_of_blank (c : Char) (blank : Text.isBlank c = true) (wide : 0x80 ≤ c.toNat) :
    Text.isWord c = false := by
  have narrow : ¬ c.toNat < 0x80 := by omega
  rw [Text.isWord, if_neg narrow]
  exact ranges_disjoint Text.blankRanges Text.wordRanges c (by decide +kernel) blank

theorem first_match_wide_word (c : Char) (rest : List Char) (word : Text.isWord c = true)
    (wide : 0x80 ≤ c.toNat) : firstMatch? (c :: rest) = none := by
  apply List.findSome?_eq_none_iff.mpr
  intro rule member
  rw [Option.map_eq_none_iff]
  apply length_none_of_not_starts
  apply Bool.eq_false_iff.mpr
  intro starts
  rcases lexicon_starts rule member c starts with blank | narrow
  · rw [not_word_of_blank c blank wide] at word
    contradiction
  · omega

-- The rules that are tried before the one of names.
def beforeNames : List Rule :=
  [⟨.run Text.isBlank, none⟩, ⟨.lineComment, none⟩, ⟨.blockComment, none⟩] ++
    Spelled.all.map markRule ++ Spelled.all.map keywordRule ++ [⟨.run Char.isDigit, some .number⟩]

theorem keyword_rule_mem (keyword : Keyword) : keywordRule keyword ∈ beforeNames := by
  simp only [beforeNames, List.mem_append, List.mem_map]
  exact .inl (.inr ⟨keyword, Spelled.complete keyword, rfl⟩)

-- A name is the run of name characters at the front, where no earlier rule matches.
theorem first_match_identifier (text : List Char) (size : Nat)
    (found : firstMatch? text = some (some .identifier, size)) :
    (∀ rule ∈ beforeNames, rule.pattern.length? text = none) ∧
      size = (text.takeWhile isNameChar).length := by
  obtain ⟨later, table, others⟩ : ∃ later, lexicon = beforeNames ++ ⟨.run isNameChar, some .identifier⟩ :: later ∧
      (later.all (·.kind != some .identifier)) = true := ⟨_, rfl, by decide⟩
  have others' : (beforeNames.all (·.kind != some .identifier)) = true := by decide
  -- Any other rule gives another kind.
  have only (rules : List Rule) (differ : (rules.all (·.kind != some .identifier)) = true)
      (hit : rules.findSome? (fun rule => (rule.pattern.length? text).map fun n => (rule.kind, n)) =
        some (some .identifier, size)) : False := by
    obtain ⟨rule, member, matched⟩ := List.exists_of_findSome?_eq_some hit
    obtain ⟨count, _, same⟩ := Option.map_eq_some_iff.mp matched
    have different := List.all_eq_true.mp differ rule member
    simp [(Prod.mk.inj same).1] at different
  rw [firstMatch?, table, List.findSome?_append] at found
  cases early : beforeNames.findSome? fun rule => (rule.pattern.length? text).map fun n => (rule.kind, n) with
  | some hit =>
      rw [early, Option.some_or] at found
      exact (only beforeNames others' (early.trans found)).elim
  | none =>
      refine ⟨fun rule member => Option.map_eq_none_iff.mp (List.findSome?_eq_none_iff.mp early rule member), ?_⟩
      rw [early, Option.none_or, List.findSome?_cons] at found
      cases run : (Pattern.run isNameChar).length? text with
      | none =>
          rw [run] at found
          exact (only later others found).elim
      | some count =>
          rw [run] at found
          simp only [Option.map_some, Option.some.injEq, Prod.mk.injEq, true_and] at found
          simp only [Pattern.length?] at run
          split at run
          · contradiction
          · injection run with run
            rw [← found, run]

theorem drop_run (accepts : Char → Bool) (text : List Char) :
    text.drop (text.takeWhile accepts).length = text.dropWhile accepts := by
  have parts := List.takeWhile_append_dropWhile (p := accepts) (l := text)
  calc text.drop (text.takeWhile accepts).length
      = (text.takeWhile accepts ++ text.dropWhile accepts).drop (text.takeWhile accepts).length := by rw [parts]
    _ = text.dropWhile accepts := List.drop_left

theorem wide_of_word_not_name (c : Char) (word : Text.isWord c = true) (other : isNameChar c = false) :
    0x80 ≤ c.toNat := by
  by_cases narrow : c.toNat < 0x80
  · rw [Text.isWord, if_pos narrow, ← isNameChar, other] at word
    contradiction
  · omega

-- A keyword that did not match is followed by a word character, which ended the name.
theorem keyword_name_then_word (text : List Char) (size : Nat) (keyword : Keyword)
    (found : firstMatch? text = some (some .identifier, size))
    (spelled : text.take size = (Spelled.spelling keyword).toList) :
    ∃ c rest, text.drop size = c :: rest ∧ Text.isWord c = true ∧ 0x80 ≤ c.toNat := by
  obtain ⟨earlier, run⟩ := first_match_identifier text size found
  have missed := earlier _ (keyword_rule_mem keyword)
  have fits : size ≤ text.length := run ▸ (List.takeWhile_prefix isNameChar).length_le
  have length : (Spelled.spelling keyword).toList.length = size := by
    rw [← spelled, List.length_take, Nat.min_eq_left fits]
  have front : (Spelled.spelling keyword).toList.isPrefixOf text = true := by
    rw [List.isPrefixOf_iff_prefix, ← spelled]
    exact List.take_prefix size text
  have word : startsWithWord (text.drop size) = true := by
    simp only [keywordRule, Pattern.length?, front, length] at missed
    simpa using missed
  cases after : text.drop size with
  | nil => simp [after, startsWithWord] at word
  | cons c rest =>
      have other : isNameChar c = false := by
        have head := List.head?_dropWhile_not isNameChar text
        rw [← drop_run, ← run, after] at head
        simpa using head
      rw [after, startsWithWord] at word
      exact ⟨c, rest, rfl, word, wide_of_word_not_name c word other⟩

theorem keyword_name_then_nothing (text : List Char) (size : Nat) (keyword : Keyword)
    (found : firstMatch? text = some (some .identifier, size))
    (spelled : text.take size = (Spelled.spelling keyword).toList) :
    ∃ c rest, text.drop size = c :: rest ∧ firstMatch? (c :: rest) = none := by
  obtain ⟨c, rest, behind, word, wide⟩ := keyword_name_then_word text size keyword found spelled
  exact ⟨c, rest, behind, first_match_wide_word c rest word wide⟩

namespace Tokenizer

-- A token is the first match at some place, and the cursor is behind it.
theorem scan_token (rounds : Nat) (t after : Tokenizer) (token : Token)
    (found : scan rounds t = .ok (some token) after) :
    ∃ text size, firstMatch? text = some (some token.kind, size) ∧
      token.text = String.ofList (text.take size) ∧ after.rest = text.drop size := by
  induction rounds generalizing t with
  | zero => simp [scan] at found
  | succ rounds ih =>
      rw [scan] at found
      split at found
      · simp at found
      · split at found
        · simp at found
        · exact ih _ found
        · rename_i kind size matched
          simp only [EStateM.Result.ok.injEq, Option.some.injEq] at found
          obtain ⟨rfl, rfl⟩ := found
          exact ⟨t.rest, size, matched, rfl, rfl⟩

-- A name that is spelled like a keyword is the last token before a lexical error.
theorem read_after_keyword_name (t after : Tokenizer) (token : Token) (keyword : Keyword)
    (found : t.read = .ok (some token) after) (name : token.kind = .identifier)
    (spelled : token.text = Spelled.spelling keyword) :
    ∃ fault, after.read = .error fault after := by
  obtain ⟨text, size, matched, same, rest⟩ := scan_token _ t after token found
  have spelled' : text.take size = (Spelled.spelling keyword).toList := by
    rw [← spelled, same, String.toList_ofList]
  rw [name] at matched
  obtain ⟨c, others, next, nothing⟩ := keyword_name_then_nothing text size keyword matched spelled'
  rw [next] at rest
  refine ⟨⟨c, after.cursor⟩, ?_⟩
  rw [read, scan, rest]
  simp only [nothing]

end Tokenizer

end ScriptFront
