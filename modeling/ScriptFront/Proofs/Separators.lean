import ScriptFront.Proofs.LexemeMatch

set_option autoImplicit false

/-! White space and comments between tokens. Tokens with separators between them are read back with
the same kinds and texts, whatever the separators are. -/

namespace ScriptFront

namespace Tokenizer

theorem advance_add (t : Tokenizer) (a b : Nat) : (t.advance a).advance b = t.advance (a + b) := by
  unfold advance
  simp only [mk.injEq, true_and, List.drop_drop, and_true]
  rw [List.take_add, Text.byte_length_append, Nat.add_assoc]

theorem scan_enough (rounds more : Nat) (t : Tokenizer) (enough : t.bytesLeft < rounds)
    (enough' : t.bytesLeft < more) : scan rounds t = scan more t := by
  induction rounds generalizing more t with
  | zero => omega
  | succ rounds ih =>
      cases more with
      | zero => omega
      | succ more =>
          rw [scan, scan]
          split
          · rfl
          · rename_i c rest unread
            split
            · rfl
            · rename_i size matched
              have shorter := bytes_left_advance t c rest size unread (first_match_pos _ _ _ matched)
              exact ih more (t.advance size) (by omega) (by omega)
            · rfl

-- What a reading does at the front of the text that is left.
theorem read_at_end (t : Tokenizer) (nothing : t.rest = []) : t.read = .ok none t := by
  rw [read, scan, nothing]

theorem read_skips (t : Tokenizer) (size : Nat) (matched : firstMatch? t.rest = some (none, size)) :
    t.read = (t.advance size).read := by
  rw [read, scan]
  split
  · rename_i nothing
    rw [nothing] at matched
    contradiction
  · rename_i c rest unread
    have shorter := bytes_left_advance t c rest size unread (first_match_pos _ _ _ matched)
    simp only [matched]
    exact scan_enough _ _ _ shorter (Nat.lt_succ_self _)

theorem read_takes (t : Tokenizer) (kind : TokenKind) (size : Nat)
    (matched : firstMatch? t.rest = some (some kind, size)) :
    t.read = .ok (some ⟨kind, String.ofList (t.rest.take size), ⟨t.cursor, (t.advance size).cursor⟩⟩)
      (t.advance size) := by
  rw [read, scan]
  split
  · rename_i nothing
    rw [nothing] at matched
    contradiction
  · simp only [matched]

-- All tokens that are left.
def tokens (t : Tokenizer) : Except LexicalError (List Token) :=
  tokensFrom (t.bytesLeft + 1) t

theorem tokens_from_enough (rounds more : Nat) (t : Tokenizer) (enough : t.bytesLeft < rounds)
    (enough' : t.bytesLeft < more) : tokensFrom rounds t = tokensFrom more t := by
  induction rounds generalizing more t with
  | zero => omega
  | succ rounds ih =>
      cases more with
      | zero => omega
      | succ more =>
          rw [tokensFrom, tokensFrom]
          split
          · rfl
          · rename_i token after found
            have shorter := bytes_left_read t after token found
            rw [ih more after (by omega) (by omega)]
          · rfl

theorem tokens_of_end (t after : Tokenizer) (found : t.read = .ok none after) : t.tokens = .ok [] := by
  rw [tokens, tokensFrom, found]

theorem tokens_of_token (t after : Tokenizer) (token : Token) (found : t.read = .ok (some token) after) :
    t.tokens = after.tokens.map (token :: ·) := by
  have shorter := bytes_left_read t after token found
  rw [tokens, tokensFrom, found]
  exact congrArg (Except.map (token :: ·)) (tokens_from_enough _ _ _ shorter (Nat.lt_succ_self _))

end Tokenizer

-- A piece of a separator: one character of white space, a comment up to the end of its line, or a
-- comment that is closed at the first `*/` in it.
inductive Skip where
  | blank (c : Char) (white : Text.isBlank c = true)
  | line (body : List Char) (single : '\n' ∉ body)
  | block (body : List Char) (unclosed : ¬ ['*', '/'] <:+: body ++ ['*'])

namespace Skip

def text : Skip → List Char
  | .blank c _ => [c]
  | .line body _ => '/' :: '/' :: (body ++ ['\n'])
  | .block body _ => '/' :: '*' :: (body ++ ['*', '/'])

def isBlank : Skip → Bool
  | .blank _ _ => true
  | _ => false

end Skip

def separatorText (separator : List Skip) : List Char :=
  separator.flatMap Skip.text

-- Tokens with a separator behind each.
def spacedText : List (Token × List Skip) → List Char
  | [] => []
  | (token, separator) :: rest => token.text.toList ++ (separatorText separator ++ spacedText rest)

-- Something stands between any two tokens, and a comment does not stand right behind a slash.
def Spaced : List (Token × List Skip) → Prop
  | [] => True
  | (token, separator) :: rest =>
      (rest ≠ [] → separator ≠ []) ∧
        (token.text = "/" → ∀ piece, separator.head? = some piece → piece.isBlank = true) ∧ Spaced rest

theorem comment_length_of_body (body rest : List Char) (unclosed : ¬ ['*', '/'] <:+: body ++ ['*']) :
    commentLength? (body ++ '*' :: '/' :: rest) = some (body.length + 2) := by
  induction body with
  | nil => rfl
  | cons c body ih =>
      have within : ¬ ['*', '/'] <:+: body ++ ['*'] := fun inside =>
        unclosed (inside.trans (List.suffix_cons c (body ++ ['*'])).isInfix)
      have notHere : ∀ later, c = '*' → body ++ '*' :: '/' :: rest ≠ '/' :: later := by
        rintro later rfl same
        apply unclosed
        cases body with
        | nil =>
            injection same with same
            contradiction
        | cons d body =>
            injection same with same _
            subst same
            exact (List.prefix_append ['*', '/'] (body ++ ['*'])).isInfix
      rw [List.cons_append, commentLength?]
      · rw [ih within]
        rfl
      · exact notHere

namespace Tokenizer

-- One character of white space is skipped alone, even before more of it.
theorem read_blank (t : Tokenizer) (c : Char) (rest : List Char) (unread : t.rest = c :: rest)
    (white : Text.isBlank c = true) : t.read = (t.advance 1).read := by
  have run (text : List Char) (d : Char) (later : List Char) (same : text = d :: later)
      (white : Text.isBlank d = true) :
      firstMatch? text = some (none, (later.takeWhile Text.isBlank).length + 1) := by
    have table : ∃ others, lexicon = [] ++ ⟨.run Text.isBlank, none⟩ :: others := ⟨_, rfl⟩
    obtain ⟨others, table⟩ := table
    apply first_match_of_split [] others _ _ _ table (by simp)
    simp [same, Pattern.length?, white]
  have first := read_skips t _ (run t.rest c rest unread white)
  have behind : (t.advance 1).rest = rest := by simp [advance, unread]
  cases rest with
  | nil => exact first
  | cons d later =>
      by_cases white' : Text.isBlank d = true
      · have second := read_skips (t.advance 1) _ (run _ d later behind white')
        rw [first, second, advance_add, List.takeWhile_cons, if_pos white', List.length_cons]
        congr 2
        omega
      · rw [first, List.takeWhile_cons, if_neg white']
        rfl

theorem read_piece (t : Tokenizer) (piece : Skip) (rest : List Char) (unread : t.rest = piece.text ++ rest) :
    ∃ after : Tokenizer, t.read = after.read ∧ after.rest = rest := by
  cases piece with
  | blank c white =>
      refine ⟨t.advance 1, read_blank t c rest unread white, ?_⟩
      simp [advance, unread, Skip.text]
  | line body single =>
      have body' := take_until '\n' body rest single
      have whole : t.rest = '/' :: '/' :: (body ++ '\n' :: rest) := by simp [unread, Skip.text]
      have matched : firstMatch? t.rest = some (none, body.length + 2) := by
        rw [whole, first_match_contenders]
        change (some ((((body ++ '\n' :: rest).takeWhile (· != '\n')).length + 2)) |>.map fun n =>
          ((none : Option TokenKind), n)) = _
        rw [body']
        rfl
      have behind : (t.advance (body.length + 2)).rest = '\n' :: rest := by
        simp [advance, whole]
      have next := read_blank (t.advance (body.length + 2)) '\n' rest behind (by decide)
      refine ⟨(t.advance (body.length + 2)).advance 1, ?_, ?_⟩
      · rw [read_skips t _ matched, next]
      · simp [advance, whole]
  | block body unclosed =>
      have whole : t.rest = '/' :: '*' :: (body ++ '*' :: '/' :: rest) := by simp [unread, Skip.text]
      have closed : Pattern.blockComment.length? t.rest = some (body.length + 4) := by
        rw [whole, Pattern.length?, comment_length_of_body body rest unclosed]
        rfl
      have matched : firstMatch? t.rest = some (none, body.length + 4) := by
        rw [whole] at closed ⊢
        rw [first_match_contenders, contenders_slash, List.findSome?_cons, List.findSome?_cons, closed]
        rfl
      refine ⟨t.advance (body.length + 4), read_skips t _ matched, ?_⟩
      simp [advance, whole]

theorem read_separator (t : Tokenizer) (separator : List Skip) (rest : List Char)
    (unread : t.rest = separatorText separator ++ rest) :
    ∃ after : Tokenizer, t.read = after.read ∧ after.rest = rest := by
  induction separator generalizing t with
  | nil => exact ⟨t, rfl, unread⟩
  | cons piece separator ih =>
      rw [separatorText, List.flatMap_cons, List.append_assoc] at unread
      obtain ⟨after, same, behind⟩ := read_piece t piece _ unread
      obtain ⟨last, same', behind'⟩ := ih after behind
      exact ⟨last, same.trans same', behind'⟩

end Tokenizer

-- A token is separated from what follows it.
theorem separates_next (token : Token) (separator : List Skip) (rest : List (Token × List Skip))
    (spaced : Spaced ((token, separator) :: rest)) :
    separates token.text.toList (separatorText separator ++ spacedText rest) = true := by
  obtain ⟨between, slash, _⟩ := spaced
  cases separator with
  | nil =>
      cases rest with
      | nil => rfl
      | cons next rest => exact absurd rfl (between (List.cons_ne_nil next rest))
  | cons piece separator =>
      -- Behind a slash the first piece is white space.
      have apart : piece.isBlank = false → (token.text.toList != ['/']) = true := by
        intro comment
        rw [bne_iff_ne]
        intro same
        have blank := slash (String.toList_inj.mp same) piece rfl
        rw [blank] at comment
        contradiction
      cases piece with
      | blank c white => exact Bool.or_eq_true_iff.mpr (.inl white)
      | line body single =>
          change (Text.isBlank '/' || ('/' == '/' && token.text.toList != ['/'])) = true
          rw [apart rfl, beq_self_eq_true, Bool.and_self, Bool.or_true]
      | block body unclosed =>
          change (Text.isBlank '/' || ('/' == '/' && token.text.toList != ['/'])) = true
          rw [apart rfl, beq_self_eq_true, Bool.and_self, Bool.or_true]

theorem tokens_spaced (t : Tokenizer) (first : List Skip) (items : List (Token × List Skip))
    (unread : t.rest = separatorText first ++ spacedText items)
    (spelled : ∀ item ∈ items, item.1.wellSpelled = true) (spaced : Spaced items) :
    ∃ found, t.tokens = .ok found ∧ found.map Token.lexeme = items.map (·.1.lexeme) := by
  induction items generalizing t first with
  | nil =>
      obtain ⟨after, same, behind⟩ := t.read_separator first _ unread
      exact ⟨[], t.tokens_of_end after (same.trans (after.read_at_end behind)), rfl⟩
  | cons item items ih =>
      obtain ⟨token, separator⟩ := item
      obtain ⟨after, same, behind⟩ := t.read_separator first _ unread
      have lexeme : token.kind.hasLexeme token.text.toList = true := spelled (token, separator) (by simp)
      have matched := first_match_lexeme token.kind token.text.toList _ lexeme
        (separates_next token separator items spaced)
      rw [← spacedText, ← behind] at matched
      have taken : after.rest.take token.text.toList.length = token.text.toList := by
        simp [behind, spacedText]
      have found := same.trans (after.read_takes token.kind _ matched)
      rw [taken, String.ofList_toList] at found
      have left : (after.advance token.text.toList.length).rest = separatorText separator ++ spacedText items := by
        simp [Tokenizer.advance, behind, spacedText]
      obtain ⟨later, tokens, lexemes⟩ := ih _ separator left
        (fun item member => spelled item (List.mem_cons_of_mem _ member)) spaced.2.2
      have whole := t.tokens_of_token _ _ found
      rw [tokens] at whole
      refine ⟨_, whole, ?_⟩
      rw [List.map_cons, List.map_cons, lexemes]
      rfl

-- Tokens with separators around them are read back as they were written.
theorem tokenize_spaced (first : List Skip) (items : List (Token × List Skip))
    (spelled : ∀ item ∈ items, item.1.wellSpelled = true) (spaced : Spaced items) :
    ∃ found, tokenize (String.ofList (separatorText first ++ spacedText items)) = .ok found ∧
      found.map Token.lexeme = items.map (·.1.lexeme) := by
  apply tokens_spaced (.ofSource _) first items _ spelled spaced
  simp [Tokenizer.ofSource]

end ScriptFront
