import ScriptFront.Proofs.SignsApart
import ScriptFront.Proofs.TokensFirst

set_option autoImplicit false

/-! Reading a text that a line break and another text follow. Tokens end at the line break, a comment up
to the end of its line too, and a quote or a comment that the text leaves open is the only thing that could
reach over it. -/

namespace ScriptFront

theorem comment_length_append (text more : List Char) (size : Nat) (closed : commentLength? text = some size) :
    commentLength? (text ++ more) = some size ∧ size ≤ text.length := by
  induction text generalizing size with
  | nil => contradiction
  | cons c text ih =>
      by_cases ends : c = '*' ∧ text.head? = some '/'
      · obtain ⟨rfl, head⟩ := ends
        obtain ⟨rest, rfl⟩ := List.head?_eq_some_iff.mp head
        injection closed with same
        subst same
        exact ⟨rfl, by simp⟩
      · have goesOn (text' : List Char) (opens : c = '*' → text'.head? ≠ some '/') :
            commentLength? (c :: text') = (commentLength? text').map (· + 1) := by
          rw [commentLength?]
          rintro rest rfl rfl
          exact opens rfl rfl
        have opens (star : c = '*') : text.head? ≠ some '/' := fun head => ends ⟨star, head⟩
        rw [goesOn text opens] at closed
        obtain ⟨count, inside, rfl⟩ := Option.map_eq_some_iff.mp closed
        obtain ⟨later, fits⟩ := ih count inside
        cases text with
        | nil => contradiction
        | cons d text =>
            rw [List.cons_append, goesOn (d :: text ++ more) opens, later]
            exact ⟨rfl, Nat.succ_le_succ fits⟩

-- No pattern takes more than the text.
theorem pattern_length_le (pattern : Pattern) (text : List Char) (size : Nat)
    (found : pattern.length? text = some size) : size ≤ text.length := by
  unfold Pattern.length? at found
  split at found
  · rename_i accepts
    dsimp only at found
    split at found
    · contradiction
    · injection found with same
      exact same ▸ (List.takeWhile_prefix accepts).length_le
  · rename_i rest
    injection found with same
    have fits := (List.takeWhile_prefix (· != '\n') (l := rest)).length_le
    simp only [List.length_cons]
    omega
  · rename_i rest
    obtain ⟨count, inside, rfl⟩ := Option.map_eq_some_iff.mp found
    have fits := (comment_length_append rest [] count inside).2
    simp only [List.length_cons]
    omega
  · rename_i spelling
    split at found
    · rename_i front
      injection found with same
      exact same ▸ (List.isPrefixOf_iff_prefix.mp front).length_le
    · contradiction
  · rename_i spelling
    split at found
    · rename_i front
      injection found with same
      exact same ▸ (List.isPrefixOf_iff_prefix.mp (Bool.and_eq_true_iff.mp front).1).length_le
    · contradiction
  · split at found
    · injection found with same
      simp [← same]
    · contradiction
  · split at found
    · injection found with same
      simp [← same]
    · contradiction
  · rename_i c rest
    split at found
    · injection found with same
      cases rest with
      | nil => simp [← same]
      | cons d rest =>
          simp only [← same, List.length_cons]
          split <;> omega
    · contradiction
  · rename_i quote c rest
    dsimp only at found
    split at found
    · rename_i closed
      injection found with same
      have fits := of_decide_eq_true (Bool.and_eq_true_iff.mp closed).2
      simp only [List.length_cons]
      omega
    · contradiction
  · contradiction

theorem first_match_le (text : List Char) (kind : Option TokenKind) (size : Nat)
    (found : firstMatch? text = some (kind, size)) : size ≤ text.length := by
  obtain ⟨rule, _, matched⟩ := List.exists_of_findSome?_eq_some found
  obtain ⟨count, length, same⟩ := Option.map_eq_some_iff.mp matched
  obtain ⟨_, rfl⟩ := Prod.mk.inj same
  exact pattern_length_le rule.pattern text count length

-- Patterns that never go over a line break, but for what is left open before it.
def Pattern.endsAtLine : Pattern → Bool
  | .run accepts => !accepts '\n'
  | .exactly spelling | .word spelling => !spelling.contains '\n'
  | .quoted quote => quote == '"' || quote == '\x27'
  | _ => true

-- Neither a comment nor a quote that starts the text is left open.
structure Closed (text : List Char) : Prop where
  comment : ∀ body, text = '/' :: '*' :: body → (commentLength? body).isSome
  quote : ∀ body quote, text = quote :: body → quote = '"' ∨ quote = '\x27' → quote ∈ body

theorem prefix_before_line (spelling text more : List Char) (single : '\n' ∉ spelling) :
    spelling <+: text ++ '\n' :: more ↔ spelling <+: text := by
  constructor
  · intro front
    rcases List.prefix_or_prefix_of_prefix front (List.prefix_append text ('\n' :: more)) with shorter | longer
    · exact shorter
    · obtain ⟨rest, rfl⟩ := longer
      cases rest with
      | nil => simp
      | cons c rest =>
          have within := (List.prefix_append_right_inj text).mp front
          obtain ⟨rfl, _⟩ := List.cons_prefix_cons.mp within
          exact absurd (by simp) single
  · exact fun front => front.trans (List.prefix_append text _)

theorem take_while_before_line (accepts : Char → Bool) (text more : List Char) (stops : accepts '\n' = false) :
    (text ++ '\n' :: more).takeWhile accepts = text.takeWhile accepts := by
  induction text with
  | nil => simp [stops]
  | cons c text ih =>
      by_cases inside : accepts c = true
      · simp [inside, ih]
      · simp [inside]

theorem line_comment_before_line (c : Char) (rest more : List Char) :
    Pattern.lineComment.length? (c :: rest ++ '\n' :: more) = Pattern.lineComment.length? (c :: rest) := by
  cases rest with
  | nil =>
      unfold Pattern.length?
      split <;> simp_all
  | cons d rest =>
      by_cases starts : c = '/' ∧ d = '/'
      · obtain ⟨rfl, rfl⟩ := starts
        simp only [List.cons_append, Pattern.length?, take_while_before_line (· != '\n') rest more rfl]
      · unfold Pattern.length?
        split <;> split <;> simp_all

theorem block_comment_before_line (c : Char) (rest more : List Char) (closed : Closed (c :: rest)) :
    Pattern.blockComment.length? (c :: rest ++ '\n' :: more) = Pattern.blockComment.length? (c :: rest) := by
  cases rest with
  | nil =>
      unfold Pattern.length?
      split <;> simp_all
  | cons d rest =>
      by_cases starts : c = '/' ∧ d = '*'
      · obtain ⟨rfl, rfl⟩ := starts
        obtain ⟨size, found⟩ := Option.isSome_iff_exists.mp (closed.comment rest rfl)
        simp only [List.cons_append, Pattern.length?, found, (comment_length_append rest _ size found).1]
      · unfold Pattern.length?
        split <;> split <;> simp_all

-- A line break ends a word, as the end of the text does.
theorem word_before_line (spelling text more : List Char) (single : '\n' ∉ spelling) :
    (Pattern.word spelling).length? (text ++ '\n' :: more) = (Pattern.word spelling).length? text := by
  have same := prefix_before_line spelling text more single
  simp only [Pattern.length?]
  by_cases front : spelling <+: text
  · have front' := List.isPrefixOf_iff_prefix.mpr front
    have front'' := List.isPrefixOf_iff_prefix.mpr (same.mpr front)
    have behind : startsWithWord ((text ++ '\n' :: more).drop spelling.length) =
        startsWithWord (text.drop spelling.length) := by
      obtain ⟨tail, whole⟩ := front
      rw [← whole, List.append_assoc, List.drop_left, List.drop_left]
      cases tail with
      | nil => exact show Text.isWord '\n' = false by decide
      | cons d tail => rfl
    rw [front', front'', behind]
  · have front' : spelling.isPrefixOf text = false :=
      Bool.eq_false_iff.mpr fun found => front (List.isPrefixOf_iff_prefix.mp found)
    have front'' : spelling.isPrefixOf (text ++ '\n' :: more) = false :=
      Bool.eq_false_iff.mpr fun found => front (same.mp (List.isPrefixOf_iff_prefix.mp found))
    rw [front', front'', Bool.false_and, Bool.false_and]

theorem then_equals_before_line (choices : List Char) (c : Char) (rest more : List Char) :
    (Pattern.thenEquals choices).length? (c :: rest ++ '\n' :: more) =
      (Pattern.thenEquals choices).length? (c :: rest) := by
  cases rest with
  | nil => rfl
  | cons d rest =>
      by_cases equals : d = '='
      · subst equals
        rfl
      · unfold Pattern.length?
        split <;> split <;> simp_all

-- The string ends before the line break, or none begins here.
theorem quoted_before_line (quote c : Char) (rest more : List Char) (closed : c = quote → quote ∈ rest) :
    (Pattern.quoted quote).length? (c :: rest ++ '\n' :: more) = (Pattern.quoted quote).length? (c :: rest) := by
  by_cases starts : c = quote
  · subst starts
    obtain ⟨body, tail, rfl, before⟩ := List.eq_append_cons_of_mem (closed rfl)
    have whole : c :: (body ++ c :: tail) ++ '\n' :: more = c :: (body ++ c :: (tail ++ '\n' :: more)) := by simp
    rw [whole]
    simp [Pattern.length?, take_until c body _ before]
  · simp [Pattern.length?, starts]

theorem length_before_line (pattern : Pattern) (c : Char) (rest more : List Char)
    (ends : pattern.endsAtLine = true) (closed : Closed (c :: rest)) :
    pattern.length? (c :: rest ++ '\n' :: more) = pattern.length? (c :: rest) := by
  cases pattern with
  | run accepts =>
      have stops : accepts '\n' = false := by simpa [Pattern.endsAtLine] using ends
      simp only [Pattern.length?, take_while_before_line accepts _ more stops]
  | lineComment => exact line_comment_before_line c rest more
  | blockComment => exact block_comment_before_line c rest more closed
  | exactly spelling =>
      have single : '\n' ∉ spelling := by simpa [Pattern.endsAtLine] using ends
      have same := prefix_before_line spelling (c :: rest) more single
      simp only [Pattern.length?, ← List.isPrefixOf_iff_prefix] at same ⊢
      rw [Bool.eq_iff_iff.mpr same]
  | word spelling =>
      have single : '\n' ∉ spelling := by simpa [Pattern.endsAtLine] using ends
      exact word_before_line spelling (c :: rest) more single
  | oneOf choices => rfl
  | thenEquals choices => exact then_equals_before_line choices c rest more
  | maybeEquals choices => cases rest <;> rfl
  | quoted quote =>
      have known : quote = '"' ∨ quote = '\x27' := by simpa [Pattern.endsAtLine] using ends
      exact quoted_before_line quote c rest more fun starts => closed.quote rest quote (starts ▸ rfl) known

-- What stands at the front of a text stands there before a line break, unless it is white space.
theorem first_match_before_line (c : Char) (rest more : List Char) (plain : Text.isBlank c = false)
    (closed : Closed (c :: rest)) : firstMatch? (c :: rest ++ '\n' :: more) = firstMatch? (c :: rest) := by
  have table : ∃ others, lexicon = ⟨.run Text.isBlank, none⟩ :: others ∧
      others.all (·.pattern.endsAtLine) = true := ⟨_, rfl, by decide⟩
  obtain ⟨others, table, ends⟩ := table
  have skipped (text : List Char) : (Pattern.run Text.isBlank).length? (c :: text) = none :=
    length_none_of_not_starts _ c text plain
  unfold firstMatch?
  rw [table, List.findSome?_cons, List.findSome?_cons, List.cons_append, skipped, skipped]
  dsimp only [Option.map_none]
  clear table skipped
  induction others with
  | nil => rfl
  | cons rule others ih =>
      obtain ⟨first, later⟩ := Bool.and_eq_true_iff.mp (List.all_cons ▸ ends)
      have same := length_before_line rule.pattern c rest more first closed
      rw [List.cons_append] at same
      rw [List.findSome?_cons, List.findSome?_cons, same, ih later]

-- A comment that is left open is no comment.
theorem first_match_open_comment (body : List Char) (open_ : commentLength? body = none) :
    firstMatch? ('/' :: '*' :: body) = some (some .multiplicative, 1) := by
  rw [first_match_contenders, contenders_slash]
  simp [Pattern.length?, open_]

-- Where something matches, only a slash before a star can start a comment that is left open.
theorem closed_of_match (text : List Char) (kind : Option TokenKind) (size : Nat)
    (found : firstMatch? text = some (kind, size))
    (apart : kind = some .multiplicative → (text.drop size).head? ≠ some '*') : Closed text where
  comment body same := by
    subst same
    cases open_ : commentLength? body with
    | some size => rfl
    | none =>
        have same := Prod.mk.inj (Option.some.inj (found.symm.trans (first_match_open_comment body open_)))
        exact absurd (same.2 ▸ rfl) (apart same.1)
  quote body quote same known := by
    subst same
    by_contra missing
    rw [(first_match_quote quote body known).mpr missing] at found
    contradiction

def Token.shifted (offset : Nat) (token : Token) : Token :=
  { token with span := ⟨token.span.start + offset, token.span.stop + offset⟩ }

def LexicalError.shifted (offset : Nat) (fault : LexicalError) : LexicalError :=
  { fault with offset := fault.offset + offset }

namespace Tokenizer

-- The same place in a text with more behind it.
def followedBy (t : Tokenizer) (more : List Char) : Tokenizer where
  size := t.size + Text.byteLength more
  cursor := t.cursor
  rest := t.rest ++ more
  covers := by rw [Text.byte_length_append, ← Nat.add_assoc, t.covers]

-- The same place in a text with more before it.
def shifted (t : Tokenizer) (offset : Nat) : Tokenizer where
  size := t.size + offset
  cursor := t.cursor + offset
  rest := t.rest
  covers := by rw [← t.covers, Nat.add_right_comm]

theorem advance_followed (t : Tokenizer) (more : List Char) (size : Nat) (fits : size ≤ t.rest.length) :
    (t.followedBy more).advance size = (t.advance size).followedBy more := by
  simp [advance, followedBy, List.take_append_of_le_length fits, List.drop_append_of_le_length fits]

theorem advance_shifted (t : Tokenizer) (offset size : Nat) :
    (t.shifted offset).advance size = (t.advance size).shifted offset := by
  simp [advance, shifted, Nat.add_right_comm]

def shiftedResult (offset : Nat) :
    EStateM.Result LexicalError Tokenizer (Option Token) → EStateM.Result LexicalError Tokenizer (Option Token)
  | .ok next after => .ok (next.map (Token.shifted offset)) (after.shifted offset)
  | .error fault after => .error (fault.shifted offset) (after.shifted offset)

theorem scan_shifted (rounds offset : Nat) (t : Tokenizer) :
    scan rounds (t.shifted offset) = shiftedResult offset (scan rounds t) := by
  induction rounds generalizing t with
  | zero => rfl
  | succ rounds ih =>
      rw [scan, scan]
      cases unread : t.rest with
      | nil => simp [shifted, unread, shiftedResult]
      | cons c rest =>
          have same : (t.shifted offset).rest = c :: rest := unread
          simp only [same]
          cases firstMatch? (c :: rest) with
          | none => rfl
          | some found =>
              obtain ⟨kind, size⟩ := found
              cases kind with
              | none =>
                  simp only [advance_shifted]
                  exact ih (t.advance size)
              | some kind =>
                  simp only [advance_shifted]
                  rfl

theorem read_shifted (t : Tokenizer) (offset : Nat) :
    (t.shifted offset).read = shiftedResult offset t.read := by
  have left : (t.shifted offset).bytesLeft = t.bytesLeft := by
    simp only [bytes_left_eq]
    rfl
  rw [read, left]
  exact scan_shifted _ offset t

theorem size_of_scan (rounds : Nat) (t after : Tokenizer) (next : Option Token)
    (found : scan rounds t = .ok next after) : after.size = t.size := by
  induction rounds generalizing t with
  | zero =>
      injection found with _ same
      exact same ▸ rfl
  | succ rounds ih =>
      rw [scan] at found
      split at found
      · injection found with _ same
        exact same ▸ rfl
      · split at found
        · contradiction
        · rename_i size _
          exact ih (t.advance size) found
        · injection found with _ same
          exact same ▸ rfl

theorem read_fails (t : Tokenizer) (c : Char) (rest : List Char) (unread : t.rest = c :: rest)
    (missing : firstMatch? t.rest = none) : t.read = .error ⟨c, t.cursor⟩ t := by
  rw [unread] at missing
  rw [read, scan]
  simp [unread, missing]

-- At the end of the text the line break is skipped.
theorem read_at_line (b : String) (t : Tokenizer) (unread : t.rest = []) :
    (t.followedBy ('\n' :: b.toList)).read = ((ofSource b).shifted (t.size + 1)).read := by
  have behind : (t.followedBy ('\n' :: b.toList)).rest = '\n' :: b.toList := by simp [followedBy, unread]
  have place : (t.followedBy ('\n' :: b.toList)).advance 1 = (ofSource b).shifted (t.size + 1) := by
    have covers := t.covers
    simp only [unread, Text.byteLength] at covers
    simp only [advance, behind]
    simp [followedBy, shifted, ofSource, Text.byteLength, show '\n'.utf8Size = 1 from rfl]
    omega
  rw [read_blank _ '\n' b.toList behind (by decide), place]

theorem match_before_line (t : Tokenizer) (c : Char) (rest more : List Char) (unread : t.rest = c :: rest)
    (plain : Text.isBlank c = false) (kind : Option TokenKind) (size : Nat)
    (matched : firstMatch? t.rest = some (kind, size))
    (apart : kind = some .multiplicative → (t.rest.drop size).head? ≠ some '*') :
    firstMatch? (t.followedBy ('\n' :: more)).rest = some (kind, size) := by
  have closed := closed_of_match t.rest kind size matched apart
  rw [unread] at closed
  have before := first_match_before_line c rest more plain closed
  rwa [← unread, matched] at before

-- The token that is taken is the same with more behind it, if the same matches there.
theorem take_followed (t after : Tokenizer) (more : List Char) (kind : TokenKind) (size : Nat) (next : Option Token)
    (matched : firstMatch? t.rest = some (some kind, size))
    (matched' : firstMatch? (t.followedBy more).rest = some (some kind, size)) (found : t.read = .ok next after) :
    (t.followedBy more).read = .ok next (after.followedBy more) := by
  have fits := first_match_le t.rest (some kind) size matched
  rw [read_takes t kind size matched] at found
  injection found with taken place
  subst taken place
  have text : (t.followedBy more).rest.take size = t.rest.take size := by
    simp [followedBy, List.take_append_of_le_length fits]
  rw [read_takes _ kind size matched', text, advance_followed t _ size fits]
  rfl

-- Behind a text that ends before a line break, reading goes on with what follows the line break.
theorem read_before_line (b : String) (t after : Tokenizer) (next : Option Token)
    (found : t.read = .ok next after) :
    (∀ token, next = some token → (token.kind = .multiplicative → after.rest.head? ≠ some '*') →
        (t.followedBy ('\n' :: b.toList)).read = .ok (some token) (after.followedBy ('\n' :: b.toList))) ∧
      (next = none → (t.followedBy ('\n' :: b.toList)).read = ((ofSource b).shifted (t.size + 1)).read) := by
  generalize left : t.bytesLeft = n
  induction n using Nat.strongRecOn generalizing t with
  | ind n ih =>
      cases unread : t.rest with
      | nil =>
          rw [read_at_end t unread] at found
          injection found with ended _
          subst ended
          exact ⟨by simp, fun _ => read_at_line b t unread⟩
      | cons c rest =>
          by_cases white : Text.isBlank c = true
          · have shorter := bytes_left_advance t c rest 1 unread Nat.one_pos
            have fits : 1 ≤ t.rest.length := by simp [unread]
            have behind : (t.followedBy ('\n' :: b.toList)).rest = c :: (rest ++ '\n' :: b.toList) := by
              simp [followedBy, unread]
            rw [read_blank t c rest unread white] at found
            rw [read_blank _ c _ behind white, advance_followed t _ 1 fits]
            exact ih _ (left ▸ shorter) (t.advance 1) found rfl
          · cases matched : firstMatch? t.rest with
            | none =>
                rw [read_fails t c rest unread matched] at found
                contradiction
            | some front =>
                obtain ⟨kind, size⟩ := front
                have matched' := match_before_line t c rest b.toList unread (Bool.eq_false_iff.mpr white) kind size
                  matched
                cases kind with
                | none =>
                    have shorter := bytes_left_advance t c rest size unread (first_match_pos _ _ _ matched)
                    rw [read_skips t size matched] at found
                    rw [read_skips _ size (matched' (by simp)),
                      advance_followed t _ size (first_match_le t.rest none size matched)]
                    exact ih _ (left ▸ shorter) (t.advance size) found rfl
                | some kind =>
                    have taken := found
                    rw [read_takes t kind size matched] at taken
                    injection taken with token place
                    subst token place
                    refine ⟨fun token same apart => ?_, by simp⟩
                    injection same with same
                    subst same
                    have again := matched' fun multiplies => apart (Option.some.inj multiplies)
                    exact take_followed t _ _ kind size _ matched again found

-- A star is a sign of a product, alone or in an assignment.
theorem read_star (t after : Tokenizer) (next : Option Token) (star : t.rest.head? = some '*')
    (found : t.read = .ok next after) :
    ∃ token, next = some token ∧ (token.kind = .multiplicative ∨ token.kind = .complexAssign) := by
  obtain ⟨rest, unread⟩ := List.head?_eq_some_iff.mp star
  have only : contenders '*' =
      [⟨.thenEquals ['*', '/', '+', '-'], some .complexAssign⟩, ⟨.oneOf ['*', '/'], some .multiplicative⟩] :=
    rfl
  have matched : firstMatch? t.rest = some (some .complexAssign, 2) ∨ firstMatch? t.rest = some (some .multiplicative, 1) := by
    rw [unread, first_match_contenders, only]
    by_cases equals : rest.head? = some '='
    · obtain ⟨later, rfl⟩ := List.head?_eq_some_iff.mp equals
      exact .inl rfl
    · rw [List.findSome?_cons, length_of_no_equals _ rest '*' equals]
      exact .inr rfl
  rcases matched with assigns | multiplies
  · rw [read_takes t _ _ assigns] at found
    injection found with same
    exact ⟨_, same.symm, .inr rfl⟩
  · rw [read_takes t _ _ multiplies] at found
    injection found with same
    exact ⟨_, same.symm, .inl rfl⟩

-- The tokens of a text are read before a line break too, and then comes what follows the line break.
theorem reads_before_line (b : String) (multiplied last : Bool) (t source : Tokenizer) (next : Option Token)
    (u : List Token) (ended : Tokenizer) (found : t.read = .ok next source)
    (reads : Reads (next, source) u (none, ended)) (apart : signs multiplied u = some last) :
    (∀ behind after, ((ofSource b).shifted (t.size + 1)).read = .ok behind after →
        ∃ first place, (t.followedBy ('\n' :: b.toList)).read = .ok first place ∧
          Reads (first, place) u (behind, after)) ∧
      ∀ fault after, ((ofSource b).shifted (t.size + 1)).read = .error fault after →
        (u = [] ∧ (t.followedBy ('\n' :: b.toList)).read = .error fault after) ∨
          ∃ first place, (t.followedBy ('\n' :: b.toList)).read = .ok first place ∧
            Breaks (first, place) u fault := by
  generalize start : (next, source) = begun at reads
  generalize stop : ((none : Option Token), ended) = finish at reads
  induction reads generalizing t next source multiplied with
  | nothing place =>
      obtain ⟨rfl, rfl⟩ := Prod.mk.inj (start.trans stop.symm)
      have same := (read_before_line b t source none found).2 rfl
      rw [same]
      exact ⟨fun behind after read => ⟨behind, after, read, .nothing _⟩, fun fault after read => .inl ⟨rfl, read⟩⟩
  | token token source' after next' rest place continues later ih =>
      obtain ⟨rfl, rfl⟩ := Prod.mk.inj start
      have apart' : signs (token.kind == .multiplicative) rest = some last := by
        rw [signs] at apart
        split at apart
        · contradiction
        · exact apart
      -- No comment can begin at a slash here.
      have noStar : token.kind = .multiplicative → source.rest.head? ≠ some '*' := by
        intro multiplies star
        obtain ⟨token', rfl, kind⟩ := read_star source after next' star continues
        have head := head_of_reads _ _ rest later
        rw [← stop, Option.or_none] at head
        obtain ⟨others, rfl⟩ := List.head?_eq_some_iff.mp head.symm
        rw [beq_iff_eq.mpr multiplies, signs] at apart'
        rcases kind with kind | kind <;> simp [kind] at apart'
      have read := (read_before_line b t source (some token) found).1 token rfl noStar
      have size : source.size = t.size := size_of_scan _ t source (some token) found
      obtain ⟨onward, broken⟩ := ih _ source after next' continues apart' rfl stop
      rw [size] at onward broken
      constructor
      · intro behind after' read'
        obtain ⟨first, place', second, reads'⟩ := onward behind after' read'
        exact ⟨_, _, read, .token token _ place' first rest _ second reads'⟩
      · intro fault after' read'
        rcases broken fault after' read' with ⟨rfl, failed⟩ | ⟨first, place', second, breaks⟩
        · exact .inr ⟨_, _, read, .last token _ after' fault failed⟩
        · exact .inr ⟨_, _, read, .token token _ place' first rest fault second breaks⟩

def shiftedPlace (offset : Nat) (place : Option Token × Tokenizer) : Option Token × Tokenizer :=
  (place.1.map (Token.shifted offset), place.2.shifted offset)

theorem next_shifted (offset : Nat) (t after : Tokenizer) (next : Option Token) (found : t.read = .ok next after) :
    (t.shifted offset).read = .ok (next.map (Token.shifted offset)) (after.shifted offset) := by
  rw [read_shifted, found]
  rfl

theorem failure_shifted (offset : Nat) (t after : Tokenizer) (fault : LexicalError)
    (found : t.read = .error fault after) :
    (t.shifted offset).read = .error (fault.shifted offset) (after.shifted offset) := by
  rw [read_shifted, found]
  rfl

theorem reads_shifted (offset : Nat) (p q : Option Token × Tokenizer) (u : List Token) (reads : Reads p u q) :
    Reads (shiftedPlace offset p) (u.map (Token.shifted offset)) (shiftedPlace offset q) := by
  induction reads with
  | nothing place => exact .nothing _
  | token t source after next rest place found _ ih =>
      exact .token _ _ _ _ _ _ (next_shifted offset source after next found) ih

theorem breaks_shifted (offset : Nat) (p : Option Token × Tokenizer) (u : List Token) (fault : LexicalError)
    (breaks : Breaks p u fault) :
    Breaks (shiftedPlace offset p) (u.map (Token.shifted offset)) (fault.shifted offset) := by
  induction breaks with
  | last t source after fault found => exact .last _ _ _ _ (failure_shifted offset source after fault found)
  | token t source after next rest fault found _ ih =>
      exact .token _ _ _ _ _ _ (next_shifted offset source after next found) ih

theorem lexemes_shifted (offset : Nat) (u : List Token) :
    (u.map (Token.shifted offset)).map Token.lexeme = u.map Token.lexeme := by
  rw [List.map_map]
  rfl

end Tokenizer

end ScriptFront
