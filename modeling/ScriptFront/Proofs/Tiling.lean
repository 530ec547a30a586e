import ScriptFront.Proofs.Seam

set_option autoImplicit false

/-! The tokens of a source and the white space and comments between them cover it, each piece once and
where it stands: a token has the text between the two offsets of its span. -/

namespace ScriptFront

-- What is left of a source behind its first bytes, which end where a character does.
def RestAt (source : String) (offset : Nat) (rest : List Char) : Prop :=
  ∃ before, source.toList = before ++ rest ∧ Text.byteLength before = offset

-- A text between two offsets of a source, which the first rule of the lexicon that matches there takes.
def Matched (source : String) (kind : Option TokenKind) (start stop : Nat) (text : List Char) : Prop :=
  ∃ rest, RestAt source start (text ++ rest) ∧ RestAt source stop rest ∧
    firstMatch? (text ++ rest) = some (kind, text.length)

-- White space, a comment up to the end of its line, or one that ends with the first `*/` in it.
inductive Skipped : List Char → Prop where
  | blanks (text : List Char) : text ≠ [] → text.all Text.isBlank = true → Skipped text
  | lineComment (body : List Char) : '\n' ∉ body → Skipped ('/' :: '/' :: body)
  | blockComment (body : List Char) :
      ¬ ['*', '/'] <:+: body ++ ['*'] → Skipped ('/' :: '*' :: (body ++ ['*', '/']))

-- Skipped pieces, one right behind the other.
inductive Skips (source : String) : Nat → Nat → Prop where
  | nothing (place : Nat) : Skips source place place
  | piece (start middle stop : Nat) (text : List Char) :
      Matched source none start middle text → Skipped text → Skips source middle stop → Skips source start stop

-- Tokens, with skipped pieces and nothing else before, between and behind them.
inductive Tiles (source : String) : Nat → List Token → Nat → Prop where
  | last (start stop : Nat) : Skips source start stop → Tiles source start [] stop
  | token (start stop : Nat) (token : Token) (rest : List Token) :
      Skips source start token.span.start →
      Matched source (some token.kind) token.span.start token.span.stop token.text.toList →
      Tiles source token.span.stop rest stop → Tiles source start (token :: rest) stop

-- The tokens cover a source up to an offset. None is empty, each stands where its span says, and their
-- spans come one behind the other.
structure Tiled (source : String) (tokens : List Token) (stop : Nat) : Prop where
  pieces : Tiles source 0 tokens stop
  matched : ∀ token ∈ tokens, token.text ≠ "" ∧ token.span.start < token.span.stop ∧
    Matched source (some token.kind) token.span.start token.span.stop token.text.toList
  ordered : tokens.Pairwise fun earlier later => earlier.span.stop ≤ later.span.start

-- What is found at the front of the rest of a source stands there.
theorem matched_of_front (source : String) (kind : Option TokenKind) (place : Nat) (text rest : List Char)
    (here : RestAt source place (text ++ rest)) (found : firstMatch? (text ++ rest) = some (kind, text.length)) :
    Matched source kind place (place + Text.byteLength text) text := by
  obtain ⟨before, whole, length⟩ := id here
  refine ⟨rest, here, ⟨before ++ text, ?_, ?_⟩, found⟩
  · rw [whole, List.append_assoc]
  · rw [Text.byte_length_append, length]

-- The offsets of a match are as far apart as it is long.
theorem stop_of_matched (source : String) (kind : Option TokenKind) (start stop : Nat) (text : List Char)
    (matched : Matched source kind start stop text) : stop = start + Text.byteLength text := by
  obtain ⟨rest, ⟨before, whole, first⟩, ⟨before', whole', last⟩, _⟩ := matched
  have parts : before' = before ++ text := by
    rw [whole, ← List.append_assoc] at whole'
    exact (List.append_cancel_right whole').symm
  rw [← last, parts, Text.byte_length_append, first]

-- No match is empty.
theorem size_of_matched (source : String) (kind : Option TokenKind) (start stop : Nat) (text : List Char)
    (matched : Matched source kind start stop text) : text ≠ [] ∧ start < stop := by
  have last := stop_of_matched source kind start stop text matched
  obtain ⟨rest, _, _, found⟩ := matched
  have some := first_match_pos _ _ _ found
  cases text with
  | nil => contradiction
  | cons c text =>
      have wide := c.utf8Size_pos
      rw [Text.byteLength] at last
      exact ⟨List.cons_ne_nil c text, by omega⟩

theorem skips_le (source : String) (start stop : Nat) (skips : Skips source start stop) : start ≤ stop := by
  induction skips with
  | nothing place => exact Nat.le_refl place
  | piece start middle stop text matched _ _ ih =>
      have moves := (size_of_matched source none start middle text matched).2
      omega

theorem tiles_start (source : String) (start stop : Nat) (tokens : List Token)
    (tiles : Tiles source start tokens stop) : ∀ token ∈ tokens, start ≤ token.span.start := by
  induction tiles with
  | last start stop skips => simp
  | token start stop token rest skips matched _ ih =>
      intro other member
      have first := skips_le source start token.span.start skips
      rcases List.mem_cons.mp member with rfl | later
      · exact first
      · have moves := (size_of_matched source _ _ _ _ matched).2
        have behind := ih other later
        omega

theorem tiles_matched (source : String) (start stop : Nat) (tokens : List Token)
    (tiles : Tiles source start tokens stop) :
    ∀ token ∈ tokens, Matched source (some token.kind) token.span.start token.span.stop token.text.toList := by
  induction tiles with
  | last start stop skips => simp
  | token start stop token rest skips matched _ ih => exact List.forall_mem_cons.mpr ⟨matched, ih⟩

theorem tiles_ordered (source : String) (start stop : Nat) (tokens : List Token)
    (tiles : Tiles source start tokens stop) :
    tokens.Pairwise fun earlier later => earlier.span.stop ≤ later.span.start := by
  induction tiles with
  | last start stop skips => exact .nil
  | token start stop token rest skips matched later ih =>
      exact .cons (tiles_start source token.span.stop stop rest later) ih

theorem tiled_of_tiles (source : String) (tokens : List Token) (stop : Nat)
    (tiles : Tiles source 0 tokens stop) : Tiled source tokens stop where
  pieces := tiles
  matched token member := by
    have matched := tiles_matched source 0 stop tokens tiles token member
    obtain ⟨some, moves⟩ := size_of_matched source _ _ _ _ matched
    exact ⟨fun empty => some (by rw [empty]; rfl), moves, matched⟩
  ordered := tiles_ordered source 0 stop tokens tiles

theorem comment_of_length (text : List Char) (size : Nat) (found : commentLength? text = some size) :
    ∃ body, text.take size = body ++ ['*', '/'] ∧ ¬ ['*', '/'] <:+: body ++ ['*'] := by
  fun_induction commentLength? text generalizing size with
  | case1 => contradiction
  | case2 rest =>
      injection found with same
      exact ⟨[], by rw [← same]; rfl, by decide⟩
  | case3 c rest opens ih =>
      obtain ⟨count, inside, rfl⟩ := Option.map_eq_some_iff.mp found
      obtain ⟨body, taken, unclosed⟩ := ih count inside
      refine ⟨c :: body, by rw [List.take_succ_cons, taken]; rfl, fun closed => ?_⟩
      rw [List.cons_append] at closed
      rcases List.infix_cons_iff.mp closed with front | inside'
      · -- The first two characters would close the comment.
        obtain ⟨rfl, next⟩ := List.cons_prefix_cons.mp front
        cases body with
        | nil => exact absurd next (by decide)
        | cons d body =>
            obtain ⟨rfl, _⟩ := List.cons_prefix_cons.mp next
            cases rest with
            | nil => simp at taken
            | cons e rest =>
                cases count with
                | zero => simp at taken
                | succ count =>
                    injection taken with same
                    exact opens rest rfl (by rw [same])
      · exact unclosed inside'

theorem taken_line_comment (text : List Char) (size : Nat) (found : Pattern.lineComment.length? text = some size) :
    ∃ body, text.take size = '/' :: '/' :: body ∧ '\n' ∉ body := by
  unfold Pattern.length? at found
  split at found <;> try contradiction
  rename_i rest _
  injection found with same
  refine ⟨rest.takeWhile (· != '\n'), ?_, fun inside => ?_⟩
  · rw [← same, List.take_succ_cons, List.take_succ_cons,
      ← List.prefix_iff_eq_take.mp (List.takeWhile_prefix (· != '\n'))]
  · have other := List.all_eq_true.mp (List.all_takeWhile (p := (· != '\n')) (l := rest)) _ inside
    contradiction

theorem taken_block_comment (text : List Char) (size : Nat) (found : Pattern.blockComment.length? text = some size) :
    ∃ body, text.take size = '/' :: '*' :: (body ++ ['*', '/']) ∧ ¬ ['*', '/'] <:+: body ++ ['*'] := by
  unfold Pattern.length? at found
  split at found <;> try contradiction
  rename_i rest _
  obtain ⟨count, inside, rfl⟩ := Option.map_eq_some_iff.mp found
  obtain ⟨body, taken, unclosed⟩ := comment_of_length rest count inside
  exact ⟨body, by rw [List.take_succ_cons, List.take_succ_cons, taken], unclosed⟩

-- What has no kind is white space or a comment.
theorem skipped_of_first_match (text : List Char) (size : Nat) (found : firstMatch? text = some (none, size)) :
    Skipped (text.take size) := by
  have table : ∃ others, lexicon =
      [⟨.run Text.isBlank, none⟩, ⟨.lineComment, none⟩, ⟨.blockComment, none⟩] ++ others ∧
        others.all (·.kind.isSome) = true := ⟨_, rfl, by decide⟩
  obtain ⟨others, table, kinds⟩ := table
  obtain ⟨rule, member, matched⟩ := List.exists_of_findSome?_eq_some found
  obtain ⟨count, length, same⟩ := Option.map_eq_some_iff.mp matched
  obtain ⟨kind, rfl⟩ := Prod.mk.inj same
  rw [table, List.mem_append] at member
  rcases member with skips | other
  · simp only [List.mem_cons, List.not_mem_nil, or_false] at skips
    rcases skips with rfl | rfl | rfl
    · obtain ⟨taken, some⟩ := taken_run _ text count length
      exact taken ▸ .blanks _ some List.all_takeWhile
    · obtain ⟨body, taken, single⟩ := taken_line_comment text count length
      exact taken ▸ .lineComment body single
    · obtain ⟨body, taken, unclosed⟩ := taken_block_comment text count length
      exact taken ▸ .blockComment body unclosed
  · have some := List.all_eq_true.mp kinds rule other
    rw [kind] at some
    contradiction

namespace Tokenizer

-- A reading by what the lexicon finds at the front, again and again behind what is skipped.
theorem read_induct (motive : Tokenizer → EStateM.Result LexicalError Tokenizer (Option Token) → Prop)
    (atEnd : ∀ t : Tokenizer, t.rest = [] → motive t (.ok none t))
    (fails : ∀ (t : Tokenizer) (c : Char) (rest : List Char), t.rest = c :: rest →
      firstMatch? t.rest = none → motive t (.error ⟨c, t.cursor⟩ t))
    (takes : ∀ (t : Tokenizer) (kind : TokenKind) (size : Nat), firstMatch? t.rest = some (some kind, size) →
      motive t (.ok (some ⟨kind, String.ofList (t.rest.take size), ⟨t.cursor, (t.advance size).cursor⟩⟩)
        (t.advance size)))
    (skips : ∀ (t : Tokenizer) (size : Nat), firstMatch? t.rest = some (none, size) →
      motive (t.advance size) (t.advance size).read → motive t (t.advance size).read)
    (t : Tokenizer) : motive t t.read := by
  generalize left : t.bytesLeft = n
  induction n using Nat.strongRecOn generalizing t with
  | ind n ih =>
      cases unread : t.rest with
      | nil => exact t.read_at_end unread ▸ atEnd t unread
      | cons c rest =>
          cases matched : firstMatch? t.rest with
          | none => exact t.read_fails c rest unread matched ▸ fails t c rest unread matched
          | some found =>
              obtain ⟨kind, size⟩ := found
              cases kind with
              | none =>
                  have shorter := bytes_left_advance t c rest size unread (first_match_pos _ _ _ matched)
                  exact t.read_skips size matched ▸ skips t size matched (ih _ (left ▸ shorter) _ rfl)
              | some kind => exact t.read_takes kind size matched ▸ takes t kind size matched

-- Where a tokenizer stands in a source.
def Inside (source : String) (t : Tokenizer) : Prop :=
  RestAt source t.cursor t.rest

theorem inside_of_source (source : String) : (ofSource source).Inside source :=
  ⟨[], rfl, rfl⟩

theorem size_of_inside (source : String) (t : Tokenizer) (inside : t.Inside source) :
    t.size = Text.byteLength source.toList := by
  obtain ⟨before, whole, length⟩ := inside
  rw [whole, Text.byte_length_append, length, t.covers]

theorem inside_advance (source : String) (t : Tokenizer) (count : Nat) (inside : t.Inside source) :
    (t.advance count).Inside source := by
  obtain ⟨before, whole, length⟩ := inside
  refine ⟨before ++ t.rest.take count, ?_, ?_⟩
  · rw [List.append_assoc, advance, List.take_append_drop, whole]
  · rw [Text.byte_length_append, length, advance]

theorem inside_finish (source : String) (t : Tokenizer) (inside : t.Inside source) :
    t.finish.Inside source :=
  ⟨source.toList, by simp [finish], (size_of_inside source t inside).symm⟩

-- What the lexicon finds at the front stands there.
theorem matched_at_front (source : String) (t : Tokenizer) (kind : Option TokenKind) (size : Nat)
    (inside : t.Inside source) (found : firstMatch? t.rest = some (kind, size)) :
    Matched source kind t.cursor (t.advance size).cursor (t.rest.take size) := by
  have fits := first_match_le t.rest kind size found
  apply matched_of_front source kind t.cursor (t.rest.take size) (t.rest.drop size)
  · rwa [List.take_append_drop]
  · rw [List.take_append_drop, found, List.length_take, Nat.min_eq_left fits]

-- What a reading goes over: skipped pieces up to the end, up to a token, or up to where nothing matches.
def Covers (source : String) (t : Tokenizer) : EStateM.Result LexicalError Tokenizer (Option Token) → Prop
  | .ok none after => Skips source t.cursor after.cursor ∧ after.rest = [] ∧ after.Inside source
  | .ok (some token) after =>
      Skips source t.cursor token.span.start ∧ token.span.stop = after.cursor ∧ after.Inside source ∧
        Matched source (some token.kind) token.span.start token.span.stop token.text.toList
  | .error fault after => Skips source t.cursor fault.offset ∧ fault.offset = after.cursor ∧ after.Inside source

theorem covers_read (source : String) (t : Tokenizer) (inside : t.Inside source) : t.Covers source t.read := by
  induction t using read_induct with
  | atEnd t nothing => exact ⟨.nothing _, nothing, inside⟩
  | fails t c rest unread missing => exact ⟨.nothing _, rfl, inside⟩
  | takes t kind size found =>
      have matched := matched_at_front source t (some kind) size inside found
      refine ⟨.nothing _, rfl, inside_advance source t size inside, ?_⟩
      rwa [String.toList_ofList]
  | skips t size found ih =>
      have matched := matched_at_front source t none size inside found
      have covers := ih (inside_advance source t size inside)
      have first (place : Nat) (behind : Skips source (t.advance size).cursor place) : Skips source t.cursor place :=
        .piece _ _ _ _ matched (skipped_of_first_match t.rest size found) behind
      generalize (t.advance size).read = result at covers
      cases result with
      | ok next after =>
          cases next with
          | none => exact ⟨first _ covers.1, covers.2⟩
          | some token => exact ⟨first _ covers.1, covers.2⟩
      | error fault after => exact ⟨first _ covers.1, covers.2⟩

-- The tokens that are left, one reading after the other.
theorem tokens_induct (motive : Tokenizer → Prop)
    (ends : ∀ t after : Tokenizer, t.read = .ok none after → motive t)
    (fails : ∀ (t after : Tokenizer) (fault : LexicalError), t.read = .error fault after → motive t)
    (takes : ∀ (t after : Tokenizer) (token : Token), t.read = .ok (some token) after → motive after → motive t)
    (t : Tokenizer) : motive t := by
  generalize left : t.bytesLeft = n
  induction n using Nat.strongRecOn generalizing t with
  | ind n ih =>
      cases found : t.read with
      | error fault after => exact fails t after fault found
      | ok next after =>
          cases next with
          | none => exact ends t after found
          | some token => exact takes t after token found (ih _ (left ▸ bytes_left_read t after token found) after rfl)

-- The tokens that are left before the first lexical error.
def leading (t : Tokenizer) : List Token :=
  leadingFrom (t.bytesLeft + 1) t

theorem leading_from_enough (rounds more : Nat) (t : Tokenizer) (enough : t.bytesLeft < rounds)
    (enough' : t.bytesLeft < more) : leadingFrom rounds t = leadingFrom more t := by
  induction rounds generalizing more t with
  | zero => omega
  | succ rounds ih =>
      cases more with
      | zero => omega
      | succ more =>
          rw [leadingFrom, leadingFrom]
          split
          · rename_i token after found
            have shorter := bytes_left_read t after token found
            rw [ih more after (by omega) (by omega)]
          · rfl
          · rfl

theorem leading_of_end (t after : Tokenizer) (found : t.read = .ok none after) : t.leading = [] := by
  rw [leading, leadingFrom, found]

theorem leading_of_error (t after : Tokenizer) (fault : LexicalError) (found : t.read = .error fault after) :
    t.leading = [] := by
  rw [leading, leadingFrom, found]

theorem leading_of_token (t after : Tokenizer) (token : Token) (found : t.read = .ok (some token) after) :
    t.leading = token :: after.leading := by
  have shorter := bytes_left_read t after token found
  rw [leading, leadingFrom, found]
  exact congrArg (token :: ·) (leading_from_enough _ _ _ shorter (Nat.lt_succ_self _))

-- The tokens that are left cover what is left, up to the end or to the first lexical error.
theorem tiles_left (source : String) (t : Tokenizer) (inside : t.Inside source) :
    (∀ tokens, t.tokens = .ok tokens → Tiles source t.cursor tokens (Text.byteLength source.toList)) ∧
      ∀ fault, t.tokens = .error fault → Tiles source t.cursor t.leading fault.offset := by
  induction t using tokens_induct with
  | ends t after found =>
      have covers := covers_read source t inside
      rw [found] at covers
      obtain ⟨skips, nothing, behind⟩ := covers
      have atEnd : after.cursor = Text.byteLength source.toList := by
        rw [← size_of_inside source after behind, ← after.covers, nothing, Text.byteLength, Nat.add_zero]
      rw [tokens_of_end t after found]
      refine ⟨fun tokens same => ?_, nofun⟩
      injection same with same
      exact same ▸ .last _ _ (atEnd ▸ skips)
  | fails t after fault found =>
      have covers := covers_read source t inside
      rw [found] at covers
      rw [tokens_of_error t after fault found, leading_of_error t after fault found]
      refine ⟨nofun, fun fault' same => ?_⟩
      injection same with same
      exact same ▸ .last _ _ covers.1
  | takes t after token found ih =>
      have covers := covers_read source t inside
      rw [found] at covers
      obtain ⟨skips, stop, behind, matched⟩ := covers
      obtain ⟨whole, broken⟩ := ih behind
      rw [← stop] at whole broken
      rw [tokens_of_token t after token found, leading_of_token t after token found]
      cases later : after.tokens with
      | ok rest =>
          refine ⟨fun tokens same => ?_, nofun⟩
          injection same with same
          exact same ▸ .token _ _ token rest skips matched (whole rest later)
      | error fault =>
          refine ⟨nofun, fun fault' same => ?_⟩
          injection same with same
          exact same ▸ .token _ _ token _ skips matched (broken fault later)

theorem next_finish (t : Tokenizer) : t.finish.next = (none, t.finish) := by
  rw [next, read_at_end t.finish rfl]

-- The iterator gives the tokens up to the first lexical error, and then the error.
theorem drain_eq (rounds : Nat) (t : Tokenizer) (enough : t.bytesLeft < rounds) :
    (drain rounds t).1 = t.leading.map .ok ++
      match t.tokens with
      | .ok _ => []
      | .error fault => [.error fault] := by
  induction rounds generalizing t with
  | zero => omega
  | succ rounds ih =>
      cases found : t.read with
      | error fault after =>
          have ended : (drain rounds after.finish).1 = [] := by
            cases rounds with
            | zero => rfl
            | succ rounds => rw [drain, next_finish]
          rw [drain, next, found, tokens_of_error t after fault found, leading_of_error t after fault found]
          simp [ended]
      | ok token after =>
          cases token with
          | none =>
              rw [drain, next, found, tokens_of_end t after found, leading_of_end t after found]
              rfl
          | some token =>
              have shorter := bytes_left_read t after token found
              rw [drain, next, found, tokens_of_token t after token found, leading_of_token t after token found]
              simp only [ih after (by omega), List.map_cons, List.cons_append]
              cases after.tokens <;> rfl

end Tokenizer

-- A source that can be cut is covered by its tokens, and any other by those that the iterator gives before
-- the error, up to the offset of the error.
theorem tokens_tile_source (source : String) :
    (∀ tokens, tokenize source = .ok tokens → Tiled source tokens (Text.byteLength source.toList)) ∧
      ∀ fault, tokenize source = .error fault → ∃ tokens,
        (Tokenizer.ofSource source).remaining.1 = tokens.map .ok ++ [.error fault] ∧
          Tiled source tokens fault.offset := by
  obtain ⟨whole, broken⟩ := Tokenizer.tiles_left source (.ofSource source) (Tokenizer.inside_of_source source)
  refine ⟨fun tokens found => tiled_of_tiles source tokens _ (whole tokens found), fun fault found => ?_⟩
  refine ⟨(Tokenizer.ofSource source).leading, ?_, tiled_of_tiles source _ _ (broken fault found)⟩
  rw [Tokenizer.remaining, Tokenizer.drain_eq _ _ (Nat.lt_succ_self _),
    show (Tokenizer.ofSource source).tokens = .error fault from found]

-- Characters of two bytes in comments and strings, and a text that nothing matches behind such.
theorem tokens_tile_source_at_wide :
    (∃ tokens, tokenize "x /*é*/ = 'ü';" = .ok tokens ∧ Tiled "x /*é*/ = 'ü';" tokens 16) ∧
      ∃ tokens, tokenize "a // é\n'ß' @ b" = .error ⟨'@', 13⟩ ∧
        (Tokenizer.ofSource "a // é\n'ß' @ b").remaining.1 = tokens.map .ok ++ [.error ⟨'@', 13⟩] ∧
        Tiled "a // é\n'ß' @ b" tokens 13 := by
  constructor
  · obtain ⟨tokens, found⟩ := exists_of_is_ok (tokenize "x /*é*/ = 'ü';") (by decide +kernel)
    exact ⟨tokens, found, (tokens_tile_source _).1 tokens found⟩
  · have found : tokenize "a // é\n'ß' @ b" = .error ⟨'@', 13⟩ := by decide +kernel
    obtain ⟨tokens, before, tiled⟩ := (tokens_tile_source _).2 _ found
    exact ⟨tokens, found, before, tiled⟩

end ScriptFront
