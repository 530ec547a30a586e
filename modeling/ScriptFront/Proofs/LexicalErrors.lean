import Mathlib.Logic.Relation
import ScriptFront.Proofs.Tiling

set_option autoImplicit false

/-! Where a text cannot be cut into tokens. Some rule of the lexicon matches at every character but half
an operator, a quote that nothing closes and characters that are in no lexeme but a string; so the scan
gets as far as the first of these that it comes to, and says which one it is. -/

namespace ScriptFront

-- The characters of marks and operators with which a lexeme begins whatever comes behind them.
def starterSigns : List Char :=
  [';', '{', '}', '(', ')', ',', '.', '[', ']', '=', '!', '*', '/', '+', '-', '>', '<']

def isStarter (c : Char) : Bool :=
  Text.isBlank c || isNameChar c || starterSigns.contains c

-- The characters with which a lexeme begins only before some texts.
def pairedSigns : List Char :=
  ['&', '|', '"', '\x27']

-- No lexeme begins with a character before a text.
inductive BeginsNothing : Char → List Char → Prop where
  | ampersand (rest : List Char) : rest.head? ≠ some '&' → BeginsNothing '&' rest
  | bar (rest : List Char) : rest.head? ≠ some '|' → BeginsNothing '|' rest
  | openQuote (quote : Char) (rest : List Char) :
      quote = '"' ∨ quote = '\x27' → quote ∉ rest → BeginsNothing quote rest
  | foreign (c : Char) (rest : List Char) : isStarter c = false → c ∉ pairedSigns → BeginsNothing c rest

-- Patterns that match wherever they start.
def Pattern.isSure : Pattern → Bool
  | .run _ | .oneOf _ | .maybeEquals _ => true
  | .exactly spelling => spelling.length == 1
  | _ => false

theorem length_of_starts (pattern : Pattern) (c : Char) (rest : List Char) (sure : pattern.isSure = true)
    (starts : pattern.starts c = true) : ∃ size, pattern.length? (c :: rest) = some size := by
  cases pattern with
  | run accepts =>
      have accepted : accepts c = true := starts
      exact ⟨_, by rw [Pattern.length?, List.takeWhile_cons_of_pos accepted]; rfl⟩
  | oneOf choices => exact ⟨_, if_pos starts⟩
  | maybeEquals choices => exact ⟨_, if_pos starts⟩
  | exactly spelling =>
      obtain ⟨d, rfl⟩ := List.length_eq_one_iff.mp (beq_iff_eq.mp sure)
      have same : d = c := by simpa [Pattern.starts] using starts
      exact ⟨1, by simp [Pattern.length?, same]⟩
  | lineComment | blockComment | word spelling | thenEquals choices | quoted quote => contradiction

theorem first_match_of_mem (rule : Rule) (text : List Char) (size : Nat) (member : rule ∈ lexicon)
    (hit : rule.pattern.length? text = some size) : firstMatch? text ≠ none := by
  intro nothing
  have missed := List.findSome?_eq_none_iff.mp nothing rule member
  rw [hit] at missed
  contradiction

-- A starter that is no white space is a character of ASCII.
theorem starter_narrow (c : Char) (starter : isStarter c = true) : Text.isBlank c = true ∨ c.toNat < 0x80 := by
  simp only [isStarter, Bool.or_eq_true, List.contains_iff_mem] at starter
  rcases starter with (blank | name) | sign
  · exact .inl blank
  · exact .inr (name_char_narrow c name)
  · have narrow : starterSigns.all (fun c => decide (c.toNat < 0x80)) = true := by decide
    exact .inr (of_decide_eq_true (List.all_eq_true.mp narrow c sign))

theorem first_match_starter (c : Char) (rest : List Char) (starter : isStarter c = true) :
    firstMatch? (c :: rest) ≠ none := by
  have sure : ∃ rule ∈ lexicon, rule.pattern.isSure = true ∧ rule.pattern.starts c = true := by
    rcases starter_narrow c starter with blank | narrow
    · exact ⟨⟨.run Text.isBlank, none⟩, .head _, rfl, blank⟩
    · have known := of_narrow
        (fun c => !isStarter c || lexicon.any fun rule => rule.pattern.isSure && rule.pattern.starts c)
        (by decide +kernel) c narrow
      simpa [starter] using known
  obtain ⟨rule, member, sure, starts⟩ := sure
  obtain ⟨size, hit⟩ := length_of_starts rule.pattern c rest sure starts
  exact first_match_of_mem rule _ size member hit

-- All characters with which a pattern starts are starters or paired.
theorem lexicon_starts_known (rule : Rule) (member : rule ∈ lexicon) (c : Char)
    (starts : rule.pattern.starts c = true) : isStarter c = true ∨ c ∈ pairedSigns := by
  rcases lexicon_starts rule member c starts with blank | narrow
  · exact .inl (by simp [isStarter, blank])
  · have known := of_narrow
      (fun c => isStarter c || pairedSigns.contains c || lexicon.all fun rule => !rule.pattern.starts c)
      (by decide +kernel) c narrow
    simp only [Bool.or_eq_true, List.contains_iff_mem, List.all_eq_true, Bool.not_eq_true'] at known
    rcases known with known | none
    · exact known
    · exact absurd starts (by simp [none rule member])

-- Of a doubled sign both characters are needed.
theorem first_match_doubled (c : Char) (rest : List Char) (doubled : c = '&' ∨ c = '|') :
    firstMatch? (c :: rest) = none ↔ rest.head? ≠ some c := by
  have only : ∃ kind, contenders c = [⟨.exactly [c, c], kind⟩] := by
    rcases doubled with rfl | rfl <;> exact ⟨_, rfl⟩
  obtain ⟨kind, only⟩ := only
  rw [first_match_contenders, only]
  cases rest with
  | nil => simp [Pattern.length?]
  | cons d rest =>
      by_cases same : c = d
      · simp [Pattern.length?, same]
      · simp [Pattern.length?, same, Ne.symm same]

theorem first_match_none_iff (c : Char) (rest : List Char) :
    firstMatch? (c :: rest) = none ↔ BeginsNothing c rest := by
  constructor
  · intro nothing
    have other : isStarter c = false := Bool.eq_false_iff.mpr fun starter => first_match_starter c rest starter nothing
    by_cases paired : c ∈ pairedSigns
    · simp only [pairedSigns, List.mem_cons, List.not_mem_nil, or_false] at paired
      rcases paired with rfl | rfl | quote
      · exact .ampersand rest ((first_match_doubled '&' rest (.inl rfl)).mp nothing)
      · exact .bar rest ((first_match_doubled '|' rest (.inr rfl)).mp nothing)
      · exact .openQuote c rest quote ((first_match_quote c rest quote).mp nothing)
    · exact .foreign c rest other paired
  · intro begins
    cases begins with
    | ampersand _ single => exact (first_match_doubled '&' rest (.inl rfl)).mpr single
    | bar _ single => exact (first_match_doubled '|' rest (.inr rfl)).mpr single
    | openQuote _ _ quote outside => exact (first_match_quote c rest quote).mpr outside
    | foreign _ _ other unpaired =>
        apply List.findSome?_eq_none_iff.mpr
        intro rule member
        rw [Option.map_eq_none_iff]
        apply length_none_of_not_starts
        apply Bool.eq_false_iff.mpr
        intro starts
        rcases lexicon_starts_known rule member c starts with starter | paired
        · exact absurd starter (by simp [other])
        · exact unpaired paired

-- Only one text is left behind a place, and only one piece stands there.

theorem rest_at_unique (source : String) (place : Nat) (rest rest' : List Char) (first : RestAt source place rest)
    (second : RestAt source place rest') : rest = rest' := by
  obtain ⟨before, whole, length⟩ := first
  obtain ⟨before', whole', length'⟩ := second
  rw [whole] at whole'
  have shorter (a b u v : List Char) (same : a ++ u = b ++ v) (long : Text.byteLength a = Text.byteLength b)
      (inside : a.length ≤ b.length) : u = v := by
    obtain ⟨more, rfl⟩ := List.prefix_of_prefix_length_le ⟨u, same⟩ (List.prefix_append b v) inside
    rw [Text.byte_length_append] at long
    cases more with
    | nil => simpa using same
    | cons c more =>
        have wide := c.utf8Size_pos
        simp only [Text.byteLength] at long
        omega
  rcases Nat.le_total before.length before'.length with le | le
  · exact shorter before before' rest rest' whole' (length.trans length'.symm) le
  · exact (shorter before' before rest' rest whole'.symm (length'.trans length.symm) le).symm

-- One piece is taken between two places.
def Goes (source : String) (start stop : Nat) : Prop :=
  ∃ kind text, Matched source kind start stop text

-- The scan comes from the start of a source to a place.
def Reached (source : String) (place : Nat) : Prop :=
  Relation.ReflTransGen (Goes source) 0 place

-- The scan comes to a character with which no lexeme begins.
def Stuck (source : String) (place : Nat) (c : Char) : Prop :=
  Reached source place ∧ ∃ rest, RestAt source place (c :: rest) ∧ BeginsNothing c rest

theorem goes_unique (source : String) : Relator.RightUnique (Goes source) := by
  rintro start stop stop' ⟨kind, text, matched⟩ ⟨kind', text', matched'⟩
  rw [stop_of_matched source kind start stop text matched, stop_of_matched source kind' start stop' text' matched']
  obtain ⟨rest, here, _, found⟩ := matched
  obtain ⟨rest', here', _, found'⟩ := matched'
  have same := rest_at_unique source start _ _ here here'
  rw [same, found'] at found
  obtain ⟨_, size⟩ := Prod.mk.inj (Option.some.inj found)
  rw [(List.append_inj same size.symm).1]

-- The scan comes to no second place from which it does not go on.
theorem reached_unique (source : String) (place place' : Nat) (reached : Reached source place)
    (reached' : Reached source place') (halts : ∀ stop, ¬ Goes source place stop)
    (halts' : ∀ stop, ¬ Goes source place' stop) : place = place' := by
  rcases Relation.ReflTransGen.total_of_right_unique (goes_unique source) reached reached' with on | on
  · exact on.cases_head.elim id fun ⟨stop, goes, _⟩ => absurd goes (halts stop)
  · exact (on.cases_head.elim id fun ⟨stop, goes, _⟩ => absurd goes (halts' stop)).symm

-- A piece stands exactly where a character begins a lexeme.
theorem matched_iff (source : String) (place : Nat) (c : Char) (rest : List Char)
    (here : RestAt source place (c :: rest)) :
    (∃ kind stop text, Matched source kind place stop text) ↔ ¬ BeginsNothing c rest := by
  rw [← first_match_none_iff]
  constructor
  · rintro ⟨kind, stop, text, behind, here', _, found⟩ nothing
    rw [rest_at_unique source place _ _ here' here, nothing] at found
    contradiction
  · intro something
    obtain ⟨⟨kind, size⟩, found⟩ := Option.ne_none_iff_exists'.mp something
    have fits := first_match_le (c :: rest) kind size found
    refine ⟨kind, _, _, matched_of_front source kind place ((c :: rest).take size) ((c :: rest).drop size) ?_ ?_⟩
    · rwa [List.take_append_drop]
    · rw [List.take_append_drop, found, List.length_take, Nat.min_eq_left fits]

theorem stuck_halts (source : String) (place : Nat) (c : Char) (stuck : Stuck source place c) (stop : Nat) :
    ¬ Goes source place stop := by
  rintro ⟨kind, text, matched⟩
  obtain ⟨_, rest, here, nothing⟩ := stuck
  exact (matched_iff source place c rest here).mp ⟨kind, stop, text, matched⟩ nothing

theorem end_halts (source : String) (stop : Nat) : ¬ Goes source (Text.byteLength source.toList) stop := by
  rintro ⟨kind, text, matched⟩
  obtain ⟨some, _⟩ := size_of_matched source kind _ stop text matched
  obtain ⟨rest, here, _, _⟩ := matched
  have nothing := rest_at_unique source _ _ [] here ⟨source.toList, (List.append_nil _).symm, rfl⟩
  exact some (List.append_eq_nil_iff.mp nothing).1

-- Tokens and what is skipped between them are the pieces of the scan.

theorem goes_of_skips (source : String) (start stop : Nat) (skips : Skips source start stop) :
    Relation.ReflTransGen (Goes source) start stop := by
  induction skips with
  | nothing place => exact .refl
  | piece start middle stop text matched _ _ ih => exact .head ⟨none, text, matched⟩ ih

theorem goes_of_tiles (source : String) (start stop : Nat) (tokens : List Token)
    (tiles : Tiles source start tokens stop) : Relation.ReflTransGen (Goes source) start stop := by
  induction tiles with
  | last start stop skips => exact goes_of_skips source start stop skips
  | token start stop token rest skips matched _ ih =>
      exact (goes_of_skips source start token.span.start skips).trans (.head ⟨_, _, matched⟩ ih)

-- A reading that fails stops before a character with which no lexeme begins.
theorem begins_nothing_of_read (source : String) (t after : Tokenizer) (fault : LexicalError)
    (inside : t.Inside source) (found : t.read = .error fault after) :
    ∃ rest, RestAt source fault.offset (fault.character :: rest) ∧ BeginsNothing fault.character rest := by
  induction t using Tokenizer.read_induct with
  | atEnd t nothing => contradiction
  | fails t c rest unread nothing =>
      injection found with same
      rw [Tokenizer.Inside, unread] at inside
      rw [unread] at nothing
      exact same ▸ ⟨rest, inside, (first_match_none_iff c rest).mp nothing⟩
  | takes t kind size matched => contradiction
  | skips t size matched ih => exact ih (Tokenizer.inside_advance source t size inside) found

theorem begins_nothing_of_tokens (source : String) (t : Tokenizer) (fault : LexicalError)
    (inside : t.Inside source) (found : t.tokens = .error fault) :
    ∃ rest, RestAt source fault.offset (fault.character :: rest) ∧ BeginsNothing fault.character rest := by
  induction t using Tokenizer.tokens_induct with
  | ends t after read =>
      rw [Tokenizer.tokens_of_end t after read] at found
      contradiction
  | fails t after fault' read =>
      rw [Tokenizer.tokens_of_error t after fault' read] at found
      injection found with same
      exact same ▸ begins_nothing_of_read source t after fault' inside read
  | takes t after token read ih =>
      have covers := Tokenizer.covers_read source t inside
      rw [read] at covers
      rw [Tokenizer.tokens_of_token t after token read] at found
      cases later : after.tokens with
      | ok rest =>
          rw [later] at found
          contradiction
      | error fault' =>
          rw [later] at found
          injection found with same
          exact ih covers.2.2.1 (same ▸ later)

theorem stuck_of_error (source : String) (fault : LexicalError) (found : tokenize source = .error fault) :
    Stuck source fault.offset fault.character := by
  have inside := Tokenizer.inside_of_source source
  have tiles := (Tokenizer.tiles_left source _ inside).2 fault found
  exact ⟨goes_of_tiles source 0 _ _ tiles, begins_nothing_of_tokens source _ fault inside found⟩

theorem error_of_stuck (source : String) (place : Nat) (c : Char) (stuck : Stuck source place c) :
    tokenize source = .error ⟨c, place⟩ := by
  obtain ⟨reached, rest, here, _⟩ := id stuck
  cases found : tokenize source with
  | ok tokens =>
      have tiles := (Tokenizer.tiles_left source _ (Tokenizer.inside_of_source source)).1 tokens found
      have atEnd := reached_unique source place _ reached (goes_of_tiles source 0 _ _ tiles)
        (stuck_halts source place c stuck) (end_halts source)
      have nothing := rest_at_unique source place _ [] here ⟨source.toList, (List.append_nil _).symm, atEnd.symm⟩
      contradiction
  | error fault =>
      have stuck' := stuck_of_error source fault found
      have same := reached_unique source place fault.offset reached stuck'.1 (stuck_halts source place c stuck)
        (stuck_halts source fault.offset fault.character stuck')
      obtain ⟨rest', here', _⟩ := stuck'.2
      have text := rest_at_unique source place _ _ here (same ▸ here')
      rw [same, (List.cons.inj text).1]

-- What the lexicon takes at once. Only in strings and comments there are characters that begin no lexeme.
inductive Piece : Option TokenKind → List Char → Prop where
  | skipped (text : List Char) : Skipped text → Piece none text
  | string (text : List Char) : isQuoted text = true → Piece (some .string) text
  | doubled (kind : TokenKind) (c : Char) : c = '&' ∨ c = '|' → Piece (some kind) [c, c]
  | plain (kind : TokenKind) (text : List Char) : text.all isStarter = true → Piece (some kind) text

theorem starters_of_names (text : List Char) (names : text.all isNameChar = true) : text.all isStarter = true :=
  List.all_eq_true.mpr fun c member => by simp [isStarter, List.all_eq_true.mp names c member]

-- Except for names, which may be spelled like keywords here.
theorem piece_of_lexeme (kind : TokenKind) (text : List Char) (other : kind ≠ .identifier)
    (lexeme : kind.hasLexeme text = true) : Piece (some kind) text := by
  have listed (choices : List (List Char)) (all : choices.all (List.all · isStarter) = true)
      (member : choices.contains text = true) : Piece (some kind) text :=
    .plain kind text (List.all_eq_true.mp all text (List.contains_iff_mem.mp member))
  cases kind with
  | mark m => exact .plain _ text (eq_of_beq lexeme ▸ by cases m <;> decide +kernel)
  | keyword k => exact .plain _ text (eq_of_beq lexeme ▸ starters_of_names _ (keyword_all_name k))
  | number =>
      have digits := List.all_eq_true.mp (Bool.and_eq_true_iff.mp lexeme).2
      have names : text.all isNameChar = true :=
        List.all_eq_true.mpr fun c member => name_char_of_digit c (digits c member)
      exact .plain _ text (starters_of_names text names)
  | identifier => contradiction
  | string => exact .string text lexeme
  | logicalAnd => exact eq_of_beq lexeme ▸ .doubled _ '&' (.inl rfl)
  | logicalOr => exact eq_of_beq lexeme ▸ .doubled _ '|' (.inr rfl)
  | simpleAssign | logicalNot => exact .plain _ text (eq_of_beq lexeme ▸ by decide +kernel)
  | equality | complexAssign | additive | multiplicative | relational => exact listed _ (by decide +kernel) lexeme

theorem piece_of_first_match (text : List Char) (kind : Option TokenKind) (size : Nat)
    (found : firstMatch? text = some (kind, size)) : Piece kind (text.take size) := by
  cases kind with
  | none => exact .skipped _ (skipped_of_first_match text size found)
  | some kind =>
      by_cases name : kind = .identifier
      · subst name
        obtain ⟨_, run⟩ := first_match_identifier text size found
        have whole : text.take size = text.takeWhile isNameChar :=
          run ▸ (List.prefix_iff_eq_take.mp (List.takeWhile_prefix isNameChar)).symm
        exact .plain _ _ (whole ▸ starters_of_names _ List.all_takeWhile)
      · exact piece_of_lexeme kind _ name (lexeme_of_first_match text kind size found fun same => absurd same name)

-- A source cannot be cut into tokens exactly if the scan comes to a character that begins no lexeme, and the
-- error is the first of these. At all other characters something stands, and none of them is in it but
-- inside a string or a comment.
theorem lexical_errors_exact (source : String) :
    (∀ c offset, tokenize source = .error ⟨c, offset⟩ ↔
      Stuck source offset c ∧ ∀ earlier < offset, ∀ other, ¬ Stuck source earlier other) ∧
      (∀ place c rest, RestAt source place (c :: rest) →
        ((∃ kind stop text, Matched source kind place stop text) ↔ ¬ BeginsNothing c rest)) ∧
      ∀ kind start stop text, Matched source kind start stop text → Piece kind text := by
  refine ⟨fun c offset => ⟨fun found => ?_, fun stuck => error_of_stuck source offset c stuck.1⟩, ?_, ?_⟩
  · have stuck := stuck_of_error source _ found
    refine ⟨stuck, fun earlier before other stuck' => ?_⟩
    have same := reached_unique source earlier offset stuck'.1 stuck.1 (stuck_halts source earlier other stuck')
      (stuck_halts source offset c stuck)
    omega
  · exact fun place c rest here => matched_iff source place c rest here
  · rintro kind start stop text ⟨rest, _, _, found⟩
    have piece := piece_of_first_match (text ++ rest) kind text.length found
    rwa [List.take_left] at piece

-- Single signs and an open quote in a comment and a string, and one behind them.
theorem lexical_errors_exact_at_bar :
    tokenize "a /* ' */ && '&|' | b" = .error ⟨'|', 18⟩ ∧ Stuck "a /* ' */ && '&|' | b" 18 '|' :=
  have found : tokenize "a /* ' */ && '&|' | b" = .error ⟨'|', 18⟩ := by decide +kernel
  ⟨found, ((lexical_errors_exact _).1 '|' 18).mp found |>.1⟩

end ScriptFront
