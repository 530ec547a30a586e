import ScriptFront.Proofs.AcceptedLanguage
import ScriptFront.Proofs.LongestMatch

set_option autoImplicit false

/-! Comments that nothing closes. The lexicon knows no such comment and reads its slash and its star as two
operators; it is the grammar, in which two of these never meet, that refuses the source. -/

namespace ScriptFront

-- The scan comes to a comment that is not closed in the rest of the source.
structure OpenComment (source : String) (place : Nat) (body : List Char) : Prop where
  reached : Reached source place
  here : RestAt source place ('/' :: '*' :: body)
  unclosed : ¬ ['*', '/'] <:+: body

-- What is read at the star of such a comment.
def atStar (body : List Char) : TokenKind × List Char :=
  if body.head? = some '=' then (.complexAssign, ['*', '=']) else (.multiplicative, ['*'])

theorem at_star_kind (body : List Char) :
    (atStar body).1 = .multiplicative ∨ (atStar body).1 = .complexAssign := by
  unfold atStar
  split
  · exact .inr rfl
  · exact .inl rfl

theorem at_star_front (body : List Char) : (atStar body).2 <+: '*' :: body := by
  unfold atStar
  split
  · rename_i equals
    obtain ⟨rest, rfl⟩ := List.head?_eq_some_iff.mp equals
    exact ⟨rest, rfl⟩
  · exact ⟨body, rfl⟩

theorem first_match_star (body : List Char) :
    firstMatch? ('*' :: body) = some (some (atStar body).1, (atStar body).2.length) := by
  by_cases equals : body.head? = some '='
  · obtain ⟨rest, rfl⟩ := List.head?_eq_some_iff.mp equals
    rw [first_match_contenders]
    rfl
  · rw [atStar, if_neg equals]
    exact first_match_one_of '*' body _ _ _ _ rfl rfl equals

theorem comment_length_open (body : List Char) (unclosed : ¬ ['*', '/'] <:+: body) : commentLength? body = none := by
  cases found : commentLength? body with
  | none => rfl
  | some size =>
      obtain ⟨inside, taken, _⟩ := comment_of_length body size found
      have closed : ['*', '/'] <:+: body.take size := taken ▸ (List.suffix_append inside _).isInfix
      exact absurd (closed.trans (List.take_prefix size body).isInfix) unclosed

namespace Tokenizer

theorem exists_inside (source : String) (place : Nat) (rest : List Char) (here : RestAt source place rest) :
    ∃ t : Tokenizer, t.Inside source ∧ t.cursor = place ∧ t.rest = rest := by
  obtain ⟨before, whole, length⟩ := id here
  refine ⟨⟨Text.byteLength source.toList, place, rest, ?_⟩, here, rfl, rfl⟩
  rw [whole, Text.byte_length_append, length]

-- There is one tokenizer for a place of a source.
theorem inside_unique (source : String) (t t' : Tokenizer) (inside : t.Inside source) (inside' : t'.Inside source)
    (place : t.cursor = t'.cursor) : t = t' := by
  have size := (size_of_inside source t inside).trans (size_of_inside source t' inside').symm
  have rest := rest_at_unique source t.cursor t.rest t'.rest inside (place ▸ inside')
  cases t
  cases t'
  cases size
  cases place
  cases rest
  rfl

-- The first of the tokens that are left is the one at the front.
theorem tokens_of_match (t : Tokenizer) (kind : TokenKind) (size : Nat) (tokens : List Token)
    (matched : firstMatch? t.rest = some (some kind, size)) (found : t.tokens = .ok tokens) :
    ∃ token later, tokens = token :: later ∧ token.kind = kind ∧ (t.advance size).tokens = .ok later := by
  rw [tokens_of_token t _ _ (t.read_takes kind size matched)] at found
  cases left : (t.advance size).tokens with
  | error fault =>
      rw [left] at found
      contradiction
  | ok later =>
      rw [left] at found
      injection found with same
      exact ⟨_, later, same.symm, rfl, rfl⟩

-- The tokens that are left at a place to which the scan comes are the last of all.
theorem tokens_on_way (source : String) (t t' : Tokenizer) (inside : t.Inside source) (inside' : t'.Inside source)
    (goes : Relation.ReflTransGen (Goes source) t.cursor t'.cursor) (tokens : List Token)
    (found : t.tokens = .ok tokens) : ∃ before later, tokens = before ++ later ∧ t'.tokens = .ok later := by
  generalize start : t.cursor = place at goes
  induction goes using Relation.ReflTransGen.head_induction_on generalizing t tokens with
  | refl =>
      obtain rfl := inside_unique source t t' inside inside' start
      exact ⟨[], tokens, rfl, found⟩
  | head step _ ih =>
      subst start
      obtain ⟨kind, text, rest, here, _, matched⟩ := id step
      have unread := rest_at_unique source t.cursor t.rest _ inside here
      rw [← unread] at matched
      have front := matched_at_front source t kind text.length inside matched
      have behind := inside_advance source t text.length inside
      have place := goes_unique source ⟨kind, _, front⟩ step
      cases kind with
      | none =>
          rw [tokens_of_skip t text.length matched] at found
          exact ih _ behind tokens found place
      | some kind =>
          obtain ⟨token, left, rfl, _, found'⟩ := tokens_of_match t kind text.length tokens matched found
          obtain ⟨before, later, rfl, found''⟩ := ih _ behind left found' place
          exact ⟨token :: before, later, rfl, found''⟩

end Tokenizer

-- Where a product follows a sign of a product, the signs are not apart.
theorem signs_of_pair (multiplied : Bool) (u v : List Token) (first second : Token)
    (product : first.kind = .multiplicative) (next : second.kind = .multiplicative ∨ second.kind = .complexAssign) :
    signs multiplied (u ++ first :: second :: v) = none := by
  have pair (last : Bool) : signs last (first :: second :: v) = none := by
    rcases next with next | next <;> simp [signs, product, next]
  rw [signs_append]
  cases signs multiplied u with
  | none => rfl
  | some last => exact pair last

-- The tokens of a source with such a comment are not those of a program.
theorem not_phrase_of_open_comment (act : Actions) (source : String) (place : Nat) (body : List Char)
    (comment : OpenComment source place body) (tokens : List Token) (found : tokenize source = .ok tokens)
    (program : act.Program) : ¬ Phrase.Program act tokens program := by
  obtain ⟨t, inside, rfl, unread⟩ := Tokenizer.exists_inside source place _ comment.here
  have slash : firstMatch? t.rest = some (some .multiplicative, 1) := by
    rw [unread]
    exact first_match_open_comment body (comment_length_open body comment.unclosed)
  have star : firstMatch? (t.advance 1).rest = some (some (atStar body).1, (atStar body).2.length) := by
    have behind : (t.advance 1).rest = '*' :: body := by simp [Tokenizer.advance, unread]
    rw [behind]
    exact first_match_star body
  obtain ⟨before, later, rfl, left⟩ :=
    Tokenizer.tokens_on_way source _ t (Tokenizer.inside_of_source source) inside comment.reached tokens found
  obtain ⟨first, later, rfl, product, left⟩ := t.tokens_of_match _ _ _ slash left
  obtain ⟨second, later, rfl, next, _⟩ := (t.advance 1).tokens_of_match _ _ _ star left
  intro derived
  cases derived with
  | intro list derived =>
      have apart := Phrase.statements_apart _ list derived
      have meet := signs_of_pair false before later first second product (next ▸ at_star_kind body)
      rw [apart] at meet
      contradiction

-- A comment that is not closed is read as a slash and a star, or a star before a sign of equality, and no
-- source in which the scan comes to one is parsed, in whatever form.
theorem open_comment_refused (source : String) (place : Nat) (body : List Char)
    (comment : OpenComment source place body) :
    Matched source (some .multiplicative) place (place + 1) ['/'] ∧
      Matched source (some (atStar body).1) (place + 1) (place + 1 + Text.byteLength (atStar body).2) (atStar body).2 ∧
      ∀ act : Actions, ∃ error, parse act source = .error error := by
  have slash : Matched source (some .multiplicative) place (place + 1) ['/'] :=
    matched_of_front source _ place ['/'] _ comment.here
      (first_match_open_comment body (comment_length_open body comment.unclosed))
  refine ⟨slash, ?_, fun act => ?_⟩
  · obtain ⟨_, here, behind, _⟩ := slash
    obtain rfl := List.append_cancel_left (rest_at_unique source place _ _ here comment.here)
    obtain ⟨rest, front⟩ := at_star_front body
    have star := first_match_star body
    rw [← front] at behind star
    exact matched_of_front source _ (place + 1) _ rest behind star
  · cases parsed : parse act source with
    | error fault => exact ⟨fault, rfl⟩
    | ok program =>
        cases found : tokenize source with
        | error broken =>
            rcases parse_of_broken act source broken found with lexical | ⟨fault, _, failed, _⟩
            · rw [lexical] at parsed
              contradiction
            · rw [failed] at parsed
              contradiction
        | ok tokens =>
            obtain ⟨begun, filled, offers⟩ := offers_of_tokenize source tokens found
            have derived := parse_from_sound maxNesting _ begun tokens program filled offers parsed
            exact absurd derived (not_phrase_of_open_comment act source place body comment tokens found program)

-- Behind a prefix operator in an argument, before a quote that nothing closes either.
theorem open_comment_refused_at_operand :
    OpenComment "f(!/*= 'c" 3 "= 'c".toList ∧
      Matched "f(!/*= 'c" (some .multiplicative) 3 4 ['/'] ∧
      Matched "f(!/*= 'c" (some .complexAssign) 4 6 ['*', '='] ∧
      (∃ error, parse Program.actions "f(!/*= 'c" = .error error) ∧
      ∃ error, parse SExpr.actions "f(!/*= 'c" = .error error := by
  have name : Matched "f(!/*= 'c" (some .identifier) 0 1 ['f'] :=
    matched_of_front _ _ 0 ['f'] "(!/*= 'c".toList ⟨[], rfl, rfl⟩ (by decide +kernel)
  have opens : Matched "f(!/*= 'c" (some (.mark .leftParen)) 1 2 ['('] :=
    matched_of_front _ _ 1 ['('] "!/*= 'c".toList ⟨['f'], rfl, rfl⟩ (by decide +kernel)
  have negation : Matched "f(!/*= 'c" (some .logicalNot) 2 3 ['!'] :=
    matched_of_front _ _ 2 ['!'] "/*= 'c".toList ⟨['f', '('], rfl, rfl⟩ (by decide +kernel)
  have reached : Reached "f(!/*= 'c" 3 :=
    ((Relation.ReflTransGen.single ⟨_, _, name⟩).tail ⟨_, _, opens⟩).tail ⟨_, _, negation⟩
  have comment : OpenComment "f(!/*= 'c" 3 "= 'c".toList := ⟨reached, ⟨['f', '(', '!'], rfl, rfl⟩, by decide⟩
  obtain ⟨slash, star, refused⟩ := open_comment_refused _ 3 _ comment
  exact ⟨comment, slash, star, refused Program.actions, refused SExpr.actions⟩

end ScriptFront
