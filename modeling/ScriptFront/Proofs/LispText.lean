import ScriptFront.Proofs.FormEquality
import ScriptFront.Proofs.LispNumbers
import ScriptFront.Proofs.OperatorChains
import ScriptFront.Proofs.QuotedText

set_option autoImplicit false

/-! The Lisp text of an S-expression. The first character tells what kind it is, and a number or symbol ends at
the first character that none of them has. So the text of a source determines its S-expression, but for infinite
numbers, which are written like a name. -/

namespace ScriptFront

open Binary64 (isNonnegative)

namespace SExpr

-- The characters that numbers and symbols are made of.
def isAtomChar (c : Char) : Bool :=
  c != ' ' && c != '(' && c != ')' && c != '"'

-- A symbol that looks like no number, string or list.
def isLegible (name : String) : Bool :=
  name.toList.all isAtomChar && name.toList.head?.any fun c => !c.isDigit

theorem atom_char_of_name_char (c : Char) (char : isNameChar c = true) : isAtomChar c = true := by
  have apart (d : Char) (other : isNameChar d = false) : c ≠ d := by
    rintro rfl
    exact absurd char (by rw [other]; decide)
  have space := apart ' ' (by decide)
  have opening := apart '(' (by decide)
  have closing := apart ')' (by decide)
  have quote := apart '"' (by decide)
  simp [isAtomChar, space, opening, closing, quote]

theorem legible_admits : Admits isLegible where
  name := by
    intro id proper
    unfold Identifier.isProper isName at proper
    unfold isLegible
    cases chars : id.name.toList with
    | nil =>
        rw [chars] at proper
        contradiction
    | cons c rest =>
        rw [chars] at proper
        simp only [Bool.and_eq_true] at proper
        obtain ⟨⟨first, others⟩, _⟩ := proper
        obtain ⟨char, letter⟩ := name_first_char c first
        have atoms : rest.all isAtomChar = true := List.all_eq_true.mpr fun d member =>
          atom_char_of_name_char d (List.all_eq_true.mp others d member)
        simp [atom_char_of_name_char c char, atoms, letter]
  word := by decide

-- Text in which no number or symbol goes on.
def Ends (rest : List Char) : Prop :=
  ∀ c ∈ rest.head?, isAtomChar c = false

theorem atom_apart (a b rest rest' : List Char) (chars : ∀ c ∈ a, isAtomChar c = true)
    (chars' : ∀ c ∈ b, isAtomChar c = true) (ends : Ends rest) (ends' : Ends rest')
    (same : a ++ rest = b ++ rest') : a = b ∧ rest = rest' := by
  have run (a rest : List Char) (chars : ∀ c ∈ a, isAtomChar c = true) (ends : Ends rest) :
      (a ++ rest).takeWhile isAtomChar = a := by
    rw [List.takeWhile_append_of_pos chars]
    cases rest with
    | nil => simp
    | cons c rest => simp [ends c rfl]
  have atom : a = b := by rw [← run a rest chars ends, same, run b rest' chars' ends']
  subst atom
  exact ⟨rfl, List.append_cancel_left same⟩

theorem number_chars (x : Finite64) (plain : x.negative = false) :
    ∃ c more, Binary64.lispText (.finite x) = c :: more ∧ c.isDigit = true ∧ ∀ d ∈ c :: more, isAtomChar d = true := by
  have written : Binary64.lispText (.finite x) = (x.shortest .upward).plainText := by
    simp [Binary64.lispText, plain, signText]
  obtain ⟨c, more, text, digit⟩ := Decimal.plain_text_first (x.shortest .upward)
  refine ⟨c, more, written.trans text, digit, fun d member => ?_⟩
  rcases Decimal.plain_text_chars _ d (text ▸ member) with digit | rfl
  · exact atom_char_of_name_char d (name_char_of_digit d digit)
  · decide

theorem legible_chars (name : String) (legible : isLegible name = true) :
    ∃ c more, name.toList = c :: more ∧ (∀ d ∈ c :: more, isAtomChar d = true) ∧ c.isDigit = false := by
  unfold isLegible at legible
  cases chars : name.toList with
  | nil =>
      rw [chars] at legible
      contradiction
  | cons c more =>
      rw [chars] at legible
      simp only [Bool.and_eq_true, List.all_eq_true] at legible
      exact ⟨c, more, rfl, legible.1, by simpa using legible.2⟩

-- What can stand at the front of a text.
inductive Kind where
  | number | string | symbol | list
deriving DecidableEq

def kind : SExpr → Kind
  | .number _ => .number
  | .string _ => .string
  | .symbol _ => .symbol
  | .list _ => .list

def kindAt? : List Char → Option Kind
  | '(' :: _ => some .list
  | '"' :: _ => some .string
  | c :: _ => if c.isDigit then some .number else if isAtomChar c then some .symbol else none
  | [] => none

-- A number that the text shows as one.
def isShown : Binary64 → Bool
  | .finite x => !x.negative
  | _ => false

theorem finite_of_shown (value : Binary64) (shown : isShown value = true) :
    ∃ x, value = .finite x ∧ x.negative = false := by
  cases value with
  | finite x => exact ⟨x, rfl, by simpa [isShown] using shown⟩
  | nan | infinite _ => contradiction

theorem kind_of_text (e : SExpr) (legible : e.passes isShown isLegible = true) (rest : List Char) :
    kindAt? (textThen e rest) = some e.kind := by
  cases e with
  | number value =>
      obtain ⟨x, rfl, plain⟩ := finite_of_shown value legible
      obtain ⟨c, more, text, digit, atoms⟩ := number_chars x plain
      have atom := atoms c List.mem_cons_self
      rw [textThen, text, List.cons_append]
      unfold kindAt?
      split <;> simp_all [isAtomChar, kind]
  | string text => simp [textThen, Text.quoted, kindAt?, kind]
  | symbol name =>
      obtain ⟨c, more, text, atoms, first⟩ := legible_chars name legible
      have atom := atoms c List.mem_cons_self
      rw [textThen, text, List.cons_append]
      unfold kindAt?
      split <;> simp_all [isAtomChar, kind]
  | list items =>
      cases items with
      | nil => simp [textThen, kindAt?, kind]
      | cons item items => simp [textThen, kindAt?, kind]

theorem items_end (items : List SExpr) (rest : List Char) : Ends (itemsThen items (')' :: rest)) := by
  cases items <;> simp [Ends, itemsThen, isAtomChar]

mutual
theorem text_apart (a b : SExpr) (legible : a.passes isShown isLegible = true)
    (legible' : b.passes isShown isLegible = true) (rest rest' : List Char) (ends : Ends rest) (ends' : Ends rest')
    (same : textThen a rest = textThen b rest') : a = b ∧ rest = rest' := by
  have kinds := kind_of_text a legible rest
  rw [same, kind_of_text b legible' rest'] at kinds
  cases a with
  | number x =>
      cases b with
      | number y =>
          obtain ⟨x, rfl, plain⟩ := finite_of_shown x legible
          obtain ⟨y, rfl, plain'⟩ := finite_of_shown y legible'
          obtain ⟨c, more, text, _, atoms⟩ := number_chars x plain
          obtain ⟨d, more', text', _, atoms'⟩ := number_chars y plain'
          have apart := atom_apart (Binary64.lispText (.finite x)) (Binary64.lispText (.finite y)) rest rest'
            (by rwa [text]) (by rwa [text']) ends ends' same
          exact ⟨by rw [finite_eq_of_text x y plain plain' apart.1], apart.2⟩
      | _ => simp [kind] at kinds
  | string text =>
      cases b with
      | string text' =>
          obtain ⟨equal, behind⟩ := Text.quoted_apart text text' rest rest' same
          exact ⟨by rw [equal], behind⟩
      | _ => simp [kind] at kinds
  | symbol name =>
      cases b with
      | symbol name' =>
          obtain ⟨c, more, text, atoms, _⟩ := legible_chars name legible
          obtain ⟨d, more', text', atoms', _⟩ := legible_chars name' legible'
          have apart := atom_apart name.toList name'.toList rest rest' (by rwa [text]) (by rwa [text']) ends ends' same
          exact ⟨by rw [String.toList_inj.mp apart.1], apart.2⟩
      | _ => simp [kind] at kinds
  | list items =>
      cases b with
      | list items' =>
          match items, items' with
          | [], [] => exact ⟨rfl, by simpa [textThen] using same⟩
          | [], b :: bs =>
              simp only [passes, itemsPass, Bool.and_eq_true] at legible'
              have first := kind_of_text b legible'.1 (itemsThen bs (')' :: rest'))
              rw [← List.tail_eq_of_cons_eq same] at first
              simp [kindAt?, isAtomChar] at first
          | a :: as, [] =>
              simp only [passes, itemsPass, Bool.and_eq_true] at legible
              have first := kind_of_text a legible.1 (itemsThen as (')' :: rest))
              rw [List.tail_eq_of_cons_eq same] at first
              simp [kindAt?, isAtomChar] at first
          | a :: as, b :: bs =>
              simp only [passes, itemsPass, Bool.and_eq_true] at legible legible'
              obtain ⟨first, behind⟩ := text_apart a b legible.1 legible'.1 _ _ (items_end as rest) (items_end bs rest')
                (List.tail_eq_of_cons_eq same)
              obtain ⟨others, after⟩ := items_apart as bs legible.2 legible'.2 rest rest' behind
              exact ⟨by rw [first, others], after⟩
      | _ => simp [kind] at kinds
termination_by structural a

theorem items_apart (as bs : List SExpr) (legible : itemsPass isShown isLegible as = true)
    (legible' : itemsPass isShown isLegible bs = true) (rest rest' : List Char)
    (same : itemsThen as (')' :: rest) = itemsThen bs (')' :: rest')) : as = bs ∧ rest = rest' := by
  cases as with
  | nil =>
      cases bs with
      | nil => exact ⟨rfl, by simpa [itemsThen] using same⟩
      | cons b bs => simp [itemsThen] at same
  | cons a as =>
      cases bs with
      | nil => simp [itemsThen] at same
      | cons b bs =>
          simp only [itemsPass, Bool.and_eq_true] at legible legible'
          obtain ⟨first, behind⟩ := text_apart a b legible.1 legible'.1 _ _ (items_end as rest) (items_end bs rest')
            (List.tail_eq_of_cons_eq same)
          obtain ⟨others, after⟩ := items_apart as bs legible.2 legible'.2 rest rest' behind
          exact ⟨by rw [first, others], after⟩
termination_by structural as
end

mutual
-- The text does not tell an infinite number from the name that it is written like.
def asWritten : SExpr → SExpr
  | .number value => if value.isFinite then .number value else .symbol (String.ofList value.lispText)
  | .string text => .string text
  | .symbol name => .symbol name
  | .list items => .list (itemsAsWritten items)

def itemsAsWritten : List SExpr → List SExpr
  | [] => []
  | item :: items => item.asWritten :: itemsAsWritten items
end

mutual
theorem text_as_written (e : SExpr) (rest : List Char) : textThen e.asWritten rest = textThen e rest := by
  cases e with
  | number value =>
      unfold asWritten
      split
      · rfl
      · simp only [textThen, String.toList_ofList]
  | string text => rfl
  | symbol name => rfl
  | list items =>
      cases items with
      | nil => rfl
      | cons item items =>
          change '(' :: textThen item.asWritten _ = '(' :: textThen item _
          rw [text_as_written item, items_text_as_written items]
termination_by structural e

theorem items_text_as_written (items : List SExpr) (rest : List Char) :
    itemsThen (itemsAsWritten items) rest = itemsThen items rest := by
  cases items with
  | nil => rfl
  | cons item items =>
      rw [itemsAsWritten, itemsThen, itemsThen, text_as_written item, items_text_as_written items]
termination_by structural items
end

mutual
theorem as_written_legible (e : SExpr) (plain : e.passes isNonnegative isLegible = true) :
    e.asWritten.passes isShown isLegible = true := by
  cases e with
  | number value =>
      cases value with
      | finite x => exact plain
      | infinite negative =>
          cases negative with
          | true => contradiction
          | false => decide
      | nan => contradiction
  | string text => rfl
  | symbol name => exact plain
  | list items => exact items_as_written_legible items plain
termination_by structural e

theorem items_as_written_legible (items : List SExpr) (plain : itemsPass isNonnegative isLegible items = true) :
    itemsPass isShown isLegible (itemsAsWritten items) = true := by
  cases items with
  | nil => rfl
  | cons item items =>
      simp only [itemsPass, Bool.and_eq_true] at plain
      rw [itemsAsWritten, itemsPass, as_written_legible item plain.1, items_as_written_legible items plain.2,
        Bool.and_self]
termination_by structural items
end

mutual
theorem as_written_of_finite (e : SExpr) (finite : e.passes Binary64.isFinite (fun _ => true) = true) :
    e.asWritten = e := by
  cases e with
  | number value => exact if_pos finite
  | string text => rfl
  | symbol name => rfl
  | list items => rw [asWritten, items_as_written_of_finite items finite]
termination_by structural e

theorem items_as_written_of_finite (items : List SExpr)
    (finite : itemsPass Binary64.isFinite (fun _ => true) items = true) : itemsAsWritten items = items := by
  cases items with
  | nil => rfl
  | cons item items =>
      simp only [itemsPass, Bool.and_eq_true] at finite
      rw [itemsAsWritten, as_written_of_finite item finite.1, items_as_written_of_finite items finite.2]
termination_by structural items
end

theorem text_eq_iff (e f : SExpr) (plain : e.passes isNonnegative isLegible = true)
    (plain' : f.passes isNonnegative isLegible = true) : e.text = f.text ↔ e.asWritten = f.asWritten := by
  have nothing : Ends [] := by simp [Ends]
  unfold text
  rw [String.ofList_inj, ← text_as_written e, ← text_as_written f]
  constructor
  · intro same
    exact (text_apart _ _ (as_written_legible e plain) (as_written_legible f plain') [] [] nothing nothing same).1
  · intro same
    rw [same]

end SExpr

-- A source that is one token and a semicolon.
theorem atom_parsed (act : Actions) (source : String) (t stop : Token) (e : act.Expression)
    (atom : Grouped.Primary act [t] e 0) (found : tokenize source = .ok [t, stop])
    (ends : stop.kind = .mark .semicolon) : parse act source = .ok (act.program [act.expressionStatement e]) := by
  have operand : Grouped.Operand act [t] e 0 := .member _ _ _ (.primary _ _ _ atom)
  have met : ExpressionMet Tokenizer act maxNesting [t] e 0 :=
    (Grouped.chain_met false [t] (.last e) 0 (.last false [t] e 0 operand)).met
  exact Grouped.parse_of_expression [t] stop e 0 met ends source found

theorem tokenize_digits (digits : List Char) (some : digits ≠ []) (inside : digits.all Char.isDigit = true) :
    ∃ t stop, tokenize (String.ofList (digits ++ [';'])) = .ok [t, stop] ∧ t.kind = .number ∧
      t.text = String.ofList digits ∧ stop.kind = .mark .semicolon := by
  let t := Tokenizer.ofSource (String.ofList (digits ++ [';']))
  have unread : t.rest = digits ++ [';'] := String.toList_ofList
  have first := t.read_takes .number digits.length (unread ▸ first_match_number digits [';'] some inside (by decide))
  have behind : (t.advance digits.length).rest = [';'] := by simp [Tokenizer.advance, unread]
  have second := (t.advance digits.length).read_takes (.mark .semicolon) 1 (by rw [behind]; rfl)
  have ended : ((t.advance digits.length).advance 1).rest = [] := congrArg (List.drop 1) behind
  have all := t.tokens_of_token _ _ first
  rw [Tokenizer.tokens_of_token _ _ _ second, Tokenizer.tokens_of_end _ _ (Tokenizer.read_at_end _ ended)] at all
  exact ⟨_, _, all, rfl, by rw [unread, List.take_left], rfl⟩

-- The text of a source determines its S-expression where all numbers are finite. Two S-expressions have one text
-- exactly if they differ at most in infinite numbers for names.
theorem text_determines_sexpr (left right : String) (e f : SExpr) (parsed : parse SExpr.actions left = .ok e)
    (parsed' : parse SExpr.actions right = .ok f) :
    (e.text = f.text ↔ e.asWritten = f.asWritten) ∧
      (e.passes Binary64.isFinite (fun _ => true) = true → f.passes Binary64.isFinite (fun _ => true) = true →
        e.text = f.text → e = f) := by
  have plain := passes_of_parse SExpr.legible_admits left e parsed
  have plain' := passes_of_parse SExpr.legible_admits right f parsed'
  have texts := SExpr.text_eq_iff e f plain plain'
  refine ⟨texts, fun finite finite' same => ?_⟩
  have written := texts.mp same
  rwa [SExpr.as_written_of_finite e finite, SExpr.as_written_of_finite f finite'] at written

-- Quotes of either kind, and a string that looks like a list.
theorem text_determines_sexpr_at_quotes :
    ∃ e f, parse SExpr.actions "say('(a \"b)', 10);" = .ok e ∧ parse SExpr.actions "say ( '(a \"b)' , 010 ) ;" = .ok f ∧
      e.passes Binary64.isFinite (fun _ => true) = true ∧ f.passes Binary64.isFinite (fun _ => true) = true ∧
      e.text = f.text ∧ e.asWritten = f.asWritten ∧ e = f := by
  obtain ⟨e, f, parsed, parsed', test⟩ := exist_of_results
    (fun e f : SExpr => e.passes Binary64.isFinite (fun _ => true) && f.passes Binary64.isFinite (fun _ => true) &&
      e.text == f.text)
    (parse SExpr.actions "say('(a \"b)', 10);") (parse SExpr.actions "say ( '(a \"b)' , 010 ) ;")
    (by decide +kernel) (by decide +kernel)
  simp only [Bool.and_eq_true, beq_iff_eq] at test
  obtain ⟨⟨finite, finite'⟩, same⟩ := test
  obtain ⟨texts, equal⟩ := text_determines_sexpr _ _ e f parsed parsed'
  exact ⟨e, f, parsed, parsed', finite, finite', same, texts.mp same, equal finite finite' same⟩

-- A run of digits may be beyond the range, and its number is then written like a name.
theorem infinite_number_written_as_name :
    ∃ e f, parse SExpr.actions "inf;" = .ok e ∧
      parse SExpr.actions (String.ofList ('1' :: List.replicate 309 '0' ++ [';'])) = .ok f ∧
      e.text = f.text ∧ e ≠ f := by
  obtain ⟨t, stop, found, kind, text, ends⟩ :=
    tokenize_digits ('1' :: List.replicate 309 '0') (List.cons_ne_nil _ _) (by decide +kernel)
  have value : digitsValue? t.text.toList = some (.infinite false) := by
    rw [text, String.toList_ofList]
    decide +kernel
  have number := atom_parsed SExpr.actions _ t stop _ (.number t _ kind value) found ends
  have name := atom_parsed SExpr.actions "inf;" ⟨.identifier, "inf", ⟨0, 3⟩⟩ ⟨.mark .semicolon, ";", ⟨3, 4⟩⟩ _
    (.identifier _ rfl) (by decide +kernel) rfl
  refine ⟨_, _, name, number, by decide +kernel, fun same => ?_⟩
  have finite := congrArg (fun e : SExpr => e.passes Binary64.isFinite fun _ => true) same
  exact absurd finite (by decide)

end ScriptFront
