import Mathlib.Data.List.TakeWhile
import ScriptFront.Json.Reader
import ScriptFront.Json.Writer

set_option autoImplicit false

/-! Numbers in JSON text. A number is read alike in front of any text that does not go on with it, and
what is written for an integer is read as that integer. -/

namespace ScriptFront

-- Text in which no number goes on.
def Stops (rest : List Char) : Prop :=
  ∀ c ∈ rest.head?, c.isDigit = false ∧ c ≠ '-' ∧ c ≠ '.' ∧ c ≠ 'e' ∧ c ≠ 'E'

-- A reader that takes the same from a text when more text, in which no number goes on, stands behind.
def Local {α : Type} (reader : Reader α) : Prop :=
  ∀ text a left rest, reader text = .ok (a, left) → Stops rest →
    reader (text ++ rest) = .ok (a, left ++ rest)

namespace Reader

variable {α β : Type}

theorem bind_ok (first : Reader α) (next : α → Reader β) (text left : List Char) (a : α)
    (read : first text = .ok (a, left)) : (first >>= next) text = next a left := by
  change (first text >>= fun found => next found.1 found.2) = _
  rw [read]
  rfl

theorem bind_error (first : Reader α) (next : α → Reader β) (text : List Char) (fault : ReadFault)
    (failed : first text = .error fault) : (first >>= next) text = .error fault := by
  change (first text >>= fun found => next found.1 found.2) = _
  rw [failed]
  rfl

theorem local_bind (first : Reader α) (next : α → Reader β) (one : Local first)
    (two : ∀ a, Local (next a)) : Local (first >>= next) := by
  intro text b left rest read stops
  cases found : first text with
  | error fault =>
      rw [bind_error first next text fault found] at read
      contradiction
  | ok p =>
      rw [bind_ok first next text p.2 p.1 found] at read
      rw [bind_ok first next (text ++ rest) (p.2 ++ rest) p.1 (one text p.1 p.2 rest found stops)]
      exact two p.1 p.2 b left rest read stops

theorem local_return (a : α) : Local (pure a : Reader α) := by
  intro text b left rest read _
  injection read with same
  injection same with value same
  rw [← value, ← same]
  rfl

theorem local_throw (fault : ReadFault) : Local (throw fault : Reader α) := by
  intro text b left rest read _
  contradiction

theorem take_digits (text rest : List Char) (stops : Stops rest) :
    (text ++ rest).takeWhile Char.isDigit = text.takeWhile Char.isDigit := by
  induction text with
  | nil =>
      cases rest with
      | nil => rfl
      | cons c rest => simp [(stops c rfl).1]
  | cons c text ih =>
      by_cases digit : c.isDigit = true
      · simp [digit, ih]
      · simp [digit]

theorem local_digit_run : Local digitRun := by
  intro text digits left rest read stops
  injection read with same
  injection same with taken same
  have short : (text.takeWhile Char.isDigit).length ≤ text.length :=
    (List.takeWhile_sublist _).length_le
  change Except.ok ((text ++ rest).takeWhile Char.isDigit, (text ++ rest).drop _) = _
  rw [take_digits text rest stops, List.drop_append_of_le_length short, taken]
  rw [taken] at same
  rw [same]

-- The faults may tell more of the text; they do not matter here.
theorem local_some_digits (fail fail' : Reader β) (build : List Char → β) (text left rest : List Char)
    (found : β) (fails : ∀ text b left, fail text ≠ .ok (b, left)) (stops : Stops rest)
    (read : (digitRun >>= fun digits => if digits.isEmpty then fail else pure (build digits)) text =
      .ok (found, left)) :
    (digitRun >>= fun digits => if digits.isEmpty then fail' else pure (build digits)) (text ++ rest) =
      .ok (found, left ++ rest) := by
  cases run : digitRun text with
  | error fault =>
      rw [bind_error _ _ _ fault run] at read
      contradiction
  | ok p =>
      rw [bind_ok _ _ _ p.2 p.1 run] at read
      rw [bind_ok _ _ _ (p.2 ++ rest) p.1 (local_digit_run text p.1 p.2 rest run stops)]
      by_cases empty : p.1.isEmpty = true
      · rw [if_pos empty] at read
        exact absurd read (fails _ _ _)
      · rw [if_neg empty] at read ⊢
        exact local_return _ _ _ _ _ read stops

theorem head_append (text rest : List Char) (c : Char) (other : text.head? ≠ some c)
    (behind : rest.head? ≠ some c) : (text ++ rest).head? ≠ some c := by
  cases text with
  | nil => exact behind
  | cons d text => exact other

section Parts

variable (exactly : Bool)

theorem local_whole_digits : Local (wholeDigits exactly) := by
  apply local_bind _ _ local_digit_run
  intro digits
  split
  · intro text a left rest read
    contradiction
  · exact local_throw _
  · exact local_return _

theorem fraction_digits_of_other (text : List Char) (other : text.head? ≠ some '.') :
    fractionDigits exactly text = .ok (none, text) := by
  rw [fractionDigits, bind_ok get _ text text text rfl]
  split
  · contradiction
  · rfl

theorem local_fraction_digits : Local (fractionDigits exactly) := by
  intro text found left rest read stops
  by_cases point : text.head? = some '.'
  · obtain ⟨more, same⟩ := List.head?_eq_some_iff.mp point
    rw [same] at read ⊢
    exact local_some_digits _ _ some more left rest found (fun _ _ _ => by intro; contradiction) stops read
  · rw [fraction_digits_of_other exactly text point] at read
    injection read with same
    injection same with absent same
    have other := head_append text rest '.' point fun head => (stops _ head).2.2.1 rfl
    rw [fraction_digits_of_other exactly _ other, ← absent, ← same]

-- The digits of an exponent behind its sign.
def afterSign : List Char → List Char
  | '+' :: digits => digits
  | '-' :: digits => digits
  | digits => digits

def exponentOf (text digits : List Char) : Option Int :=
  let size := digits.foldl (fun value digit => value * 10 + digitValue digit) 0
  some (if text.head? = some '-' then -(size : Int) else size)

theorem exponent_value_of_mark (c : Char) (text : List Char) (mark : c = 'e' ∨ c = 'E') :
    exponentValue exactly (c :: text) = (digitRun >>= fun digits =>
      if digits.isEmpty then (get >>= fun left => throw (digitFault exactly left))
      else pure (exponentOf text digits)) (afterSign text) := by
  rw [exponentValue, bind_ok get _ (c :: text) (c :: text) (c :: text) rfl]
  dsimp only
  rw [if_pos (by simpa using mark)]
  rfl

theorem exponent_value_of_other (text : List Char) (lower : text.head? ≠ some 'e')
    (upper : text.head? ≠ some 'E') : exponentValue exactly text = .ok (none, text) := by
  rw [exponentValue, bind_ok get _ text text text rfl]
  cases text with
  | nil => rfl
  | cons c text =>
      dsimp only
      rw [if_neg]
      · rfl
      · simpa using And.intro lower upper

theorem after_sign_append (d : Char) (more rest : List Char) :
    afterSign (d :: more ++ rest) = afterSign (d :: more) ++ rest := by
  rw [List.cons_append]
  unfold afterSign
  split <;> simp_all

theorem local_exponent_value : Local (exponentValue exactly) := by
  intro text found left rest read stops
  by_cases mark : text.head? = some 'e' ∨ text.head? = some 'E'
  · cases text with
    | nil => simp at mark
    | cons c text =>
        have mark' : c = 'e' ∨ c = 'E' := by simpa using mark
        rw [exponent_value_of_mark exactly c text mark'] at read
        rw [List.cons_append, exponent_value_of_mark exactly c _ mark']
        cases text with
        | nil => contradiction
        | cons d more =>
            rw [after_sign_append]
            exact local_some_digits _ _ _ _ left rest found (fun _ _ _ => by intro; contradiction) stops read
  · rw [not_or] at mark
    rw [exponent_value_of_other exactly text mark.1 mark.2] at read
    injection read with same
    injection same with absent same
    have lower := head_append text rest 'e' mark.1 fun head => (stops _ head).2.2.2.1 rfl
    have upper := head_append text rest 'E' mark.2 fun head => (stops _ head).2.2.2.2 rfl
    rw [exponent_value_of_other exactly _ lower upper, ← absent, ← same]

-- A number behind its sign.
def unsignedNumber (negative : Bool) : Reader Json := do
  let whole ← wholeDigits exactly
  let fraction ← fractionDigits exactly
  let exponent ← exponentValue exactly
  if exactly then
    match NumberText.value? ⟨negative, whole, fraction, exponent⟩ with
    | some value => return value
    | none => throw (.blocked .numberRange)
  else return .null

theorem number_of_sign (text : List Char) :
    number exactly ('-' :: text) = unsignedNumber exactly true text := by
  rfl

theorem number_of_other (text : List Char) (other : text.head? ≠ some '-') :
    number exactly text = unsignedNumber exactly false text := by
  have plain : (text.head? == some '-') = false := by simpa using other
  rw [number, bind_ok get _ text text text rfl]
  dsimp only
  rw [plain]
  rfl

theorem local_unsigned_number (negative : Bool) : Local (unsignedNumber exactly negative) := by
  apply local_bind _ _ (local_whole_digits exactly)
  intro whole
  apply local_bind _ _ (local_fraction_digits exactly)
  intro fraction
  apply local_bind _ _ (local_exponent_value exactly)
  intro exponent
  split
  · split
    · exact local_return _
    · exact local_throw _
  · exact local_return _

theorem local_number : Local (number exactly) := by
  intro text found left rest read stops
  by_cases sign : text.head? = some '-'
  · obtain ⟨more, same⟩ := List.head?_eq_some_iff.mp sign
    rw [same, number_of_sign] at read
    rw [same, List.cons_append, number_of_sign]
    exact local_unsigned_number exactly true more found left rest read stops
  · have other := head_append text rest '-' sign fun head => (stops _ head).2.1 rfl
    rw [number_of_other exactly text sign] at read
    rw [number_of_other exactly _ other]
    exact local_unsigned_number exactly false text found left rest read stops

end Parts

end Reader

section Digits

theorem digit_value_of_digit (d : Nat) (small : d < 10) : digitValue (Nat.digitChar d) = d := by
  have all : ∀ d < 10, digitValue (Nat.digitChar d) = d := by decide
  exact all d small

theorem gather_append (digits : List Char) (digit : Char) (start value : Nat)
    (before : gather start digits = (value, 0)) (small : value * 10 + digitValue digit < 0x10000000000000000) :
    gather start (digits ++ [digit]) = (value * 10 + digitValue digit, 0) := by
  induction digits generalizing start with
  | nil =>
      injection before with same _
      rw [List.nil_append, gather, same, if_pos small]
      rfl
  | cons c digits ih =>
      rw [gather] at before
      rw [List.cons_append, gather]
      by_cases fits : start * 10 + digitValue c < 0x10000000000000000
      · rw [if_pos fits] at before ⊢
        exact ih _ before
      · rw [if_neg fits] at before
        injection before with _ count
        contradiction

theorem gather_digits (n : Nat) (small : n < 0x10000000000000000) : gather 0 (Nat.toDigits 10 n) = (n, 0) := by
  induction n using Nat.strongRecOn with
  | ind n ih =>
      by_cases one : n < 10
      · rw [Nat.toDigits_of_lt_base one]
        have first := gather_append [] n.digitChar 0 0 rfl (by rw [digit_value_of_digit n one]; omega)
        rw [digit_value_of_digit n one, Nat.zero_mul, Nat.zero_add] at first
        exact first
      · rw [Nat.toDigits_of_base_le (by omega) (by omega)]
        have last : n % 10 < 10 := Nat.mod_lt _ (by omega)
        have next := gather_append (Nat.toDigits 10 (n / 10)) (n % 10).digitChar 0 (n / 10)
          (ih (n / 10) (by omega) (by omega)) (by rw [digit_value_of_digit _ last]; omega)
        rw [digit_value_of_digit _ last, Nat.div_add_mod'] at next
        exact next

theorem leading_digit (n : Nat) (c : Char) (more : List Char) (positive : 0 < n)
    (written : Nat.toDigits 10 n = c :: more) : c ≠ '0' := by
  induction n using Nat.strongRecOn generalizing more with
  | ind n ih =>
      by_cases one : n < 10
      · rw [Nat.toDigits_of_lt_base one] at written
        injection written with same _
        have all : ∀ n < 10, 0 < n → Nat.digitChar n ≠ '0' := by decide
        exact same ▸ all n one positive
      · rw [Nat.toDigits_of_base_le (by omega) (by omega)] at written
        cases front : Nat.toDigits 10 (n / 10) with
        | nil => exact absurd front Nat.toDigits_ne_nil
        | cons d front' =>
            rw [front, List.cons_append] at written
            injection written with same _
            exact ih (n / 10) (by omega) front' (by omega) (same ▸ front)

-- Only zero is written with a leading zero.
theorem zero_alone (n : Nat) (more : List Char) (written : Nat.toDigits 10 n = '0' :: more) :
    more = [] := by
  by_cases positive : 0 < n
  · exact absurd rfl (leading_digit n '0' more positive written)
  · have empty : n = 0 := by omega
    rw [empty] at written
    injection written with _ same
    exact same.symm

theorem digits_of_nat (n : Nat) : ∀ c ∈ Nat.toDigits 10 n, c.isDigit = true := by
  intro c member
  exact Nat.isDigit_of_mem_toDigits (by omega) (by omega) member

end Digits

namespace Reader

theorem whole_digits_of_nat (exactly : Bool) (n : Nat) :
    wholeDigits exactly (Nat.toDigits 10 n) = .ok (Nat.toDigits 10 n, []) := by
  have some_ : Nat.toDigits 10 n ≠ [] := Nat.toDigits_ne_nil
  have zero := zero_alone n
  have whole : (Nat.toDigits 10 n).takeWhile Char.isDigit = Nat.toDigits 10 n :=
    List.takeWhile_eq_self_iff.mpr (digits_of_nat n)
  have run : digitRun (Nat.toDigits 10 n) = .ok (Nat.toDigits 10 n, []) := by
    change Except.ok ((Nat.toDigits 10 n).takeWhile Char.isDigit, (Nat.toDigits 10 n).drop _) = _
    rw [whole, List.drop_length]
  rw [wholeDigits, bind_ok _ _ _ _ _ run]
  generalize Nat.toDigits 10 n = digits at some_ zero
  split
  · contradiction
  · rename_i d more
    exact absurd (zero (d :: more) rfl) (by simp)
  · rfl

theorem unsigned_number_of_nat (negative : Bool) (n : Nat) (i : Integer64)
    (value : NumberText.integer? ⟨negative, Nat.toDigits 10 n, none, none⟩ = some i) :
    unsignedNumber true negative (Nat.toDigits 10 n) = .ok (.integer i, []) := by
  rw [unsignedNumber, bind_ok _ _ _ _ _ (whole_digits_of_nat true n), bind_ok _ _ [] [] none rfl,
    bind_ok _ _ [] [] none rfl, if_pos rfl]
  unfold NumberText.value?
  rw [value]
  rfl

end Reader

theorem integer_of_digits (negative : Bool) (digits : List Char) (value : Nat)
    (gathered : gather 0 digits = (value, 0)) :
    NumberText.integer? ⟨negative, digits, none, none⟩ =
      if negative then if value = 0 then none else Integer64.ofInt? (-(value : Int))
      else Integer64.ofInt? value := by
  unfold NumberText.integer?
  simp only [gathered]

theorem Integer64.of_int_value (i : Integer64) : Integer64.ofInt? i.value = some i := by
  unfold Integer64.ofInt?
  rw [dif_pos i.fits]

-- The text of an integer.
def Integer64.jsonText (i : Integer64) : List Char :=
  signText (i.value < 0) ++ Nat.toDigits 10 i.value.natAbs

theorem Integer64.number_of_text (i : Integer64) :
    Reader.number true i.jsonText = .ok (.integer i, []) := by
  have small : i.value.natAbs < 0x10000000000000000 := by
    have fits := i.fits
    omega
  unfold Integer64.jsonText
  by_cases negative : i.value < 0
  · have positive : i.value.natAbs ≠ 0 := by omega
    have same : -(i.value.natAbs : Int) = i.value := by omega
    rw [signText, if_pos (by simpa using negative), List.singleton_append, Reader.number_of_sign]
    apply Reader.unsigned_number_of_nat
    rw [integer_of_digits true _ _ (gather_digits _ small), if_pos rfl, if_neg positive, same,
      Integer64.of_int_value]
  · have same : (i.value.natAbs : Int) = i.value := by omega
    have plain : (Nat.toDigits 10 i.value.natAbs).head? ≠ some '-' := by
      intro head
      have digit := digits_of_nat _ _ (List.mem_of_head? head)
      contradiction
    rw [signText, if_neg (by simpa using negative), List.nil_append, Reader.number_of_other true _ plain]
    apply Reader.unsigned_number_of_nat
    rw [integer_of_digits false _ _ (gather_digits _ small), if_neg Bool.false_ne_true, same,
      Integer64.of_int_value]

-- A digit stands in front.
def DigitFirst (text : List Char) : Prop :=
  ∃ c ∈ text.head?, c.isDigit = true

theorem digit_first_append (text rest : List Char) (first : DigitFirst text) : DigitFirst (text ++ rest) := by
  obtain ⟨c, head, digit⟩ := first
  obtain ⟨more, same⟩ := List.head?_eq_some_iff.mp head
  exact ⟨c, by simp [same], digit⟩

theorem digit_first_of_nat (n : Nat) : DigitFirst (Nat.toDigits 10 n) := by
  cases digits : Nat.toDigits 10 n with
  | nil => exact absurd digits Nat.toDigits_ne_nil
  | cons c more => exact ⟨c, rfl, digits_of_nat n c (by simp [digits])⟩

namespace Decimal

variable (d : Decimal)

theorem whole_text_digit_first : DigitFirst d.wholeText := by
  unfold wholeText
  dsimp only
  split
  · rename_i pointed
    obtain ⟨c, head, digit⟩ := digit_first_append _ (List.replicate d.exponent.toNat '0')
      (digit_first_of_nat d.digits)
    have some_ : (d.leading + 1).toNat ≠ 0 := by omega
    exact ⟨c, by rw [List.head?_take, if_neg some_]; exact head, digit⟩
  · exact ⟨'0', rfl, rfl⟩

theorem pointed_text_digit_first : DigitFirst d.pointedText := by
  unfold pointedText
  split
  · exact digit_first_append _ _ d.whole_text_digit_first
  · exact digit_first_append _ _ d.whole_text_digit_first

theorem scientific_text_digit_first : DigitFirst d.scientificText := by
  have first := digit_first_of_nat d.digits
  unfold scientificText
  apply digit_first_append
  split
  · rename_i same
    obtain ⟨c, head, digit⟩ := first
    unfold digitText at same
    rw [same] at head
    exact ⟨c, head, digit⟩
  · exact first

end Decimal

-- A sign or a digit stands in front.
def NumberFirst (text : List Char) : Prop :=
  ∃ c ∈ text.head?, c = '-' ∨ c.isDigit = true

theorem number_first_of_sign (negative : Bool) (text : List Char) (first : DigitFirst text) :
    NumberFirst (signText negative ++ text) := by
  obtain ⟨c, head, digit⟩ := first
  cases negative with
  | true => exact ⟨'-', rfl, .inl rfl⟩
  | false => exact ⟨c, head, .inr digit⟩

theorem Integer64.number_first (i : Integer64) : NumberFirst i.jsonText :=
  number_first_of_sign _ _ (digit_first_of_nat _)

theorem Finite64.number_first (x : Finite64) : NumberFirst x.jsonText := by
  apply number_first_of_sign
  split
  · exact Decimal.pointed_text_digit_first _
  · exact Decimal.scientific_text_digit_first _

-- The text of the number is read as that number. A reader rounds twice, so this is not so for all.
def Finite64.Legible (x : Finite64) : Prop :=
  Reader.number true x.jsonText = .ok (.float x, [])

def Finite64.isLegible (x : Finite64) : Bool :=
  match Reader.number true x.jsonText with
  | .ok (.float y, []) => y = x
  | _ => false

theorem Finite64.legible_iff (x : Finite64) : x.Legible ↔ x.isLegible = true := by
  unfold Legible isLegible
  constructor
  · intro read
    rw [read]
    simp
  · intro passes
    split at passes
    · rename_i y read
      rw [read, of_decide_eq_true passes]
    · contradiction

instance (x : Finite64) : Decidable x.Legible :=
  decidable_of_iff _ x.legible_iff.symm

end ScriptFront
