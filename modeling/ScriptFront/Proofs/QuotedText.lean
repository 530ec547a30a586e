import ScriptFront.Text.Quoted

set_option autoImplicit false

/-! Quoted text. Its characters are read back one by one, so that it ends at its closing quote and two texts in
quotes are alike only if they are equal. -/

namespace ScriptFront.Text

def hexValue (c : Char) : Nat :=
  if c.isDigit then c.toNat - '0'.toNat else c.toNat - 'a'.toNat + 10

def hexNumber (digits : List Char) : Nat :=
  digits.foldl (fun value digit => 16 * value + hexValue digit) 0

def named : Char → Char
  | 'n' => '\n'
  | 'r' => '\r'
  | 't' => '\t'
  | '0' => '\x00'
  | c => c

-- The first character of a text with escapes, and the text behind it.
def unescape : List Char → Option (Char × List Char)
  | '\\' :: 'u' :: rest =>
      let digits := (rest.drop 1).takeWhile fun c => c != '}'
      some (Char.ofNat (hexNumber digits), rest.drop (digits.length + 2))
  | '\\' :: c :: rest => some (named c, rest)
  | c :: rest => some (c, rest)
  | [] => none

theorem hex_number_digits (n : Nat) : hexNumber (Nat.toDigits 16 n) = n ∧ '}' ∉ Nat.toDigits 16 n := by
  have one : ∀ m < 16, hexNumber [m.digitChar] = m ∧ '}' ≠ m.digitChar := by decide
  induction n using Nat.base_induction 16 (by decide) with
  | single m small =>
      rw [Nat.toDigits_of_lt_base small]
      exact ⟨(one m small).1, by simp [(one m small).2]⟩
  | digit m k small positive ih =>
      rw [← Nat.toDigits_append_toDigits (by decide) positive small, Nat.toDigits_of_lt_base small]
      constructor
      · have last := (one k small).1
        unfold hexNumber at ih last ⊢
        simp only [List.foldl_cons, List.foldl_nil, Nat.mul_zero, Nat.zero_add] at last
        rw [List.foldl_append, ih.1, List.foldl_cons, List.foldl_nil, last]
      · simp [ih.2, (one k small).2]

theorem unescape_hex (c : Char) (rest : List Char) :
    unescape (['\\', 'u', '{'] ++ Nat.toDigits 16 c.toNat ++ ['}'] ++ rest) = some (c, rest) := by
  obtain ⟨number, inside⟩ := hex_number_digits c.toNat
  have run : (Nat.toDigits 16 c.toNat ++ '}' :: rest).takeWhile (fun c => c != '}') = Nat.toDigits 16 c.toNat := by
    rw [List.takeWhile_append_of_pos]
    · simp
    · intro d member
      simpa using fun same : d = '}' => inside (same ▸ member)
  simp only [List.cons_append, List.nil_append, List.append_assoc]
  unfold unescape
  simp only [List.drop_succ_cons, List.drop_zero]
  rw [run, number, Char.ofNat_toNat]
  simp

theorem unescape_escaped (c : Char) (rest : List Char) : unescape (escaped c ++ rest) = some (c, rest) := by
  unfold escaped
  split
  case h_7 _ _ other _ _ _ _ =>
    split
    · rw [List.cons_append, List.nil_append]
      unfold unescape
      split <;> simp_all
    · exact unescape_hex c rest
  all_goals rfl

theorem escaped_first (c : Char) : ∃ d more, escaped c = d :: more ∧ d ≠ '"' := by
  unfold escaped
  split
  case h_7 other _ _ _ _ _ =>
    split
    · exact ⟨c, [], rfl, other⟩
    · exact ⟨'\\', _, rfl, by decide⟩
  all_goals exact ⟨'\\', _, rfl, by decide⟩

theorem escaped_apart (a b rest rest' : List Char)
    (same : a.flatMap escaped ++ '"' :: rest = b.flatMap escaped ++ '"' :: rest') : a = b ∧ rest = rest' := by
  induction a generalizing b with
  | nil =>
      cases b with
      | nil => exact ⟨rfl, List.tail_eq_of_cons_eq same⟩
      | cons d b =>
          obtain ⟨first, more, written, other⟩ := escaped_first d
          rw [List.flatMap_cons, written] at same
          exact absurd (List.head_eq_of_cons_eq same).symm other
  | cons c a ih =>
      cases b with
      | nil =>
          obtain ⟨first, more, written, other⟩ := escaped_first c
          rw [List.flatMap_cons, written] at same
          exact absurd (List.head_eq_of_cons_eq same) other
      | cons d b =>
          rw [List.flatMap_cons, List.flatMap_cons, List.append_assoc, List.append_assoc] at same
          have read := congrArg unescape same
          rw [unescape_escaped, unescape_escaped] at read
          injection read with read
          injection read with first others
          obtain ⟨later, behind⟩ := ih b others
          exact ⟨by rw [first, later], behind⟩

theorem quoted_apart (a b : String) (rest rest' : List Char)
    (same : (quoted a).toList ++ rest = (quoted b).toList ++ rest') : a = b ∧ rest = rest' := by
  simp only [quoted, String.toList_ofList, List.cons_append, List.append_assoc, List.nil_append] at same
  obtain ⟨chars, behind⟩ := escaped_apart a.toList b.toList rest rest' (List.tail_eq_of_cons_eq same)
  exact ⟨String.toList_inj.mp chars, behind⟩

end ScriptFront.Text
