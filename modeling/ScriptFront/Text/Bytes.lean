set_option autoImplicit false

/-! Lengths in bytes, for texts that are encoded as UTF-8. -/

namespace ScriptFront.Text

def byteLength : List Char → Nat
  | [] => 0
  | c :: rest => c.utf8Size + byteLength rest

theorem byte_length_append (a b : List Char) : byteLength (a ++ b) = byteLength a + byteLength b := by
  induction a with
  | nil => simp [byteLength]
  | cons c rest ih => simp [byteLength, ih, Nat.add_assoc]

theorem byte_length_take_add_drop (count : Nat) (text : List Char) :
    byteLength (text.take count) + byteLength (text.drop count) = byteLength text := by
  rw [← byte_length_append, List.take_append_drop]

end ScriptFront.Text
