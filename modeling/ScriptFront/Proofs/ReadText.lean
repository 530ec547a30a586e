import ScriptFront.Json.Record
import ScriptFront.Proofs.ScannedText

set_option autoImplicit false

/-! The text of a JSON value is read as that value if no more arrays and objects are open at once than
the reader allows, and not at all otherwise. -/

namespace ScriptFront

theorem fold_list {α β : Type} (f : β → Option α) (list : List β) (done : List α) :
    list.foldlM (fun done b => (f b).map (· :: done)) done =
      (list.mapM f).map fun found => found.reverse ++ done := by
  induction list generalizing done with
  | nil => rfl
  | cons b list ih =>
      rw [List.foldlM_cons, List.mapM_cons]
      cases f b with
      | none => rfl
      | some a =>
          change list.foldlM _ (a :: done) = _
          rw [ih]
          cases list.mapM f with
          | none => rfl
          | some found => simp

theorem map_fitting {β : Type} (fits : β → Prop) [DecidablePred fits] (list : List β) :
    list.mapM (fun b => if fits b then some b else none) =
      if ∀ b ∈ list, fits b then some list else none := by
  induction list with
  | nil => rfl
  | cons b list ih =>
      rw [List.mapM_cons, ih]
      by_cases first : fits b
      · by_cases all : ∀ b ∈ list, fits b
        · rw [if_pos first, if_pos all, if_pos (List.forall_mem_cons.mpr ⟨first, all⟩)]
          rfl
        · rw [if_pos first, if_neg all, if_neg fun every => all (List.forall_mem_cons.mp every).2]
          rfl
      · rw [if_neg first, if_neg fun every => first (List.forall_mem_cons.mp every).1]
        rfl

namespace Reader

theorem value_after (exactly : Bool) (levels : Nat) (blank more : List Char) (c : Char)
    (spaces : ∀ d ∈ blank, isSpace d = true) (solid : isSpace c = false) :
    value exactly levels (blank ++ c :: more) = value exactly levels (c :: more) := by
  have one := peek_after blank more c spaces solid
  have two := peek_at c more solid
  cases levels with
  | zero => rw [value, bind_ok _ _ _ _ _ one, bind_ok _ _ _ _ _ two]
  | succ levels => rw [value, bind_ok _ _ _ _ _ one, bind_ok _ _ _ _ _ two]

theorem colon_at (rest : List Char) : colon (':' :: rest) = .ok ((), rest) := by
  rw [colon, bind_ok _ _ _ _ _ (peek_at ':' rest (by decide))]
  rfl

-- The value, if it is not nested too deep.
def fitting (levels : Nat) (v : Json) : Option Json :=
  if v.depth ≤ levels then some v else none

variable (layout : Layout)

theorem fitting_list {β : Type} (depth : β → Nat) (wrap : List β → Json) (levels : Nat) (list : List β)
    (deep : (wrap list).depth ≤ levels + 1 ↔ ∀ b ∈ list, depth b ≤ levels) :
    (list.mapM fun b => if depth b ≤ levels then some b else none).map wrap =
      fitting (levels + 1) (wrap list) := by
  rw [map_fitting]
  unfold fitting
  by_cases all : ∀ b ∈ list, depth b ≤ levels
  · rw [if_pos all, if_pos (deep.mpr all)]
    rfl
  · rw [if_neg all, if_neg fun shallow => all (deep.mp shallow)]
    rfl

theorem fitting_array (levels : Nat) (list : List Json) :
    (list.mapM (fitting levels)).map Json.array = fitting (levels + 1) (.array list) := by
  have deep : (Json.array list).depth ≤ levels + 1 ↔ ∀ v ∈ list, v.depth ≤ levels :=
    Nat.succ_le_succ_iff.trans (Json.items_depth_le_iff list levels)
  exact fitting_list Json.depth Json.array levels list deep

theorem fitting_object (levels : Nat) (list : List (String × Json)) :
    (list.foldlM (fun done m => (fitting levels m.2).map fun v => (m.1, v) :: done) []).map
      (fun found => Json.object found.reverse) = fitting (levels + 1) (.object list) := by
  have deep : (Json.object list).depth ≤ levels + 1 ↔ ∀ m ∈ list, m.2.depth ≤ levels :=
    Nat.succ_le_succ_iff.trans (Json.members_depth_le_iff list levels)
  have step : ∀ (done : List (String × Json)) (m : String × Json),
      ((fitting levels m.2).map fun v => (m.1, v) :: done) =
        (if m.2.depth ≤ levels then some m else none).map (· :: done) := by
    intro done m
    unfold fitting
    by_cases fits : m.2.depth ≤ levels
    · rw [if_pos fits, if_pos fits]
      rfl
    · rw [if_neg fits, if_neg fits]
      rfl
  rw [← fitting_list (fun m => m.2.depth) Json.object levels list deep]
  simp only [step, fold_list, List.append_nil]
  cases list.mapM fun m => if m.2.depth ≤ levels then some m else none with
  | none => rfl
  | some found => simp

theorem array_start (level : Nat) (list : List Json) (rest : List Char) :
    ∃ more, layout.textThen level (.array list) rest = '[' :: more := by
  cases list with
  | nil => exact ⟨_, rfl⟩
  | cons v list => exact ⟨_, rfl⟩

theorem object_start (level : Nat) (list : List (String × Json)) (rest : List Char) :
    ∃ more, layout.textThen level (.object list) rest = '{' :: more := by
  cases list with
  | nil => exact ⟨_, rfl⟩
  | cons v list => exact ⟨_, rfl⟩

-- A list of what each item is read as.
theorem listed_answers {α : Type} (item : Reader α) (f : Json → Option α) (list : List Json) (level : Nat)
    (rest : List Char)
    (each : ∀ v ∈ list, ∀ rest, Stops rest →
      Answers (item (layout.textThen (level + 1) v rest)) rest (f v)) :
    Answers ((items (listStep item) [] >>= fun found => pure found.reverse)
      (layout.textThen level (.array list) rest)) rest (list.mapM f) := by
  have found := items_answers layout level (listStep item) (fun done v => (f v).map (· :: done)) list [] rest
    fun v member done rest stops => answers_map _ _ _ _ _ (each v member rest stops)
  have listed := answers_map _ List.reverse _ _ _ found
  have same : ((list.mapM f).map fun found => found.reverse ++ []).map List.reverse = list.mapM f := by
    cases list.mapM f with
    | none => rfl
    | some found => simp
  rw [fold_list, same] at listed
  exact listed

theorem array_answers (list : List Json) (levels level : Nat) (rest : List Char)
    (each : ∀ v ∈ list, ∀ levels level rest, Stops rest →
      Answers (value true levels (layout.textThen level v rest)) rest (fitting levels v)) :
    Answers (value true levels (layout.textThen level (.array list) rest)) rest
      (fitting levels (.array list)) := by
  obtain ⟨more, same⟩ := array_start layout level list rest
  cases levels with
  | zero =>
      rw [same]
      exact ⟨.malformed, rfl⟩
  | succ levels =>
      have listed := listed_answers layout (value true levels) (fitting levels) list level rest
        fun v member rest stops => each v member levels (level + 1) rest stops
      have whole := answers_map _ Json.array _ _ _ listed
      rw [fitting_array, bind_assoc] at whole
      rw [value]
      rw [same] at whole ⊢
      exact answers_after _ _ _ _ _ _ _ (peek_at '[' more (by decide)) whole

theorem object_answers (list : List (String × Json)) (levels level : Nat) (rest : List Char)
    (each : ∀ m ∈ list, ∀ levels level rest, Stops rest →
      Answers (value true levels (layout.textThen level m.2 rest)) rest (fitting levels m.2)) :
    Answers (value true levels (layout.textThen level (.object list) rest)) rest
      (fitting levels (.object list)) := by
  obtain ⟨more, same⟩ := object_start layout level list rest
  cases levels with
  | zero =>
      rw [same]
      exact ⟨.malformed, rfl⟩
  | succ levels =>
      have behind : ∀ m ∈ list, ∀ (done : List (String × Json)) rest, Stops rest →
          Answers ((colon >>= fun _ => value true levels >>= fun v => pure ((m.1, v) :: done))
            (':' :: (layout.colon ++ layout.textThen (level + 1) m.2 rest))) rest
            ((fitting levels m.2).map fun v => (m.1, v) :: done) := by
        intro m member done rest stops
        obtain ⟨c, more, start, solid⟩ := layout.text_first (level + 1) m.2 rest
        have read := each m member levels (level + 1) rest stops
        rw [start, ← value_after true levels layout.colon more c layout.colon_blank solid.1, ← start] at read
        apply answers_after _ _ _ _ _ _ _ (colon_at _)
        exact answers_map _ (fun v => (m.1, v) :: done) _ _ _ read
      have found := members_answers layout level
        (fun done name => colon >>= fun _ => value true levels >>= fun v => pure ((name, v) :: done))
        (fun done m => (fitting levels m.2).map fun v => (m.1, v) :: done) list [] rest behind
      have whole := answers_map _ (fun found => Json.object found.reverse) _ _ _ found
      rw [fitting_object] at whole
      rw [value]
      rw [same] at whole ⊢
      exact answers_after _ _ _ _ _ _ _ (peek_at '{' more (by decide)) whole

mutual
theorem value_answers (v : Json) (levels level : Nat) (rest : List Char) (stops : Stops rest)
    (back : ∀ x ∈ v.floats, x.Legible) :
    Answers (value true levels (layout.textThen level v rest)) rest (fitting levels v) := by
  match v with
  | .null => exact value_of_word levels 'n' ['u', 'l', 'l'] .null rest (by decide) (by decide) (by decide) rfl
  | .boolean true =>
      exact value_of_word levels 't' ['r', 'u', 'e'] _ rest (by decide) (by decide) (by decide) rfl
  | .boolean false =>
      exact value_of_word levels 'f' ['a', 'l', 's', 'e'] _ rest (by decide) (by decide) (by decide) rfl
  | .integer i => exact value_of_number levels i.jsonText rest _ i.number_first i.number_of_text stops
  | .float x =>
      exact value_of_number levels x.jsonText rest _ x.number_first (back x (by simp [Json.floats])) stops
  | .string text => exact value_of_string levels text rest
  | .array list => exact array_answers layout list levels level rest (each_item_answers list back)
  | .object list => exact object_answers layout list levels level rest (each_member_answers list back)

theorem each_item_answers (list : List Json) (back : ∀ x ∈ Json.itemsFloats list, x.Legible) :
    ∀ v ∈ list, ∀ levels level rest, Stops rest →
      Answers (value true levels (layout.textThen level v rest)) rest (fitting levels v) := by
  match list with
  | [] => simp
  | v :: list =>
      rw [Json.itemsFloats, List.forall_mem_append] at back
      rw [List.forall_mem_cons]
      exact ⟨fun levels level rest stops => value_answers v levels level rest stops back.1,
        each_item_answers list back.2⟩

theorem each_member_answers (list : List (String × Json))
    (back : ∀ x ∈ Json.membersFloats list, x.Legible) :
    ∀ m ∈ list, ∀ levels level rest, Stops rest →
      Answers (value true levels (layout.textThen level m.2 rest)) rest (fitting levels m.2) := by
  match list with
  | [] => simp
  | (name, v) :: list =>
      rw [Json.membersFloats, List.forall_mem_append] at back
      rw [List.forall_mem_cons]
      exact ⟨fun levels level rest stops => value_answers v levels level rest stops back.1,
        each_member_answers list back.2⟩
end

end Reader
end ScriptFront
