import ScriptFront.Proofs.JsonLayout
import ScriptFront.Proofs.ScannedNumbers
set_option autoImplicit false

/-! What is written as JSON text is read back as the same value, if it is not nested too deep. -/

namespace ScriptFront

namespace Reader

theorem hex_quad_of_control (n : Nat) (small : n < 0x20) :
    hexQuad? '0' '0' (Nat.digitChar (n / 16)) (Nat.digitChar (n % 16)) = some n := by
  have all : ∀ n < 0x20, hexQuad? '0' '0' (Nat.digitChar (n / 16)) (Nat.digitChar (n % 16)) = some n := by
    decide
  exact all n small

-- Where the exact text does not matter, escapes of controls are left out.
theorem string_tail_of_char (exactly : Bool) (c : Char) (done more : List Char) :
    ∃ done', stringTail exactly done (Json.escapedChar c ++ more) = stringTail exactly done' more ∧
      (exactly = true → done' = c :: done) := by
  unfold Json.escapedChar
  split
  · exact ⟨'"' :: done, by simp [stringTail, simpleEscape?], fun _ => rfl⟩
  · exact ⟨'\\' :: done, by simp [stringTail, simpleEscape?], fun _ => rfl⟩
  · exact ⟨'\x08' :: done, by simp [stringTail, simpleEscape?], fun _ => rfl⟩
  · exact ⟨'\x0c' :: done, by simp [stringTail, simpleEscape?], fun _ => rfl⟩
  · exact ⟨'\n' :: done, by simp [stringTail, simpleEscape?], fun _ => rfl⟩
  · exact ⟨'\r' :: done, by simp [stringTail, simpleEscape?], fun _ => rfl⟩
  · exact ⟨'\t' :: done, by simp [stringTail, simpleEscape?], fun _ => rfl⟩
  · rename_i quote backslash _ _ _ _ _
    by_cases control : c.toNat < 0x20
    · have plain : isTrailing c.toNat = false ∧ isLeading c.toNat = false := by
        simp only [isTrailing, isLeading, Bool.and_eq_false_iff, decide_eq_false_iff_not]
        omega
      refine ⟨if exactly then c :: done else done, ?_, fun exact_ => if_pos exact_⟩
      rw [if_pos control]
      simp only [List.cons_append, List.nil_append]
      rw [stringTail, hex_quad_of_control _ control]
      cases exactly with
      | true => simp [plain]
      | false => rfl
    · refine ⟨c :: done, ?_, fun _ => rfl⟩
      rw [if_neg control, List.singleton_append, stringTail, if_neg control]
      · exact quote
      · exact fun same _ => backslash same
      · exact fun _ _ _ _ _ same _ => backslash same
      · exact fun _ same _ => backslash same
      · exact fun _ _ same _ => backslash same

theorem string_tail_of_text (exactly : Bool) (text done rest : List Char) :
    ∃ found, stringTail exactly done (text.flatMap Json.escapedChar ++ '"' :: rest) = .ok (found, rest) ∧
      (exactly = true → found = done.reverse ++ text) := by
  induction text generalizing done with
  | nil => exact ⟨done.reverse, by simp [stringTail], by simp⟩
  | cons c text ih =>
      obtain ⟨done', first, known⟩ :=
        string_tail_of_char exactly c done (text.flatMap Json.escapedChar ++ '"' :: rest)
      obtain ⟨found, later, known'⟩ := ih done'
      refine ⟨found, ?_, fun exact_ => ?_⟩
      · rw [List.flatMap_cons, List.append_assoc, first, later]
      · rw [known' exact_, known exact_]
        simp

theorem string_passed (exactly : Bool) (text : String) (rest : List Char) :
    ∃ found, string exactly (Json.stringThen text rest) = .ok (found, rest) ∧
      (exactly = true → found = text) := by
  obtain ⟨found, tail, known⟩ := string_tail_of_text exactly text.toList [] rest
  refine ⟨String.ofList found, ?_, fun exact_ => ?_⟩
  · rw [string, bind_ok (skip 1) _ _ (text.toList.flatMap Json.escapedChar ++ '"' :: rest) () rfl,
      bind_ok get _ _ _ _ rfl, tail]
    rfl
  · rw [known exact_]
    exact String.ofList_toList

theorem string_of_text (text : String) (rest : List Char) :
    string true (Json.stringThen text rest) = .ok (text, rest) := by
  obtain ⟨found, read, known⟩ := string_passed true text rest
  rw [read, known rfl]

theorem peek_after (blank rest : List Char) (c : Char) (spaces : ∀ d ∈ blank, isSpace d = true)
    (solid : isSpace c = false) : peek (blank ++ c :: rest) = .ok (some c, c :: rest) := by
  have skipped : (blank ++ c :: rest).dropWhile isSpace = c :: rest := by
    rw [List.dropWhile_append_of_pos spaces, List.dropWhile_cons_of_neg]
    simp [solid]
  rw [peek, bind_ok skipSpace _ _ (c :: rest) () ?_]
  · rfl
  · change Except.ok ((), (blank ++ c :: rest).dropWhile isSpace) = _
    rw [skipped]

theorem peek_at (c : Char) (text : List Char) (solid : isSpace c = false) :
    peek (c :: text) = .ok (some c, c :: text) :=
  peek_after [] text c (by simp) solid

theorem word_of_text (text rest : List Char) : word text (text ++ rest) = .ok ((), rest) := by
  induction text with
  | nil => rfl
  | cons c text ih =>
      rw [word, bind_ok get _ _ _ _ rfl]
      change (if c = c then _ else _ : Reader Unit) _ = _
      rw [if_pos rfl]
      exact ih


-- The reader gives what is expected and leaves the rest, or fails if nothing is expected.
def Answers {α : Type} (result : Except ReadFault (α × List Char)) (rest : List Char) : Option α → Prop
  | some a => result = .ok (a, rest)
  | none => ∃ fault, result = .error fault

section Answers

variable {α β : Type}

theorem answers_bind (first : Reader α) (next : α → Reader β) (text rest left : List Char)
    (expected : Option α) (later : α → Option β) (one : Answers (first text) rest expected)
    (two : ∀ a, Answers (next a rest) left (later a)) :
    Answers ((first >>= next) text) left (expected.bind later) := by
  cases expected with
  | none =>
      obtain ⟨fault, failed⟩ := one
      exact ⟨fault, bind_error first next text fault failed⟩
  | some a =>
      have same : (first >>= next) text = next a rest := bind_ok first next text rest a one
      rw [same]
      exact two a

theorem answers_after (first : Reader α) (next : α → Reader β) (text rest left : List Char) (a : α)
    (expected : Option β) (one : first text = .ok (a, rest)) (two : Answers (next a rest) left expected) :
    Answers ((first >>= next) text) left expected := by
  rw [bind_ok first next text rest a one]
  exact two

theorem answers_map (first : Reader α) (f : α → β) (text rest : List Char) (expected : Option α)
    (one : Answers (first text) rest expected) :
    Answers ((first >>= fun a => pure (f a)) text) rest (expected.map f) := by
  rw [Option.map_eq_bind]
  apply answers_bind _ _ _ _ _ _ _ one
  intro a
  rfl

end Answers

theorem value_of_atom (exactly : Bool) (levels : Nat) (c : Char) (text : List Char)
    (solid : isSpace c = false) (array : c ≠ '[') (object : c ≠ '{') :
    value exactly levels (c :: text) = atom exactly c (c :: text) := by
  have head := peek_at c text solid
  cases levels with
  | zero =>
      rw [value, bind_ok _ _ _ _ _ head]
  | succ levels =>
      rw [value, bind_ok _ _ _ _ _ head]
      generalize first : some c = found
      split
      · contradiction
      · injection first with same
        contradiction
      · injection first with same
        contradiction
      · injection first with same
        rw [same]

theorem atom_of_number (exactly : Bool) (c : Char) (number_ : c = '-' ∨ c.isDigit = true) :
    atom exactly c = number exactly := by
  unfold atom
  split
  · exact absurd number_ (by decide)
  · exact absurd number_ (by decide)
  · exact absurd number_ (by decide)
  · exact absurd number_ (by decide)
  · rw [if_pos (by simpa using number_)]

-- What can stand at the front of a value.
def Solid (c : Char) : Prop :=
  isSpace c = false ∧ c ≠ ']'

theorem number_start (c : Char) (number_ : c = '-' ∨ c.isDigit = true) :
    Solid c ∧ c ≠ '[' ∧ c ≠ '{' := by
  have space : isSpace c = false := by
    by_contra space
    simp only [isSpace, Bool.not_eq_false, Bool.or_eq_true, beq_iff_eq] at space
    rcases space with ((space | space) | space) | space
    all_goals
      rw [space] at number_
      exact absurd number_ (by decide)
  have other : ∀ d, ¬ (d = '-' ∨ d.isDigit = true) → c ≠ d := fun d no same => no (same ▸ number_)
  exact ⟨⟨space, other ']' (by decide)⟩, other '[' (by decide), other '{' (by decide)⟩

theorem value_of_number (levels : Nat) (text rest : List Char) (v : Json) (first : NumberFirst text)
    (read : number true text = .ok (v, [])) (stops : Stops rest) :
    value true levels (text ++ rest) = .ok (v, rest) := by
  obtain ⟨c, head, number_⟩ := first
  obtain ⟨more, same⟩ := List.head?_eq_some_iff.mp head
  obtain ⟨solid, array, object⟩ := number_start c number_
  have whole := local_number true text v [] rest read stops
  rw [same, List.cons_append] at whole ⊢
  rw [value_of_atom true levels c _ solid.1 array object, atom_of_number true c number_]
  exact whole

theorem value_of_string (levels : Nat) (text : String) (rest : List Char) :
    value true levels (Json.stringThen text rest) = .ok (.string text, rest) := by
  have read := string_of_text text rest
  rw [Json.stringThen] at read ⊢
  rw [value_of_atom true levels '"' _ (by decide) (by decide) (by decide)]
  change (string true >>= fun found => pure (Json.string found)) _ = _
  rw [bind_ok _ _ _ _ _ read]
  rfl

theorem value_of_word (levels : Nat) (c : Char) (word_ : List Char) (v : Json) (rest : List Char)
    (solid : isSpace c = false) (array : c ≠ '[') (object : c ≠ '{')
    (known : atom true c = (word (c :: word_) >>= fun _ => pure v)) :
    value true levels (c :: word_ ++ rest) = .ok (v, rest) := by
  have read := word_of_text (c :: word_) rest
  rw [List.cons_append] at read ⊢
  rw [value_of_atom true levels c _ solid array object, known, bind_ok _ _ _ _ _ read]
  rfl

section Items

variable (blank rest : List Char) (spaces : ∀ d ∈ blank, isSpace d = true)

include spaces

theorem next_item_end (first : Bool) :
    nextItem first (blank ++ ']' :: rest) = .ok (false, ']' :: rest) := by
  rw [nextItem, bind_ok _ _ _ _ _ (peek_after blank rest ']' spaces (by decide))]
  rfl

theorem next_item_first (c : Char) (solid : Solid c) :
    nextItem true (blank ++ c :: rest) = .ok (true, c :: rest) := by
  rw [nextItem, bind_ok _ _ _ _ _ (peek_after blank rest c spaces solid.1)]
  generalize same : some c = found
  split
  · contradiction
  · injection same with same
    exact absurd same solid.2
  · rfl

theorem next_item_later (c : Char) (solid : Solid c) :
    nextItem false (',' :: (blank ++ c :: rest)) = .ok (true, c :: rest) := by
  rw [nextItem, bind_ok _ _ _ _ _ (peek_at ',' _ (by decide))]
  refine (bind_ok (skip 1) _ _ (blank ++ c :: rest) () rfl).trans ?_
  rw [bind_ok _ _ _ _ _ (peek_after blank rest c spaces solid.1)]
  generalize same : some c = found
  split
  · contradiction
  · injection same with same
    exact absurd same solid.2
  · rfl

theorem close_array_after : closeArray (blank ++ ']' :: rest) = .ok ((), rest) := by
  rw [closeArray, bind_ok _ _ _ _ _ (peek_after blank rest ']' spaces (by decide))]
  rfl

theorem next_member_end (first : Bool) :
    nextMember first (blank ++ '}' :: rest) = .ok (false, '}' :: rest) := by
  rw [nextMember, bind_ok _ _ _ _ _ (peek_after blank rest '}' spaces (by decide))]
  rfl

theorem next_member_first (name : String) :
    nextMember true (blank ++ Json.stringThen name rest) = .ok (true, Json.stringThen name rest) := by
  unfold Json.stringThen
  rw [nextMember, bind_ok _ _ _ _ _ (peek_after blank _ '"' spaces (by decide))]
  rfl

theorem next_member_later (name : String) :
    nextMember false (',' :: (blank ++ Json.stringThen name rest)) = .ok (true, Json.stringThen name rest) := by
  unfold Json.stringThen
  rw [nextMember, bind_ok _ _ _ _ _ (peek_at ',' _ (by decide))]
  refine (bind_ok (skip 1) _ _ (blank ++ '"' :: _) () rfl).trans ?_
  rw [bind_ok _ _ _ _ _ (peek_after blank _ '"' spaces (by decide))]
  rfl

theorem close_object_after : closeObject (blank ++ '}' :: rest) = .ok ((), rest) := by
  rw [closeObject, bind_ok _ _ _ _ _ (peek_after blank rest '}' spaces (by decide))]
  rfl

theorem stops_after (c : Char) (behind : Stops (c :: rest)) : Stops (blank ++ c :: rest) := by
  cases blank with
  | nil => exact behind
  | cons d blank =>
      have space := spaces d (by simp)
      simp only [isSpace, Bool.or_eq_true, beq_iff_eq] at space
      intro e head
      injection head with same
      rw [← same]
      rcases space with ((space | space) | space) | space
      all_goals
        rw [space]
        decide

end Items

end Reader

namespace Layout

variable (layout : Layout) (level : Nat)

theorem text_first (v : Json) (rest : List Char) :
    ∃ c more, layout.textThen level v rest = c :: more ∧ Reader.Solid c := by
  have number_ : ∀ text, NumberFirst text → ∃ c more, text ++ rest = c :: more ∧ Reader.Solid c := by
    intro text first
    obtain ⟨c, head, number_⟩ := first
    obtain ⟨more, same⟩ := List.head?_eq_some_iff.mp head
    exact ⟨c, more ++ rest, by rw [same, List.cons_append], (Reader.number_start c number_).1⟩
  match v with
  | .null => exact ⟨'n', _, rfl, by decide, by decide⟩
  | .boolean true => exact ⟨'t', _, rfl, by decide, by decide⟩
  | .boolean false => exact ⟨'f', _, rfl, by decide, by decide⟩
  | .integer i => exact number_ i.jsonText i.number_first
  | .float x => exact number_ x.jsonText x.number_first
  | .string text => exact ⟨'"', _, rfl, by decide, by decide⟩
  | .array [] => exact ⟨'[', _, rfl, by decide, by decide⟩
  | .array (_ :: _) => exact ⟨'[', _, rfl, by decide, by decide⟩
  | .object [] => exact ⟨'{', _, rfl, by decide, by decide⟩
  | .object (_ :: _) => exact ⟨'{', _, rfl, by decide, by decide⟩

mutual
theorem text_length (level : Nat) (v : Json) (rest : List Char) :
    rest.length ≤ (layout.textThen level v rest).length := by
  match v with
  | .null | .boolean true | .boolean false | .array [] | .object [] =>
      simp [textThen, Json.atomThen]
      omega
  | .integer i =>
      simp only [textThen, Json.atomThen, List.length_append]
      omega
  | .float x => simp [textThen, Json.atomThen]
  | .string text =>
      simp only [textThen, Json.atomThen, Json.stringThen, List.length_cons, List.length_append]
      omega
  | .array (item :: items) =>
      have first := text_length (level + 1) item
        (layout.itemsThen (level + 1) items (layout.line level ++ ']' :: rest))
      have later := items_length (level + 1) items (layout.line level ++ ']' :: rest)
      simp only [textThen, List.length_cons, List.length_append] at *
      omega
  | .object (member :: members) =>
      have first := member_length (level + 1) member
        (layout.membersThen (level + 1) members (layout.line level ++ '}' :: rest))
      have later := members_length (level + 1) members (layout.line level ++ '}' :: rest)
      simp only [textThen, List.length_cons, List.length_append] at *
      omega

theorem items_length (level : Nat) (items : List Json) (rest : List Char) :
    items.length + rest.length ≤ (layout.itemsThen level items rest).length := by
  match items with
  | [] => simp [itemsThen]
  | item :: items =>
      have first := text_length level item (layout.itemsThen level items rest)
      have later := items_length level items rest
      simp only [itemsThen, List.length_cons, List.length_append]
      omega

theorem member_length (level : Nat) (member : String × Json) (rest : List Char) :
    rest.length ≤ (layout.memberThen level member rest).length := by
  match member with
  | (name, v) =>
      have value := text_length level v rest
      simp only [memberThen, Json.stringThen, List.length_cons, List.length_append]
      omega

theorem members_length (level : Nat) (members : List (String × Json)) (rest : List Char) :
    members.length + rest.length ≤ (layout.membersThen level members rest).length := by
  match members with
  | [] => simp [membersThen]
  | member :: members =>
      have first := member_length level member (layout.membersThen level members rest)
      have later := members_length level members rest
      simp only [membersThen, List.length_cons, List.length_append]
      omega
end

end Layout

namespace Reader

theorem stops_comma (text : List Char) : Stops (',' :: text) := by
  intro c head
  injection head with same
  rw [← same]
  decide

section Loops

variable {σ : Type} (layout : Layout) (level outer : Nat)

theorem items_then_stops (items : List Json) (rest : List Char) :
    Stops (layout.itemsThen level items (layout.line outer ++ ']' :: rest)) := by
  cases items with
  | nil =>
      apply stops_after _ _ (layout.line_blank outer)
      intro c head
      injection head with same
      rw [← same]
      decide
  | cons v items => exact stops_comma _

theorem items_loop_answers (item : σ → Reader σ) (step : σ → Json → Option σ) (rounds : Nat)
    (items : List Json) (state : σ) (rest : List Char) (enough : items.length < rounds)
    (each : ∀ v ∈ items, ∀ state rest, Stops rest →
      Answers (item state (layout.textThen level v rest)) rest (step state v)) :
    Answers (itemsLoop item rounds false state
      (layout.itemsThen level items (layout.line outer ++ ']' :: rest))) (']' :: rest)
      (items.foldlM step state) := by
  induction items generalizing rounds state with
  | nil =>
      cases rounds with
      | zero => contradiction
      | succ rounds =>
          apply answers_after _ _ _ _ _ _ _ (next_item_end _ rest (layout.line_blank outer) false)
          rfl
  | cons v items ih =>
      cases rounds with
      | zero => contradiction
      | succ rounds =>
          obtain ⟨c, more, same, solid⟩ := layout.text_first level v
            (layout.itemsThen level items (layout.line outer ++ ']' :: rest))
          have next := next_item_later _ more (layout.line_blank level) c solid
          rw [← same] at next
          apply answers_after _ _ _ _ _ _ _ next
          rw [List.foldlM_cons]
          have one := each v (by simp) state _ (items_then_stops layout level outer items rest)
          apply answers_bind _ _ _ _ _ _ _ one
          intro state
          apply ih rounds state
          · simpa using enough
          · intro w member
            exact each w (by simp [member])

theorem first_items_answers (item : σ → Reader σ) (step : σ → Json → Option σ) (v : Json) (list : List Json)
    (start : σ) (text rest : List Char)
    (written : text = layout.line level ++ layout.textThen level v
      (layout.itemsThen level list (layout.line outer ++ ']' :: rest)))
    (each : ∀ v' ∈ v :: list, ∀ state rest, Stops rest →
      Answers (item state (layout.textThen level v' rest)) rest (step state v')) :
    Answers (itemsLoop item (text.length + 1) true start text) (']' :: rest)
      ((v :: list).foldlM step start) := by
  have enough : list.length < text.length := by
    have behind := layout.items_length level list (layout.line outer ++ ']' :: rest)
    have front := layout.text_length level v (layout.itemsThen level list (layout.line outer ++ ']' :: rest))
    rw [List.length_append, List.length_cons] at behind
    rw [written, List.length_append]
    omega
  obtain ⟨c, more, same, solid⟩ := layout.text_first level v
    (layout.itemsThen level list (layout.line outer ++ ']' :: rest))
  have next := next_item_first _ more (layout.line_blank level) c solid
  rw [← same, ← written] at next
  apply answers_after _ _ _ _ _ _ _ next
  rw [List.foldlM_cons]
  have one := each v (by simp) start _ (items_then_stops layout level outer list rest)
  apply answers_bind _ _ _ _ _ _ _ one
  intro state
  apply items_loop_answers layout level outer item step _ _ _ _ enough
  intro w member
  exact each w (by simp [member])

theorem items_answers (item : σ → Reader σ) (step : σ → Json → Option σ) (list : List Json) (start : σ)
    (rest : List Char)
    (each : ∀ v ∈ list, ∀ state rest, Stops rest →
      Answers (item state (layout.textThen (level + 1) v rest)) rest (step state v)) :
    Answers (items item start (layout.textThen level (.array list) rest)) rest (list.foldlM step start) := by
  have close : ∀ state : σ, Answers ((closeArray >>= fun _ => pure state) (']' :: rest)) rest (some state) := by
    intro state
    exact answers_after _ _ _ rest _ () _ (close_array_after [] rest (by simp)) rfl
  cases list with
  | nil => exact close start
  | cons v list =>
      have loop := first_items_answers layout (level + 1) level item step v list start _ rest rfl each
      have closed := answers_bind _ _ _ _ _ _ some loop close
      rw [Option.bind_fun_some] at closed
      exact closed

theorem members_then_stops (members : List (String × Json)) (rest : List Char) :
    Stops (layout.membersThen level members (layout.line outer ++ '}' :: rest)) := by
  cases members with
  | nil =>
      apply stops_after _ _ (layout.line_blank outer)
      intro c head
      injection head with same
      rw [← same]
      decide
  | cons m members => exact stops_comma _

-- The name of a member is read, and the part from the colon on is given to `member`.
theorem member_answers (member : σ → String → Reader σ) (next : σ → Reader σ) (later : σ → Option σ)
    (name : String) (v : Json) (state : σ) (stepped : Option σ) (rest left : List Char)
    (one : Answers (member state name (':' :: (layout.colon ++ layout.textThen level v rest))) rest stepped)
    (two : ∀ state, Answers (next state rest) left (later state)) :
    Answers ((string true >>= fun name => member state name >>= next)
      (layout.memberThen level (name, v) rest)) left (stepped.bind later) := by
  apply answers_after _ _ _ _ _ _ _ (string_of_text name _)
  exact answers_bind _ _ _ _ _ _ _ one two

theorem members_loop_answers (member : σ → String → Reader σ) (step : σ → String × Json → Option σ)
    (rounds : Nat) (members : List (String × Json)) (state : σ) (rest : List Char)
    (enough : members.length < rounds)
    (each : ∀ m ∈ members, ∀ state rest, Stops rest →
      Answers (member state m.1 (':' :: (layout.colon ++ layout.textThen level m.2 rest))) rest
        (step state m)) :
    Answers (membersLoop true member rounds false state
      (layout.membersThen level members (layout.line outer ++ '}' :: rest))) ('}' :: rest)
      (members.foldlM step state) := by
  induction members generalizing rounds state with
  | nil =>
      cases rounds with
      | zero => contradiction
      | succ rounds =>
          apply answers_after _ _ _ _ _ _ _ (next_member_end _ rest (layout.line_blank outer) false)
          rfl
  | cons m members ih =>
      cases rounds with
      | zero => contradiction
      | succ rounds =>
          obtain ⟨name, v⟩ := m
          apply answers_after _ _ _ _ _ _ _ (next_member_later _ _ (layout.line_blank level) name)
          rw [List.foldlM_cons]
          have one := each (name, v) (by simp) state _ (members_then_stops layout level outer members rest)
          apply member_answers layout level member _ _ name v state _ _ _ one
          intro state
          apply ih rounds state
          · simpa using enough
          · intro w found
            exact each w (by simp [found])

theorem first_members_answers (member : σ → String → Reader σ) (step : σ → String × Json → Option σ)
    (m : String × Json) (list : List (String × Json)) (start : σ) (text rest : List Char)
    (written : text = layout.line level ++ layout.memberThen level m
      (layout.membersThen level list (layout.line outer ++ '}' :: rest)))
    (each : ∀ m' ∈ m :: list, ∀ state rest, Stops rest →
      Answers (member state m'.1 (':' :: (layout.colon ++ layout.textThen level m'.2 rest))) rest
        (step state m')) :
    Answers (membersLoop true member (text.length + 1) true start text) ('}' :: rest)
      ((m :: list).foldlM step start) := by
  have enough : list.length < text.length := by
    have behind := layout.members_length level list (layout.line outer ++ '}' :: rest)
    have front := layout.member_length level m
      (layout.membersThen level list (layout.line outer ++ '}' :: rest))
    rw [List.length_append, List.length_cons] at behind
    rw [written, List.length_append]
    omega
  obtain ⟨name, v⟩ := m
  have next := next_member_first _ (':' :: (layout.colon ++ layout.textThen level v
    (layout.membersThen level list (layout.line outer ++ '}' :: rest)))) (layout.line_blank level) name
  change nextMember true (layout.line level ++ layout.memberThen level (name, v) _) = _ at next
  rw [← written] at next
  apply answers_after _ _ _ _ _ _ _ next
  rw [List.foldlM_cons]
  have one := each (name, v) (by simp) start _ (members_then_stops layout level outer list rest)
  apply member_answers layout level member _ _ name v start _ _ _ one
  intro state
  apply members_loop_answers layout level outer member step _ _ _ _ enough
  intro w found
  exact each w (by simp [found])

theorem members_answers (member : σ → String → Reader σ) (step : σ → String × Json → Option σ)
    (list : List (String × Json)) (start : σ) (rest : List Char)
    (each : ∀ m ∈ list, ∀ state rest, Stops rest →
      Answers (member state m.1 (':' :: (layout.colon ++ layout.textThen (level + 1) m.2 rest))) rest
        (step state m)) :
    Answers (members true member start (layout.textThen level (.object list) rest)) rest
      (list.foldlM step start) := by
  have close : ∀ state : σ, Answers ((closeObject >>= fun _ => pure state) ('}' :: rest)) rest (some state) := by
    intro state
    exact answers_after _ _ _ rest _ () _ (close_object_after [] rest (by simp)) rfl
  cases list with
  | nil => exact close start
  | cons m list =>
      have loop := first_members_answers layout (level + 1) level member step m list start _ rest rfl each
      have closed := answers_bind _ _ _ _ _ _ some loop close
      rw [Option.bind_fun_some] at closed
      exact closed

end Loops

end Reader

end ScriptFront
