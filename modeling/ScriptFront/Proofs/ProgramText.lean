import ScriptFront.Proofs.AcceptedLanguage
import ScriptFront.Proofs.ReadText
import ScriptFront.Proofs.SameTrees
import ScriptFront.Proofs.TreeFormats
import ScriptFront.Tree.Text

set_option autoImplicit false

/-! Reading a program from the text that is written for it. -/

namespace ScriptFront

namespace Reader

theorem run_on_answers {α : Type} (reader : Reader α) (text : List Char) (expected : Option α)
    (answers : Answers (reader text) [] expected) :
    (reader.runOn (String.ofList text)).toOption = expected := by
  unfold runOn
  rw [String.toList_ofList]
  cases expected with
  | none =>
      obtain ⟨fault, failed⟩ := answers
      change (((reader >>= fun found => finish >>= fun _ => pure found) text).map Prod.fst).toOption = _
      rw [bind_error _ _ _ fault failed]
      rfl
  | some a =>
      have same : reader text = .ok (a, []) := answers
      change (((reader >>= fun found => finish >>= fun _ => pure found) text).map Prod.fst).toOption = _
      rw [bind_ok _ _ _ [] a same]
      rfl

theorem of_except_answers {α : Type} (result : Except Fault α) (rest : List Char) :
    Answers (ofExcept result rest) rest result.toOption := by
  cases result with
  | ok a => rfl
  | error fault => exact ⟨.data fault, rfl⟩

variable (layout : Layout)

theorem statement_reader_answers (v : Json) (level : Nat) (rest : List Char) (stops : Stops rest)
    (back : ∀ x ∈ v.floats, x.Legible) :
    Answers (statementReader (layout.textThen level v rest)) rest
      ((fitting (Json.nestingLimit - 2) v).bind fun v => v.reading.statement.toOption) := by
  apply answers_bind _ _ _ _ _ _ _ (value_answers layout v _ level rest stops back)
  intro v
  exact of_except_answers _ rest

theorem skip_string (level : Nat) (text : String) (rest : List Char) :
    skipValue (layout.colon ++ layout.textThen level (.string text) rest) = .ok ((), rest) := by
  obtain ⟨found, read, _⟩ := string_passed false text rest
  unfold Json.stringThen at read
  rw [skipValue, bind_ok get _ _ _ _ rfl]
  change (value false _ >>= fun _ => pure ()) (layout.colon ++ '"' :: _) = _
  rw [bind_ok _ _ _ rest (.string found)]
  · rfl
  · rw [value_after _ _ _ _ _ layout.colon_blank (by decide),
      value_of_atom _ _ _ _ (by decide) (by decide) (by decide)]
    change (string false >>= fun found => pure (Json.string found)) _ = _
    rw [bind_ok _ _ _ _ _ read]
    rfl

theorem list_answers {α : Type} (item : Reader α) (f : Json → Option α) (list : List Json) (level : Nat)
    (rest : List Char)
    (each : ∀ v ∈ list, ∀ rest, Stops rest →
      Answers (item (layout.textThen (level + 1) v rest)) rest (f v)) :
    Answers (Reader.list item (layout.colon ++ layout.textThen level (.array list) rest)) rest
      (list.mapM f) := by
  obtain ⟨more, same⟩ := array_start layout level list rest
  have listed := listed_answers layout item f list level rest each
  rw [same] at listed ⊢
  exact answers_after _ _ _ _ _ _ _ (peek_after _ more '[' layout.colon_blank (by decide)) listed

-- What is found so far in a record with one field, after one more member.
def afterMember {α : Type} (field : String) (expected found : Option α) (m : String × Json) :
    Option (Option α) :=
  if m.1 = field then
    match found with
    | some _ => none
    | none => expected.map some
  else some found

-- A node with one field behind its kind.
theorem field_step_answers {α : Type} (kind field : String) (read : Reader α) (v : Json)
    (expected : Option α) (level : Nat) (other : "type" ≠ field)
    (each : ∀ rest, Stops rest → Answers (read (layout.colon ++ layout.textThen level v rest)) rest expected) :
    ∀ m ∈ [("type", Json.string kind), (field, v)], ∀ found rest, Stops rest →
      Answers (fieldStep field read found m.1 (':' :: (layout.colon ++ layout.textThen level m.2 rest))) rest
        (afterMember field expected found m) := by
  intro m member found rest stops
  rw [List.mem_cons, List.mem_singleton] at member
  rcases member with same | same
  · rw [same]
    dsimp only [fieldStep, afterMember]
    rw [if_neg other, if_neg other]
    apply answers_after _ _ _ _ _ _ _ (colon_at _)
    exact answers_after _ _ _ _ _ _ _ (skip_string layout level kind rest) rfl
  · rw [same]
    dsimp only [fieldStep, afterMember]
    rw [if_pos rfl, if_pos rfl]
    cases found with
    | some a => exact ⟨.data (.duplicateField field), rfl⟩
    | none =>
        apply answers_after _ _ _ _ _ _ _ (colon_at _)
        exact answers_map _ some _ _ _ (each rest stops)

theorem record_answers {α : Type} (name kind field : String) (read : Reader α) (v : Json)
    (expected : Option α) (level : Nat) (rest : List Char) (noMember noItem : Except Fault α)
    (other : "type" ≠ field)
    (each : ∀ rest, Stops rest →
      Answers (read (layout.colon ++ layout.textThen (level + 1) v rest)) rest expected) :
    Answers (record name field read noMember noItem
      (layout.textThen level (nodeJson kind [(field, v)]) rest)) rest expected := by
  obtain ⟨more, same⟩ := object_start layout level [("type", .string kind), (field, v)] rest
  have steps := field_step_answers layout kind field read v expected (level + 1) other each
  have found := members_answers layout level (fieldStep field read) (afterMember field expected)
    [("type", .string kind), (field, v)] none rest steps
  have stepped : List.foldlM (afterMember field expected) none [("type", Json.string kind), (field, v)] =
      expected.map some := by
    simp [List.foldlM, afterMember, other]
  have last : ∀ found : Option α,
      Answers ((match found with
        | some found => pure found
        | none => ofExcept noMember : Reader α) rest) rest (found.or noMember.toOption) := by
    intro found
    cases found with
    | none => exact of_except_answers noMember rest
    | some a => rfl
  have given : ((expected.map some).bind fun found => found.or noMember.toOption) = expected := by
    cases expected <;> rfl
  rw [stepped, same] at found
  rw [nodeJson, same]
  unfold record
  apply answers_after _ _ _ _ _ _ _ (peek_at '{' more (by decide))
  have whole := answers_bind _ _ _ _ _ _ _ found last
  rw [given] at whole
  exact whole

end Reader

-- A program is read back from its text as from its value, unless it is nested too deep.
theorem program_reader_answers (layout : Layout) (p : Program) (level : Nat) (rest : List Char)
    (back : ∀ x ∈ p.toJson.floats, x.Legible) :
    Reader.Answers (Program.reader (layout.textThen level p.toJson rest)) rest
      (((statementsJson p.body).mapM fun v => (Reader.fitting (Json.nestingLimit - 2) v).bind fun v =>
        v.reading.statement.toOption).map Program.mk) := by
  apply Reader.record_answers layout _ "Program" "body" _ _ _ _ _ _ _ (by decide)
  intro rest stops
  apply Reader.answers_map
  apply Reader.list_answers
  intro v member rest stops
  apply Reader.statement_reader_answers layout v _ rest stops
  intro x inside
  apply back
  simp only [Program.toJson, nodeJson, Json.floats, Json.membersFloats, Json.items_floats_eq, List.append_nil,
    List.nil_append, List.mem_flatMap]
  exact ⟨v, member, inside⟩

theorem fitting_statements (list : List Json) (levels : Nat) :
    (list.mapM fun v => (Reader.fitting levels v).bind fun v => v.reading.statement.toOption) =
      if ∀ v ∈ list, v.depth ≤ levels then ((readings list).mapM Reading.statement).toOption else none := by
  induction list with
  | nil => rfl
  | cons v list ih =>
      have every :
          (∀ w ∈ v :: list, w.depth ≤ levels) ↔ v.depth ≤ levels ∧ ∀ w ∈ list, w.depth ≤ levels :=
        List.forall_mem_cons
      rw [List.mapM_cons, ih, readings, List.mapM_cons]
      by_cases first : v.depth ≤ levels
      · have fits : Reader.fitting levels v = some v := if_pos first
        rw [fits]
        by_cases all : ∀ w ∈ list, w.depth ≤ levels
        · rw [if_pos all, if_pos (every.mpr ⟨first, all⟩), Option.bind_some]
          cases v.reading.statement with
          | error fault => rfl
          | ok s => cases (readings list).mapM Reading.statement <;> rfl
        · rw [if_neg all, if_neg fun deep => all (every.mp deep).2, Option.bind_some]
          cases v.reading.statement <;> rfl
      · have fits : Reader.fitting levels v = none := if_neg first
        rw [fits, if_neg fun deep => first (every.mp deep).1]
        rfl

theorem program_depth_le_iff (p : Program) (levels : Nat) :
    p.toJson.depth ≤ levels + 2 ↔ ∀ v ∈ statementsJson p.body, v.depth ≤ levels := by
  rw [← Json.items_depth_le_iff]
  simp [Program.toJson, nodeJson, Json.depth, Json.membersDepth]

theorem program_of_text (layout : Layout) (p : Program) (back : ∀ x ∈ p.toJson.floats, x.Legible) :
    (Program.ofText (String.ofList (layout.textThen 0 p.toJson []))).toOption =
      if p.toJson.depth ≤ Json.nestingLimit then p.toJson.node.program.toOption else none := by
  have answers := Reader.run_on_answers _ _ _ (program_reader_answers layout p 0 [] back)
  have fits := program_depth_le_iff p (Json.nestingLimit - 2)
  have value : p.toJson.node.program =
      ((readings (statementsJson p.body)).mapM Reading.statement).map Program.mk := by
    change (do
      let body ← ((readings (statementsJson p.body)).mapM Reading.statement).map some
      required "body" body).map Program.mk = _
    cases (readings (statementsJson p.body)).mapM Reading.statement <;> rfl
  rw [Program.ofText, answers, fitting_statements, value]
  by_cases shallow : p.toJson.depth ≤ Json.nestingLimit
  · rw [if_pos shallow, if_pos (fits.mp shallow)]
    cases (readings (statementsJson p.body)).mapM Reading.statement <;> rfl
  · rw [if_neg shallow, if_neg fun every => shallow (fits.mpr every)]
    rfl

theorem reads_as_iff {ε α : Type} (same : α → α → Bool) (result : Except ε α) (a : α) :
    ReadsAs same result a ↔ ∃ b, result.toOption = some b ∧ same b a = true := by
  cases result with
  | ok b => simp [ReadsAs, Except.toOption]
  | error fault => simp [ReadsAs, Except.toOption]

theorem value_read_back (p : Program) :
    ReadsAs Program.same p.toJson.node.program p ↔ AllFinite p.numbers := by
  constructor
  · rintro ⟨q, read, same⟩
    have finite := (program_format_round_trips.2 p.toJson q read).2.1
    exact statements_finite_of_same q.body p.body same finite
  · intro finite
    exact program_format_round_trips.1 p trivial finite

theorem text_read_back (layout : Layout) (p : Program) (back : ∀ x ∈ p.toJson.floats, x.Legible) :
    ReadsAs Program.same (Program.ofText (String.ofList (layout.textThen 0 p.toJson []))) p ↔
      AllFinite p.numbers ∧ p.toJson.depth ≤ Json.nestingLimit := by
  rw [reads_as_iff, program_of_text layout p back, ← value_read_back, reads_as_iff]
  by_cases shallow : p.toJson.depth ≤ Json.nestingLimit
  · simp [shallow]
  · simp [shallow]

-- What is written for an accepted program is read back as the same program: from the value just when
-- all numbers are finite, and from the text, where the text of each number is read as that number,
-- just when, besides, no more than the allowed arrays and objects are open at once.
theorem accepted_program_read_back (source : String) :
    ∀ p, parse Program.actions source = .ok p →
      (ReadsAs Program.same p.toJson.node.program p ↔ AllFinite p.numbers) ∧
      ((∀ x ∈ p.toJson.floats, x.Legible) →
        (ReadsAs Program.same (Program.ofText p.toJson.text) p ↔
          AllFinite p.numbers ∧ p.toJson.depth ≤ Json.nestingLimit) ∧
        (ReadsAs Program.same (Program.ofText p.toJson.indentedText) p ↔
          AllFinite p.numbers ∧ p.toJson.depth ≤ Json.nestingLimit)) := by
  intro p _
  refine ⟨value_read_back p, fun back => ?_⟩
  have line := text_read_back .compact p back
  have indented := text_read_back .indented p back
  rw [Layout.compact_text] at line
  rw [Layout.indented_text] at indented
  exact ⟨line, indented⟩

theorem exists_ok_of_check {ε α : Type} (result : Except ε α) (check : α → Bool)
    (passes : result.toOption.any check = true) : ∃ a, result = .ok a ∧ check a = true := by
  cases result with
  | ok a => exact ⟨a, rfl, passes⟩
  | error fault => contradiction

-- A number that is written with a point is among the parts.
theorem accepted_program_read_back_at_call :
    ∃ p, parse Program.actions "f(9007199254740993);" = .ok p ∧ p.toJson.floats ≠ [] ∧
      (∀ x ∈ p.toJson.floats, x.Legible) ∧ ReadsAs Program.same p.toJson.node.program p ∧
      ReadsAs Program.same (Program.ofText p.toJson.text) p ∧
      ReadsAs Program.same (Program.ofText p.toJson.indentedText) p := by
  obtain ⟨p, parsed, passes⟩ := exists_ok_of_check (parse Program.actions "f(9007199254740993);")
    (fun p => decide (p.toJson.floats ≠ [] ∧ (∀ x ∈ p.toJson.floats, x.Legible) ∧
      (∀ x ∈ p.numbers, x.isFinite = true) ∧ p.toJson.depth ≤ Json.nestingLimit)) (by decide +kernel)
  obtain ⟨floats, back, finite, shallow⟩ := of_decide_eq_true passes
  obtain ⟨value, text⟩ := accepted_program_read_back _ p parsed
  obtain ⟨line, indented⟩ := text back
  exact ⟨p, parsed, floats, back, value.mpr finite, line.mpr ⟨finite, shallow⟩,
    indented.mpr ⟨finite, shallow⟩⟩

-- Blocks within the nesting limit are read back from the value, but not from the text.
theorem open_blocks_refused :
    ∃ p, parse Program.actions (String.ofList (List.replicate 63 '{' ++ List.replicate 63 '}')) = .ok p ∧
      ReadsAs Program.same p.toJson.node.program p ∧
      ¬ ReadsAs Program.same (Program.ofText p.toJson.text) p := by
  obtain ⟨p, parsed, passes⟩ := exists_ok_of_check
    (parse Program.actions (String.ofList (List.replicate 63 '{' ++ List.replicate 63 '}')))
    (fun p => decide (p.toJson.floats = [] ∧ (∀ x ∈ p.numbers, x.isFinite = true) ∧
      Json.nestingLimit < p.toJson.depth)) (by decide +kernel)
  obtain ⟨floats, finite, deep⟩ := of_decide_eq_true passes
  have line := text_read_back .compact p (by simp [floats])
  rw [Layout.compact_text] at line
  refine ⟨p, parsed, (value_read_back p).mpr finite, fun read => ?_⟩
  have shallow := (line.mp read).2
  omega

end ScriptFront
