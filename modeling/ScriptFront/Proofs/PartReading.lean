import ScriptFront.Proofs.JsonSchema

set_option autoImplicit false

/-! Reading the parts of a value. When its parts are read exactly as their shapes say, the same holds of what
is put together from them, whichever part is looked at first. -/

namespace ScriptFront

-- A member or an item of a value.
inductive Json.PartOf : Json → Json → Prop where
  | member (members : List (String × Json)) (m : String × Json) : m ∈ members → Json.PartOf m.2 (.object members)
  | item (items : List Json) (part : Json) : part ∈ items → Json.PartOf part (.array items)

-- A reader reads the parts of a value exactly as a shape says.
def AgreesBelow {α : Type} (v : Json) (read : Reading → Except Fault α) (shape : Json → α → Prop) : Prop :=
  ∀ part : Json, part.PartOf v → ∀ a, read part.reading = .ok a ↔ shape part a

theorem ok_bind_iff {α β : Type} (result : Except Fault α) (next : α → Except Fault β) (b : β) :
    (result >>= next) = .ok b ↔ ∃ a, result = .ok a ∧ next a = .ok b := by
  cases result with
  | ok a => simp [Bind.bind, Except.bind]
  | error fault => simp [Bind.bind, Except.bind]

theorem ok_map_iff {α β : Type} (result : Except Fault α) (f : α → β) (b : β) :
    result.map f = .ok b ↔ ∃ a, result = .ok a ∧ f a = b := by
  cases result with
  | ok a => simp [Except.map]
  | error fault => simp [Except.map]

theorem pure_ok_iff {α : Type} (a b : α) : (pure a : Except Fault α) = .ok b ↔ a = b := by
  simp [pure, Except.pure]

theorem required_ok_iff {α : Type} (name : String) (o : Option α) (a : α) : required name o = .ok a ↔ o = some a := by
  cases o with
  | none => simp [required]
  | some b => simp [required]

theorem readings_eq (items : List Json) : readings items = items.map Json.reading := by
  induction items with
  | nil => rfl
  | cons item rest ih => rw [readings, ih, List.map_cons]

section Parts

variable {α : Type} {read : Reading → Except Fault α} {shape : Json → α → Prop}

@[simp] theorem needed_some_iff (part : Json) (a : α) : Needed shape (some part) a ↔ shape part a :=
  ⟨fun | .given _ _ fits => fits, .given part a⟩

@[simp] theorem not_needed_none (a : α) : ¬ Needed shape none a :=
  nofun

@[simp] theorem optional_none_iff (o : Option α) : Optional shape none o ↔ o = none :=
  ⟨fun | .missing => rfl, fun same => same ▸ .missing⟩

@[simp] theorem optional_null_iff (o : Option α) : Optional shape (some .null) o ↔ o = none :=
  ⟨fun | .null => rfl | .given _ _ other _ => absurd rfl other, fun same => same ▸ .null⟩

theorem optional_some_iff (part : Json) (other : part ≠ .null) (o : Option α) :
    Optional shape (some part) o ↔ ∃ a, o = some a ∧ shape part a := by
  constructor
  · intro optional
    cases optional with
    | null => contradiction
    | given _ a _ fits => exact ⟨a, rfl, fits⟩
  · rintro ⟨a, rfl, fits⟩
    exact .given part a other fits

theorem reading_optional_iff (part : Json) (agrees : ∀ a, read part.reading = .ok a ↔ shape part a) (o : Option α) :
    Reading.optional read part.reading = .ok o ↔ Optional shape (some part) o := by
  by_cases other : part = .null
  · subst other
    simp [Reading.optional, reading_value, eq_comm]
  · have given : Reading.optional read part.reading = (read part.reading).map some := by
      unfold Reading.optional
      rw [reading_value]
      cases part <;> first | contradiction | rfl
    rw [given, ok_map_iff, optional_some_iff part other]
    simp only [agrees, and_comm, eq_comm]

-- A member that is looked for is missing, or it is what it has to be.
def FieldIs (shape : Json → α → Prop) (part : Option Json) : Option α → Prop
  | none => part = none
  | some a => Needed shape part a

theorem field_ok_iff (members : List (String × Json)) (name : String)
    (agrees : AgreesBelow (.object members) read shape) (o : Option α) :
    (Json.object members).node.field? name read = .ok o ↔ FieldIs shape (lastOf name members) o := by
  have parts : (Json.object members).node.members = memberReadings members := rfl
  rw [Node.field?, parts, last_of_readings]
  cases found : lastOf name members with
  | none => cases o <;> simp [FieldIs]
  | some part =>
      obtain ⟨m, member, rfl⟩ := last_of_mem name members part found
      simp only [Option.map_some, ok_map_iff, agrees m.2 (.member members m member)]
      cases o <;> simp [FieldIs]

theorem optional_field_ok_iff (members : List (String × Json)) (name : String)
    (agrees : AgreesBelow (.object members) read shape) (o : Option α) :
    (Json.object members).node.optionalField name read = .ok o ↔ Optional shape (lastOf name members) o := by
  have below : AgreesBelow (.object members) (Reading.optional read) fun part => Optional shape (some part) :=
    fun part member o => reading_optional_iff part (agrees part member) o
  simp only [Node.optionalField, ok_map_iff, field_ok_iff members name below]
  cases lastOf name members with
  | none =>
    rw [optional_none_iff]
    constructor
    · rintro ⟨found, field, rfl⟩
      cases found with
      | none => rfl
      | some o => cases field
    · rintro rfl
      exact ⟨none, rfl, rfl⟩
  | some part =>
    constructor
    · rintro ⟨found, field, rfl⟩
      cases found with
      | none => cases field
      | some o => exact (needed_some_iff part o).mp field
    · exact fun fits => ⟨some o, .given part o fits, rfl⟩

theorem item_ok_iff (items : List Json) (record : String) (fields index : Nat)
    (agrees : AgreesBelow (.array items) read shape) (a : α) :
    (Json.array items).node.item record fields index read = .ok a ↔
      index < items.length ∧ Needed shape items[index]? a := by
  have parts : (Json.array items).node.items = items.map Json.reading := readings_eq items
  rw [Node.item, parts, List.getElem?_map]
  cases found : items[index]? with
  | none => simp
  | some part =>
      have inside := (List.getElem?_eq_some_iff.mp found).1
      simp [inside, agrees part (.item items part (List.mem_of_getElem? found))]

theorem optional_item_ok_iff (items : List Json) (record : String) (fields index : Nat)
    (agrees : AgreesBelow (.array items) read shape) (o : Option α) :
    (Json.array items).node.item record fields index (Reading.optional read) = .ok o ↔
      index < items.length ∧ Optional shape items[index]? o := by
  have below : AgreesBelow (.array items) (Reading.optional read) fun part => Optional shape (some part) :=
    fun part member o => reading_optional_iff part (agrees part member) o
  rw [item_ok_iff items record fields index below]
  apply and_congr_right
  intro inside
  rw [List.getElem?_eq_getElem inside, needed_some_iff]

theorem map_list_ok_iff (items : List Json) (agrees : ∀ part ∈ items, ∀ a, read part.reading = .ok a ↔ shape part a)
    (list : List α) : (items.map Json.reading).mapM read = .ok list ↔ List.Forall₂ shape items list := by
  induction items generalizing list with
  | nil => rw [List.map_nil, List.mapM_nil, pure_ok_iff, List.forall₂_nil_left_iff, eq_comm]
  | cons part rest ih =>
      simp only [List.map_cons, List.mapM_cons, ok_bind_iff, agrees part List.mem_cons_self,
        ih fun part' member => agrees part' (List.mem_cons_of_mem part member), pure_ok_iff, List.forall₂_cons_left_iff]
      constructor
      · rintro ⟨a, first, later, others, same⟩
        exact ⟨a, later, first, others, same.symm⟩
      · rintro ⟨a, later, first, others, same⟩
        exact ⟨a, first, later, others, same.symm⟩

theorem list_ok_iff (v : Json) (agrees : AgreesBelow v read shape) (list : List α) :
    v.node.list read = .ok list ↔ Listed shape v list := by
  cases v with
  | array items =>
      change (readings items).mapM read = _ ↔ _
      rw [readings_eq, map_list_ok_iff items fun part member => agrees part (.item items part member)]
      exact ⟨.items items list, fun | .items _ _ all => all⟩
  | _ => exact ⟨nofun, nofun⟩

end Parts

theorem no_more_items_ok_iff (items : List Json) (fields : Nat) (u : Unit) :
    (Json.array items).node.noMoreItems fields = .ok u ↔ items.length ≤ fields := by
  change (if fields < (readings items).length then Except.error _ else .ok ()) = _ ↔ _
  rw [readings_eq, List.length_map]
  split <;> simp <;> omega

-- A record is read exactly if its members or its items are.
theorem record_ok_iff {α : Type} (v : Json) (name : String) (names : List String) (ofMembers ofItems : Except Fault α)
    (fits : (String → Option Json) → Prop) (a : α)
    (members : ∀ members, v = .object members → (ofMembers = .ok a ↔ fits fun name => lastOf name members))
    (items : ∀ items, v = .array items →
      (ofItems = .ok a ↔ items.length = names.length ∧ fits fun name => items[names.idxOf name]?)) :
    v.node.record name ofMembers ofItems = .ok a ↔ ∃ parts, RecordParts names v parts ∧ fits parts := by
  unfold Node.record
  rw [node_value]
  constructor
  · intro found
    split at found
    · exact ⟨_, .members _, (members _ rfl).mp found⟩
    · obtain ⟨long, fit⟩ := (items _ rfl).mp found
      exact ⟨_, .items _ long, fit⟩
    · contradiction
  · rintro ⟨parts, record, fit⟩
    cases record with
    | members list => exact (members list rfl).mpr fit
    | items list long => exact (items list rfl).mpr ⟨long, fit⟩

end ScriptFront
