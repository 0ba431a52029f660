import QueryGate.Schema.Payload

/-!
# What the write gate depends on

What a role may write is settled by the fields that it may write, and a field that it may not write
should make no difference. This module compares the gate of a model with the gate of the same model
without any other fields (`QueryGate.Model.writableOnly`) and says where the two differ.

They differ in one way. A name is looked up among all fields, and the grants are asked afterwards:
they are those of the first field of the name. If the role may not write that one, a later field of
the name is out of its reach even though it may write it; the name is *shadowed*
(`QueryGate.Model.Shadows`). The gate refuses every entry for such a name, and apart from that it
depends on the fields that the role may write alone
(`QueryGate.Model.writablePayload_writableOnly`).
-/

namespace QueryGate.Model

variable {model : Model} {role : Role}

/-- **The model with the fields alone that a role may write.** -/
def writableOnly (model : Model) (role : Role) : Model :=
  { model with fields := model.fieldsFor role .write }

/-- **That a name is shadowed for a role**: there are fields of the name that the role may write,
but the first field of the name is none of them. -/
def Shadows (model : Model) (role : Role) (name : String) : Prop :=
  name ∈ (model.fieldsFor role .write).map Field.name ∧
    ∃ field, model.field? name = some field ∧ field.allows role .write = false

/-- The fields that the role may write are still those. -/
theorem fieldsFor_writableOnly :
    (model.writableOnly role).fieldsFor role .write = model.fieldsFor role .write := by
  rw [fieldsFor, writableOnly, fieldsFor, List.filter_filter]
  exact List.filter_congr fun field _ => Bool.and_self _

/-! ### One entry -/

/-- What is found under a name is a field of that name. -/
theorem mem_of_field? {name : String} {field : Field} (h : model.field? name = some field) :
    field ∈ model.fields ∧ field.name = name := by
  have hname := List.find?_some h
  exact ⟨List.mem_of_find?_eq_some h, of_decide_eq_true hname⟩

/-- A field that the role may write and that is the first of its name stays so. -/
theorem field?_writableOnly_of_allows {name : String} {field : Field}
    (h : model.field? name = some field) (hallowed : field.allows role .write = true) :
    (model.writableOnly role).field? name = some field := by
  obtain ⟨hname, before, behind, hfields, hothers⟩ := List.find?_eq_some_iff_append.mp h
  rw [field?, writableOnly, fieldsFor, hfields, List.filter_append, List.find?_append,
    List.find?_eq_none.mpr, Option.none_or, List.filter_cons, if_pos hallowed,
    List.find?_cons, hname]
  intro other hother
  simpa using hothers other (List.mem_filter.mp hother).1

/-- If there is no field of a name that the role may write, none is left. -/
theorem field?_writableOnly_of_not_mem {name : String}
    (h : name ∉ (model.fieldsFor role .write).map Field.name) :
    (model.writableOnly role).field? name = none := by
  refine List.find?_eq_none.mpr fun field hfield hname => h ?_
  exact List.mem_map.mpr ⟨field, hfield, of_decide_eq_true hname⟩

/-- An entry for a shadowed name is refused. -/
theorem writableColumn_of_shadows {name : String} (h : model.Shadows role name)
    (item : Payload.Item) :
    model.writableColumn role name item = .error (.refused (.invalidField name)) := by
  obtain ⟨-, field, hfield, hdenied⟩ := h
  simp [writableColumn, hfield, hdenied]

/-- **An entry for any other name** fares as it does among the fields that the role may write. -/
theorem writableColumn_writableOnly {name : String} (h : ¬model.Shadows role name)
    (item : Payload.Item) :
    (model.writableOnly role).writableColumn role name item =
      model.writableColumn role name item := by
  by_cases hname : name ∈ (model.fieldsFor role .write).map Field.name
  · cases hfield : model.field? name with
    | none =>
      obtain ⟨field, hmem, hfieldname⟩ := List.mem_map.mp hname
      have hnot := List.find?_eq_none.mp hfield field (List.mem_filter.mp hmem).1
      exact absurd (decide_eq_true hfieldname) hnot
    | some field =>
      cases hallowed : field.allows role .write with
      | false => exact absurd ⟨hname, field, hfield, hallowed⟩ h
      | true =>
        rw [writableColumn, writableColumn, hfield, field?_writableOnly_of_allows hfield hallowed]
  · rw [writableColumn, field?_writableOnly_of_not_mem hname, writableColumn]
    cases hfield : model.field? name with
    | none => rfl
    | some field =>
      obtain ⟨hmem, rfl⟩ := mem_of_field? hfield
      have hdenied : ¬field.allows role .write = true := fun hallowed =>
        hname (List.mem_map_of_mem (List.mem_filter.mpr ⟨hmem, hallowed⟩))
      simp only [if_neg hdenied]

/-! ### All entries -/

/-- The first entry decides, or the others do. -/
theorem writableColumns_cons (name : String) (item : Payload.Item) (rest : Payload) :
    model.writableColumns role ((name, item) :: rest) =
      match model.writableColumn role name item with
      | .error stop => .error stop
      | .ok column => (model.writableColumns role rest).map (column :: ·) := by
  rw [writableColumns]
  cases model.writableColumn role name item with
  | error stop => rfl
  | ok column => cases model.writableColumns role rest <;> rfl

/-- No entry that is accepted has a shadowed name. -/
theorem not_shadows_of_writableColumns {payload : Payload} {columns : List Column}
    (h : model.writableColumns role payload = .ok columns) :
    ∀ entry ∈ payload, ¬model.Shadows role entry.1 := by
  induction payload generalizing columns with
  | nil => exact fun entry hentry => absurd hentry List.not_mem_nil
  | cons entry rest ih =>
    obtain ⟨name, item⟩ := entry
    rw [writableColumns_cons] at h
    cases hcolumn : model.writableColumn role name item with
    | error stop =>
      rw [hcolumn] at h
      cases h
    | ok column =>
      cases hrest : model.writableColumns role rest with
      | error stop =>
        rw [hcolumn, hrest] at h
        cases h
      | ok others =>
        refine List.forall_mem_cons.mpr ⟨fun hshadows => ?_, ih hrest⟩
        rw [writableColumn_of_shadows hshadows] at hcolumn
        cases hcolumn

/-- **The entries fare as they do among the fields that the role may write**, or the first of them
that is refused has a shadowed name. -/
theorem writableColumns_writableOnly (payload : Payload) :
    model.writableColumns role payload = (model.writableOnly role).writableColumns role payload ∨
      ∃ entry ∈ payload, model.Shadows role entry.1 ∧
        model.writableColumns role payload = .error (.refused (.invalidField entry.1)) := by
  induction payload with
  | nil => exact Or.inl rfl
  | cons entry rest ih =>
    obtain ⟨name, item⟩ := entry
    rw [writableColumns_cons, writableColumns_cons]
    by_cases hshadows : model.Shadows role name
    · refine Or.inr ⟨(name, item), List.mem_cons_self, hshadows, ?_⟩
      rw [writableColumn_of_shadows hshadows]
    · rw [writableColumn_writableOnly hshadows]
      cases model.writableColumn role name item with
      | error stop => exact Or.inl rfl
      | ok column =>
        rcases ih with heq | ⟨entry, hentry, hshadowed, herror⟩
        · exact Or.inl (by rw [heq])
        · exact Or.inr ⟨entry, List.mem_cons_of_mem _ hentry, hshadowed, by rw [herror]; rfl⟩

/-! ### The gate -/

/-- **What the write gate depends on.** A payload is accepted, with some columns, if it is so among
the fields alone that the role may write and none of its names is shadowed. And whatever becomes of
a payload is the same there, unless it is refused for a shadowed name. -/
theorem writablePayload_writableOnly (model : Model) (role : Role) (payload : Payload) :
    (∀ columns, model.writablePayload role payload = .ok columns ↔
      (model.writableOnly role).writablePayload role payload = .ok columns ∧
        ∀ entry ∈ payload, ¬model.Shadows role entry.1) ∧
    (model.writablePayload role payload = (model.writableOnly role).writablePayload role payload ∨
      ∃ entry ∈ payload, model.Shadows role entry.1 ∧
        model.writablePayload role payload = .error (.refused (.invalidField entry.1))) := by
  have hgate : model.writablePayload role payload =
      (model.writableOnly role).writablePayload role payload ∨
        ∃ entry ∈ payload, model.Shadows role entry.1 ∧
          model.writablePayload role payload = .error (.refused (.invalidField entry.1)) := by
    rw [writablePayload, writablePayload, fieldsFor_writableOnly]
    split
    · exact Or.inl rfl
    · split
      · exact Or.inl rfl
      · exact writableColumns_writableOnly payload
  have haccepted : ∀ columns, model.writablePayload role payload = .ok columns →
      ∀ entry ∈ payload, ¬model.Shadows role entry.1 := by
    intro columns h
    rw [writablePayload] at h
    split at h
    · cases h
    · split at h
      · cases h
      · exact not_shadows_of_writableColumns h
  refine ⟨fun columns => ⟨fun h => ?_, fun ⟨h, hnames⟩ => ?_⟩, hgate⟩
  · rcases hgate with heq | ⟨entry, hentry, hshadowed, -⟩
    · exact ⟨heq ▸ h, haccepted columns h⟩
    · exact absurd hshadowed (haccepted columns h entry hentry)
  · rcases hgate with heq | ⟨entry, hentry, hshadowed, -⟩
    · exact heq.trans h
    · exact absurd hshadowed (hnames entry hentry)

/-! ### A column that is declared twice -/

/-- A table with a column that is declared twice, the second time for writing as well. -/
def declaredTwice : Model :=
  { table := "dup"
    fields :=
      [(Field.signed 64 "a").grant (.readOnly .default),
        ((Field.text "a").grant (.readOnly .default)).grant (.readWrite ⟨1⟩)] }

/-- **A field that a role may not write keeps it from writing another one.** -/
theorem writablePayload_declaredTwice_ne :
    declaredTwice.writablePayload ⟨1⟩ [("a", .text "x")] =
        .error (.refused (.invalidField "a")) ∧
      (declaredTwice.writableOnly ⟨1⟩).writablePayload ⟨1⟩ [("a", .text "x")] =
        .ok [{ name := "a", value := some (.text "x") }] :=
  ⟨rfl, rfl⟩

end QueryGate.Model
