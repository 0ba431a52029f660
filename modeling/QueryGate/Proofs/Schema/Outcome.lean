import Mathlib.Data.List.Forall2
import QueryGate.Proofs.Json.Numeral
import QueryGate.Proofs.Named
import QueryGate.Proofs.Schema.WriteGate

/-!
# What the write gate answers

A payload is empty; or the role may write no field of the model; or an entry is a mistake, and the
first one that is gives its name to the refusal; or no entry is, and each has a column of its own.
There is a last case, in which a field's reader ends the run at an entry before any is found to be a
mistake. These are the outcomes of a payload (`QueryGate.Model.Outcome`). The gate comes to the
outcome and to nothing else (`QueryGate.Model.writablePayload_outcome`), so a payload that is
refused leaves no columns behind.

## Mistakes

What stops the gate at an entry is listed once (`QueryGate.Model.Stops`). A mistake is a name that
no field has, a field that the role may not write, something that is no value, a text that the field
rejects, or a value that its check refuses; and there is the text at which the reader ends the run.
The gate stops at an entry or the entry is carried by a column
(`QueryGate.Model.writableColumn_cases`), and it is never both. The field of an entry is the first
one of its name, here as everywhere.

## Values

A text is what the field reads it as, and other values are taken as they are
(`QueryGate.Field.Takes`). What a number of a document is taken as is said where numbers are read
(`QueryGate.Json.Numeral.Valued`): an integer that fits into a signed word of 64 bits is that, one
above these is an unsigned word, and anything else is a real number.
-/

namespace QueryGate

/-! ### Values in a payload -/

/-- **The scalar that an item of a payload is for a field**: a text is what the field reads it as,
and anything else is taken as it is. -/
inductive Field.Takes (field : Field) : Payload.Item → Scalar → Prop
  /-- A value that is taken as it is. -/
  | plain (s : Scalar) : Takes field (.plain s) s
  /-- A text that is read. -/
  | text {raw : String} {s : Scalar} (h : field.parse raw = .ok s) : Takes field (.text raw) s

namespace Payload

/-- **What item of a payload a document is.** -/
inductive Item.Given : Json.Tree → Item → Prop
  /-- The absence of a value. -/
  | null : Given .null (.plain .null)
  /-- A truth value. -/
  | bool (b : Bool) : Given (.bool b) (.plain (.bool b))
  /-- A number, as the scalar that it is. -/
  | number {n : Json.Numeral} {s : Scalar} (h : n.Valued s) : Given (.number n) (.plain s)
  /-- A text, which is yet to be read. -/
  | text (raw : String) : Given (.text (some raw)) (.text raw)
  /-- A sequence, which is no value. -/
  | array (items : List Json.Tree) : Given (.array items) .compound
  /-- An object, which is no value. -/
  | object (members : List (Option String × Json.Tree)) : Given (.object members) .compound

/-- **A sound document is one item of a payload.** -/
theorem Item.ofTree_eq_iff {tree : Json.Tree} (h : isSound tree = true) {item : Item} :
    ofTree tree = item ↔ Given tree item := by
  constructor
  · rintro rfl
    cases tree with
    | null => exact .null
    | bool b => exact .bool b
    | number n =>
      obtain ⟨s, hs⟩ := Option.isSome_iff_exists.mp h
      rw [ofTree, hs]
      exact .number (Json.Numeral.scalar?_eq_some_iff.mp hs)
    | text raw? =>
      obtain ⟨raw, rfl⟩ := Option.isSome_iff_exists.mp h
      exact .text raw
    | array items => exact .array items
    | object members => exact .object members
  · intro hgiven
    cases hgiven with
    | number hvalued => rw [ofTree, Json.Numeral.scalar?_eq_some_iff.mpr hvalued, Option.getD_some]
    | _ => rfl

/-- The members of a sound object have names and are sound. -/
theorem sound_of_mem {members : List (Option String × Json.Tree)}
    (h : membersSound members = true) :
    ∀ member ∈ members, member.1.isSome = true ∧ isSound member.2 = true := by
  induction members with
  | nil => nofun
  | cons member rest ih =>
    rw [membersSound, Bool.and_eq_true_iff, memberSound, Bool.and_eq_true_iff] at h
    exact List.forall_mem_cons.mpr ⟨h.1, ih h.2⟩

/-- **A payload is an object read member by member**, its entries in the order of their names. -/
theorem given_of_ofJson? {text : String} {payload : Payload} (h : ofJson? text = some payload) :
    ∃ members, Json.read? text = some (.object members) ∧ Named.Ascending payload ∧
      ∀ entry ∈ payload, ∃ tree, (some entry.1, tree) ∈ members ∧ Item.Given tree entry.2 := by
  obtain ⟨tree, hread, htree⟩ := Option.bind_eq_some_iff.mp h
  cases tree with
  | object members =>
    obtain ⟨hsound, hpayload⟩ := Option.ite_none_right_eq_some.mp htree
    obtain rfl := Option.some.inj hpayload
    refine ⟨members, hread, Named.ascending_sorted _, fun entry hentry => ?_⟩
    obtain ⟨⟨name?, tree⟩, hmember, rfl⟩ := List.mem_map.mp (Named.sorted_subset _ hentry)
    obtain ⟨hname, hmembersound⟩ :=
      sound_of_mem (Bool.and_eq_true_iff.mp hsound).1 _ hmember
    obtain ⟨name, rfl⟩ := Option.isSome_iff_exists.mp hname
    exact ⟨tree, hmember, (Item.ofTree_eq_iff hmembersound).mp rfl⟩
  | _ => cases htree

end Payload

namespace Model

variable {model : Model} {role : Role}

/-! ### One entry -/

/-- **That the gate stops at an entry of a payload**: the entry is a mistake and refused, or the run
is abandoned over it. -/
inductive Stops (model : Model) (role : Role) : String × Payload.Item → Stop Unit → Prop
  /-- No field has its name. -/
  | unknown {name : String} {item : Payload.Item}
      (h : ∀ field ∈ model.fields, field.name ≠ name) : Stops model role (name, item) (.refused ())
  /-- The role may not write the first field of its name. -/
  | denied {name : String} {item : Payload.Item} {field : Field}
      (hfield : model.field? name = some field) (h : field.allows role .write = false) :
      Stops model role (name, item) (.refused ())
  /-- It is no value of any field. -/
  | compound {name : String} : Stops model role (name, .compound) (.refused ())
  /-- It is a text that the field rejects. -/
  | unreadable {name raw : String} {field : Field} {rejected : RejectedValue}
      (hfield : model.field? name = some field) (hallowed : field.allows role .write = true)
      (h : field.parse raw = .error (.refused rejected)) :
      Stops model role (name, .text raw) (.refused ())
  /-- It is a text at which the field's reader ends the run. -/
  | abandoned {name raw : String} {field : Field}
      (hfield : model.field? name = some field) (hallowed : field.allows role .write = true)
      (h : field.parse raw = .error .abandoned) : Stops model role (name, .text raw) .abandoned
  /-- It is a value that the field's check refuses. -/
  | refused {name : String} {item : Payload.Item} {field : Field} {s : Scalar}
      (hfield : model.field? name = some field) (htakes : field.Takes item s)
      (h : field.validates s = false) : Stops model role (name, item) (.refused ())

/-- **That a column carries an entry of a payload**: it has its name, and its value is the one that
the item is for the first field of that name. -/
def Carries (model : Model) (entry : String × Payload.Item) (column : Column) : Prop :=
  ∃ field s, model.field? entry.1 = some field ∧ field.Takes entry.2 s ∧
    column = { name := entry.1, value := some s }

/-- The value of an item before the check is the scalar that it is for the field. -/
theorem itemValue_eq_ok_iff {field : Field} {item : Payload.Item} {s : Scalar} :
    itemValue field item = .ok s ↔ field.Takes item s := by
  constructor
  · intro h
    cases item with
    | plain t =>
      obtain rfl := Except.ok.inj h
      exact .plain t
    | text raw =>
      rw [itemValue] at h
      split at h
      · next t ht =>
        obtain rfl := Except.ok.inj h
        exact .text ht
      · cases h
    | compound => cases h
  · intro h
    cases h with
    | plain s => rfl
    | text h => rw [itemValue, h]

/-- At most one column carries an entry. -/
theorem Carries.unique {entry : String × Payload.Item} {column other : Column}
    (h : model.Carries entry column) (hother : model.Carries entry other) : column = other := by
  obtain ⟨field, s, hfield, hs, rfl⟩ := h
  obtain ⟨field', s', hfield', hs', rfl⟩ := hother
  obtain rfl := Option.some.inj (hfield.symm.trans hfield')
  have hvalue := (itemValue_eq_ok_iff.mpr hs).symm.trans (itemValue_eq_ok_iff.mpr hs')
  rw [Except.ok.inj hvalue]

/-- **Where the gate stops**, a mistake is refused under its name. -/
theorem Stops.writableColumn_eq {entry : String × Payload.Item} {stop : Stop Unit}
    (h : model.Stops role entry stop) :
    model.writableColumn role entry.1 entry.2 =
      .error (stop.map fun _ => .invalidField entry.1) := by
  cases h with
  | @unknown name item h =>
    have hfield : model.field? name = none :=
      List.find?_eq_none.mpr fun field hmem => by simpa using h field hmem
    simp only [writableColumn, hfield, Stop.map]
  | denied hfield h => simp [writableColumn, hfield, h, Stop.map]
  | @compound name =>
    rw [writableColumn]
    cases model.field? name with
    | none => rfl
    | some field => exact ite_self _
  | unreadable hfield hallowed h => simp [writableColumn, itemValue, hfield, hallowed, h, Stop.map]
  | abandoned hfield hallowed h => simp [writableColumn, itemValue, hfield, hallowed, h, Stop.map]
  | refused hfield htakes h =>
    simp [writableColumn, hfield, itemValue_eq_ok_iff.mpr htakes, h, Stop.map]

/-- **The gate stops at an entry or the entry is carried by a column.** -/
theorem writableColumn_cases (model : Model) (role : Role) (entry : String × Payload.Item) :
    (∃ stop, model.Stops role entry stop) ∨
      ∃ column, model.Carries entry column ∧
        model.writableColumn role entry.1 entry.2 = .ok column := by
  obtain ⟨name, item⟩ := entry
  cases hfield : model.field? name with
  | none =>
    have hname : ∀ field ∈ model.fields, field.name ≠ name := fun field hmem => by
      simpa using List.find?_eq_none.mp hfield field hmem
    exact Or.inl ⟨_, .unknown hname⟩
  | some field =>
    cases hallowed : field.allows role .write with
    | false => exact Or.inl ⟨_, .denied hfield hallowed⟩
    | true =>
      cases hvalue : itemValue field item with
      | error _ =>
        refine Or.inl ?_
        cases item with
        | plain s => cases hvalue
        | text raw =>
          cases hparse : field.parse raw with
          | ok s =>
            rw [itemValue, hparse] at hvalue
            cases hvalue
          | error stop =>
            cases stop with
            | refused rejected => exact ⟨_, .unreadable hfield hallowed hparse⟩
            | abandoned => exact ⟨_, .abandoned hfield hallowed hparse⟩
        | compound => exact ⟨_, .compound⟩
      | ok s =>
        have htakes := itemValue_eq_ok_iff.mp hvalue
        cases hvalid : field.validates s with
        | false => exact Or.inl ⟨_, .refused hfield htakes hvalid⟩
        | true =>
          refine Or.inr ⟨_, ⟨field, s, hfield, htakes, rfl⟩, ?_⟩
          simp [writableColumn, hfield, hallowed, hvalue, hvalid]

/-- **A column is written for an entry if it carries it and the gate does not stop there.** -/
theorem writableColumn_eq_ok_iff {entry : String × Payload.Item} {column : Column} :
    model.writableColumn role entry.1 entry.2 = .ok column ↔
      (∀ stop, ¬model.Stops role entry stop) ∧ model.Carries entry column := by
  constructor
  · intro h
    have hright : ∀ stop, ¬model.Stops role entry stop := by
      intro stop hstops
      rw [hstops.writableColumn_eq] at h
      cases h
    refine ⟨hright, ?_⟩
    rcases model.writableColumn_cases role entry with ⟨stop, hstops⟩ | ⟨other, hcarries, hother⟩
    · exact absurd hstops (hright stop)
    · exact Except.ok.inj (hother.symm.trans h) ▸ hcarries
  · rintro ⟨hright, hcarries⟩
    rcases model.writableColumn_cases role entry with ⟨stop, hstops⟩ | ⟨other, hother, h⟩
    · exact absurd hstops (hright stop)
    · rw [h, hother.unique hcarries]

/-! ### All entries -/

/-- **The columns carry the entries one by one**, if the gate stops at none of these. -/
theorem writableColumns_eq_ok_iff {payload : Payload} {columns : List Column} :
    model.writableColumns role payload = .ok columns ↔
      (∀ entry ∈ payload, ∀ stop, ¬model.Stops role entry stop) ∧
        List.Forall₂ model.Carries payload columns := by
  simp only [← List.forall₂_and_left, ← writableColumn_eq_ok_iff]
  induction payload generalizing columns with
  | nil => rw [writableColumns, List.forall₂_nil_left_iff, Except.ok.injEq, eq_comm]
  | cons entry rest ih =>
    rw [writableColumns_cons, List.forall₂_cons_left_iff]
    cases hcolumn : model.writableColumn role entry.1 entry.2 with
    | error stop => simp
    | ok column =>
      simp only [← ih]
      cases model.writableColumns role rest <;> simp [Except.map, eq_comm]

/-- **The first entry at which the gate stops is what the entries fail for.** -/
theorem writableColumns_eq_error_iff {payload : Payload} {failure : Stop Failure} :
    model.writableColumns role payload = .error failure ↔
      ∃ before entry behind stop, payload = before ++ entry :: behind ∧
        (∀ e ∈ before, ∀ stop, ¬model.Stops role e stop) ∧
        model.Stops role entry stop ∧ failure = stop.map fun _ => .invalidField entry.1 := by
  constructor
  · intro h
    induction payload with
    | nil => cases h
    | cons entry rest ih =>
      rw [writableColumns_cons] at h
      rcases model.writableColumn_cases role entry with ⟨stop, hstops⟩ | ⟨column, -, hcolumn⟩
      · rw [hstops.writableColumn_eq] at h
        exact ⟨[], entry, rest, stop, rfl, nofun, hstops, (Except.error.inj h).symm⟩
      · rw [hcolumn] at h
        cases hrest : model.writableColumns role rest with
        | ok others =>
          rw [hrest] at h
          cases h
        | error failure' =>
          rw [hrest] at h
          obtain rfl := Except.error.inj h
          obtain ⟨before, wrong, behind, stop, rfl, hbefore, hstops⟩ := ih hrest
          have hright := (writableColumn_eq_ok_iff.mp hcolumn).1
          exact ⟨entry :: before, wrong, behind, stop, rfl,
            List.forall_mem_cons.mpr ⟨hright, hbefore⟩, hstops⟩
  · rintro ⟨before, wrong, behind, stop, rfl, hbefore, hstops, rfl⟩
    induction before with
    | nil => rw [List.nil_append, writableColumns_cons, hstops.writableColumn_eq]
    | cons entry rest ih =>
      obtain ⟨hright, hrest⟩ := List.forall_mem_cons.mp hbefore
      rcases model.writableColumn_cases role entry with ⟨stop', hentry⟩ | ⟨column, -, hcolumn⟩
      · exact absurd hentry (hright stop')
      · rw [List.cons_append, writableColumns_cons, hcolumn, ih hrest]
        rfl

/-! ### The gate -/

/-- **What a payload comes to.** -/
inductive Outcome (model : Model) (role : Role) :
    Payload → Except (Stop Failure) (List Column) → Prop
  /-- There is nothing to write. -/
  | empty : Outcome model role [] (.error (.refused .emptyPayload))
  /-- The role may write no field. -/
  | forbidden {payload : Payload} (hne : payload ≠ [])
      (h : ∀ field ∈ model.fields, field.allows role .write = false) :
      Outcome model role payload
        (.error
          (.refused (.forbidden ("role " ++ role.text ++ " cannot write to " ++ model.table))))
  /-- An entry is a mistake, and the gate stops at none before it. -/
  | mistaken {before behind : Payload} {entry : String × Payload.Item}
      (hwrites : ∃ field ∈ model.fields, field.allows role .write = true)
      (hbefore : ∀ e ∈ before, ∀ stop, ¬model.Stops role e stop)
      (h : model.Stops role entry (.refused ())) :
      Outcome model role (before ++ entry :: behind) (.error (.refused (.invalidField entry.1)))
  /-- The run is abandoned over an entry, and the gate stops at none before it. -/
  | abandoned {before behind : Payload} {entry : String × Payload.Item}
      (hwrites : ∃ field ∈ model.fields, field.allows role .write = true)
      (hbefore : ∀ e ∈ before, ∀ stop, ¬model.Stops role e stop)
      (h : model.Stops role entry .abandoned) :
      Outcome model role (before ++ entry :: behind) (.error .abandoned)
  /-- The gate stops at no entry, and each is carried by a column. -/
  | accepted {payload : Payload} {columns : List Column} (hne : payload ≠ [])
      (hwrites : ∃ field ∈ model.fields, field.allows role .write = true)
      (h : ∀ entry ∈ payload, ∀ stop, ¬model.Stops role entry stop)
      (hcolumns : List.Forall₂ model.Carries payload columns) :
      Outcome model role payload (.ok columns)

/-- A payload with an entry is judged entry by entry, if there is a field that the role may
write. -/
theorem writablePayload_of_writes {payload : Payload} (hne : payload ≠ [])
    (hwrites : ∃ field ∈ model.fields, field.allows role .write = true) :
    model.writablePayload role payload = model.writableColumns role payload := by
  obtain ⟨field, hmem, hallowed⟩ := hwrites
  have hfields : model.fieldsFor role .write ≠ [] :=
    List.ne_nil_of_mem (List.mem_filter.mpr ⟨hmem, hallowed⟩)
  rw [writablePayload, if_neg (by simpa using hne), if_neg (by simpa using hfields)]

/-- A payload with an entry is refused as a whole, if there is no field that the role may write. -/
theorem writablePayload_of_denied {payload : Payload} (hne : payload ≠ [])
    (hdenied : ∀ field ∈ model.fields, field.allows role .write = false) :
    model.writablePayload role payload =
      .error
        (.refused (.forbidden ("role " ++ role.text ++ " cannot write to " ++ model.table))) := by
  have hfields : model.fieldsFor role .write = [] :=
    List.filter_eq_nil_iff.mpr fun field hmem => Bool.eq_false_iff.mp (hdenied field hmem)
  rw [writablePayload, if_neg (by simpa using hne), if_pos (by rw [hfields]; rfl)]

/-- **The gate comes to the outcome of a payload.** -/
theorem writablePayload_eq_iff {payload : Payload}
    {result : Except (Stop Failure) (List Column)} :
    model.writablePayload role payload = result ↔ model.Outcome role payload result := by
  constructor
  · rintro rfl
    by_cases hne : payload = []
    · subst hne
      exact .empty
    by_cases hwrites : ∃ field ∈ model.fields, field.allows role .write = true
    · rw [writablePayload_of_writes hne hwrites]
      cases h : model.writableColumns role payload with
      | error failure =>
        obtain ⟨before, entry, behind, stop, rfl, hbefore, hstops, rfl⟩ :=
          writableColumns_eq_error_iff.mp h
        cases stop with
        | refused _ => exact .mistaken hwrites hbefore hstops
        | abandoned => exact .abandoned hwrites hbefore hstops
      | ok columns =>
        obtain ⟨hright, hcarries⟩ := writableColumns_eq_ok_iff.mp h
        exact .accepted hne hwrites hright hcarries
    · have hdenied : ∀ field ∈ model.fields, field.allows role .write = false :=
        fun field hmem => Bool.eq_false_iff.mpr fun hallowed => hwrites ⟨field, hmem, hallowed⟩
      rw [writablePayload_of_denied hne hdenied]
      exact .forbidden hne hdenied
  · intro h
    cases h with
    | empty => rfl
    | forbidden hne hdenied => exact writablePayload_of_denied hne hdenied
    | mistaken hwrites hbefore hstops | abandoned hwrites hbefore hstops =>
      rw [writablePayload_of_writes (by simp) hwrites]
      exact writableColumns_eq_error_iff.mpr ⟨_, _, _, _, rfl, hbefore, hstops, rfl⟩
    | accepted hne hwrites hright hcarries =>
      rw [writablePayload_of_writes hne hwrites]
      exact writableColumns_eq_ok_iff.mpr ⟨hright, hcarries⟩

/-- **Exactly what the write gate answers.** A payload comes to one outcome: it is empty, or the
role may write nothing, or its first mistake is named, or the run is abandoned over an entry before
there is one, or each of its entries is carried by a column of its own. The entries are those of an
object, in the order of their names, and what each of them gives is settled by the document under
its name. -/
theorem writablePayload_outcome (model : Model) (role : Role) :
    (∀ payload result,
      model.writablePayload role payload = result ↔ model.Outcome role payload result) ∧
    (∀ tree, Payload.isSound tree = true → ∀ item,
      Payload.Item.ofTree tree = item ↔ Payload.Item.Given tree item) ∧
    ∀ text payload, Payload.ofJson? text = some payload →
      ∃ members, Json.read? text = some (.object members) ∧ Named.Ascending payload ∧
        ∀ entry ∈ payload, ∃ tree, (some entry.1, tree) ∈ members ∧
          Payload.Item.Given tree entry.2 :=
  ⟨fun _ _ => writablePayload_eq_iff, fun _ h _ => Payload.Item.ofTree_eq_iff h,
    fun _ _ => Payload.given_of_ofJson?⟩

end Model

end QueryGate
