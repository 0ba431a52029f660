import QueryGate.Proofs.Filter.Abandoning
import QueryGate.Proofs.Query.HiddenSchema

/-!
# Names that pass the gate

The names in a query string are texts like any others, and names are written into a statement as
they are, so nothing may get there that was not declared for the role. This module shows that
nothing does (`QueryGate.Model.fields_subset_of_compileString`): a role that may read nothing is
refused, and otherwise the columns are the readable fields and every clause names one of them,
whatever the query string says. The only other way to end is that the reader of a field ends the run
at a text of the query string.

It is enough to look at the end of the way from the string to the query. However a clause came
about, it was screened, and the list it was screened against holds the names of the readable fields
(`QueryGate.Model.allows_allowList`).
-/

namespace QueryGate

/-- What is found under a name stands there. -/
theorem Named.mem_of_last? {α : Type} {name : String} {things : Named α} {a : α}
    (h : last? name things = some a) : (name, a) ∈ things := by
  induction things with
  | nil => cases h
  | cons thing rest ih =>
    obtain ⟨k, b⟩ := thing
    rw [last?] at h
    split at h
    · next found hrest =>
      obtain rfl := Option.some.inj h
      exact List.mem_cons_of_mem _ (ih hrest)
    · split at h
      · next hk =>
        obtain rfl := Option.some.inj h
        exact hk ▸ List.mem_cons_self
      · cases h

namespace Model

variable {model : Model} {role : Role} {params : Params}

/-- The columns bear the names of the readable fields. -/
theorem names_projection :
    (model.projection role).map Column.name = (model.fieldsFor role .read).map Field.name := by
  rw [projection, List.map_map]
  rfl

/-- **The allow-list of a role allows the names of the fields that it has access to.** -/
theorem allows_allowList {access : Access} {name : String} :
    (model.allowList role access).allows name = true ↔
      name ∈ (model.fieldsFor role access).map Field.name := by
  rw [AllowList.allows_iff, allowList, Named.names, List.map_map]
  rfl

/-- The readers on the allow-list of a role are those of fields that the role has access to. -/
theorem exists_of_reader? {access : Access} {name : String}
    {reader : Reader} (h : (model.allowList role access).reader? name = some reader) :
    ∃ field ∈ model.fieldsFor role access, field.name = name ∧ field.reader = reader := by
  obtain ⟨field, hfield, hentry⟩ := List.mem_map.mp (Named.mem_of_last? h)
  obtain ⟨hname, hreader⟩ := Prod.mk.inj hentry
  exact ⟨field, hfield, hname, hreader⟩

/-- **A condition ends the run** only where the reader of a field of the model does. -/
theorem not_abandons (h : ∀ field ∈ model.fields, ∀ raw, field.parse raw ≠ .error .abandoned)
    {access : Access} (condition : Condition) :
    ¬(model.allowList role access).Abandons condition := by
  rintro ⟨reader, hreader, before, raw, behind, -, -, hraw⟩
  obtain ⟨field, hfield, -, rfl⟩ := exists_of_reader? hreader
  exact h field (List.mem_filter.mp hfield).1 raw hraw

/-! ### What is compiled -/

/-- A role that may read nothing is refused, whatever it asks for. -/
theorem compile_of_unreadable (h : model.fieldsFor role .read = []) :
    (model.compile role params).value =
      .error
        (.refused (.forbidden ("role " ++ role.text ++ " cannot read " ++ model.table))) := by
  have hprojection : (model.projection role).isEmpty = true := by
    rw [projection, h]
    rfl
  rw [compile, if_pos hprojection]

/-- A role that may read something has a column to read. -/
theorem not_isEmpty_projection (h : model.fieldsFor role .read ≠ []) :
    ¬(model.projection role).isEmpty = true := by
  simpa [projection] using h

/-- A role that may read something is not refused, whatever it asks for: what is left of the clauses
is compiled, if the screening of them has a result. -/
theorem compile_of_screened (h : model.fieldsFor role .read ≠ []) {clauses : Clauses}
    (hrun : ((Clauses.ofParams params).value.screened (model.allowList role .read)).run.value =
      some clauses) :
    (model.compile role params).value =
      .ok ⟨model, role, model.projection role, clauses⟩ := by
  simp only [compile, if_neg (not_isEmpty_projection h), hrun]

/-- If it has none, the run is abandoned. -/
theorem compile_of_abandoned (h : model.fieldsFor role .read ≠ [])
    (hrun : ((Clauses.ofParams params).value.screened (model.allowList role .read)).run.value =
      none) :
    (model.compile role params).value = .error .abandoned := by
  simp only [compile, if_neg (not_isEmpty_projection h), hrun]

/-- If no field of the model ends the run, what is left of the clauses is compiled. -/
theorem compile_of_runs (h : model.fieldsFor role .read ≠ [])
    (hruns : ∀ field ∈ model.fields, ∀ raw, field.parse raw ≠ .error .abandoned) :
    (model.compile role params).value =
      .ok ⟨model, role, model.projection role,
        ((Clauses.ofParams params).value.screened (model.allowList role .read)).value⟩ :=
  compile_of_screened h <| Clauses.value_run_screened_eq_some_iff.mpr
    ⟨rfl, fun condition _ => not_abandons hruns condition⟩

/-- What a role is answered depends on the result of the screening. -/
theorem value_compile_congr {params' : Params}
    (h : ((Clauses.ofParams params).value.screened (model.allowList role .read)).run.value =
      ((Clauses.ofParams params').value.screened (model.allowList role .read)).run.value) :
    (model.compile role params).value = (model.compile role params').value := by
  rw [compile, compile]
  split
  · rfl
  · dsimp only
    rw [h]

/-- **A request that is compiled** is compiled to the readable columns and to what is left of the
clauses. -/
theorem eq_of_compile {query : CompiledQuery} (h : (model.compile role params).value = .ok query) :
    model.fieldsFor role .read ≠ [] ∧
      query = ⟨model, role, model.projection role,
        ((Clauses.ofParams params).value.screened (model.allowList role .read)).value⟩ := by
  by_cases hreadable : model.fieldsFor role .read = []
  · rw [compile_of_unreadable hreadable] at h
    cases h
  · cases hrun :
      ((Clauses.ofParams params).value.screened (model.allowList role .read)).run.value with
    | none =>
      rw [compile_of_abandoned hreadable hrun] at h
      cases h
    | some clauses =>
      rw [compile_of_screened hreadable hrun] at h
      obtain ⟨rfl, -⟩ := Clauses.value_run_screened_eq_some_iff.mp hrun
      exact ⟨hreadable, (Except.ok.inj h).symm⟩

/-- **A query string leads to a query that names readable fields alone**, or to a refusal, and to
that exactly if there are no readable fields. The run is abandoned exactly if there are some and a
condition of the query string ends it. -/
theorem fields_subset_of_compileString (model : Model) (role : Role) (raw : String) :
    match (model.compileString role raw).value with
    | .error (.refused failure) =>
      model.fieldsFor role .read = [] ∧
        failure = .forbidden ("role " ++ role.text ++ " cannot read " ++ model.table)
    | .error .abandoned =>
      model.fieldsFor role .read ≠ [] ∧
        ∃ condition ∈ (Clauses.ofQueryString raw).value.conditions,
          (model.allowList role .read).Abandons condition
    | .ok query =>
      model.fieldsFor role .read ≠ [] ∧
        query.columns = (model.fieldsFor role .read).map (fun field => { name := field.name }) ∧
        (∀ name ∈ query.clauses.fields, ∃ column ∈ query.columns, column.name = name) ∧
        ∀ condition ∈ (Clauses.ofQueryString raw).value.conditions,
          ¬(model.allowList role .read).Abandons condition := by
  rw [compileString]
  by_cases hreadable : model.fieldsFor role .read = []
  · rw [compile_of_unreadable hreadable]
    exact ⟨hreadable, rfl⟩
  · cases hrun : ((Clauses.ofParams (Params.ofQueryString raw)).value.screened
      (model.allowList role .read)).run.value with
    | none =>
      rw [compile_of_abandoned hreadable hrun]
      exact ⟨hreadable, Clauses.value_run_screened_eq_none_iff.mp hrun⟩
    | some clauses =>
      rw [compile_of_screened hreadable hrun]
      obtain ⟨rfl, hruns⟩ := Clauses.value_run_screened_eq_some_iff.mp hrun
      refine ⟨hreadable, rfl, fun name hname => ?_, hruns⟩
      have hallowed : (model.allowList role .read).allows name = true :=
        Clauses.allows_of_mem_fields hname
      rw [allows_allowList, ← names_projection] at hallowed
      exact List.mem_map.mp hallowed

/-- A query string that asks for a field that everybody may read, for one that nobody may read, and
for a statement in the place of a field. -/
def probe : String :=
  "?:sort[number]=DESC&secret=1&:group[1;DROP TABLE accounts]&1:like[number]=7"

/-- Nothing but the readable field gets through. -/
theorem fields_compileString_probe :
    ∃ query, (guardedAccounts.compileString .default probe).value = .ok query ∧
      query.columns = [{ name := "number" }] ∧ ∀ name ∈ query.clauses.fields, name = "number" := by
  have hgate := fields_subset_of_compileString guardedAccounts .default probe
  have hreadable : (guardedAccounts.fieldsFor .default .read).map Field.name = ["number"] := rfl
  have hruns : ∀ field ∈ guardedAccounts.fields, ∀ raw, field.parse raw ≠ .error .abandoned := by
    simp only [guardedAccounts, List.forall_mem_cons]
    exact ⟨nofun, nofun, nofun⟩
  cases hvalue : (guardedAccounts.compileString .default probe).value with
  | error stop =>
    rw [hvalue] at hgate
    cases stop with
    | refused failure =>
      rw [hgate.1] at hreadable
      cases hreadable
    | abandoned =>
      obtain ⟨-, condition, -, habandons⟩ := hgate
      exact absurd habandons (not_abandons hruns condition)
  | ok query =>
    rw [hvalue] at hgate
    obtain ⟨-, hcolumns, hnames, -⟩ := hgate
    have hcolumns : query.columns = [{ name := "number" }] := hcolumns
    refine ⟨query, rfl, hcolumns, fun name hname => ?_⟩
    obtain ⟨column, hmem, rfl⟩ := hnames name hname
    rw [hcolumns] at hmem
    rw [List.mem_singleton.mp hmem]

/-- It gets through in a condition and in the order. -/
example : ((guardedAccounts.compileString .default probe).value.toOption.map
    fun query => query.clauses.fields) = some ["number", "number"] := by
  cbv

end Model

end QueryGate
