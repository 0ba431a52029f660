import QueryGate.Proofs.Query.Related
import QueryGate.Proofs.Schema.Tree
import QueryGate.Proofs.Schema.View
import QueryGate.Query.Compiled

/-!
# What is hidden has no effect

What a role does not see of a tree of models has no effect on any request it makes: the request of
the model and that of what the role sees of it (`QueryGate.Model.seenBy`) are one and the same. So
two models that look the same to a role cannot be told apart by it
(`QueryGate.Model.indistinguishable_of_seenBy_eq`), neither by what becomes of a query string nor,
with any database, by what is asked and answered.

The expansion is where this takes an induction, over the tree of models
(`QueryGate.Model.expand_seenBy`). It is an equation between dialogues, so it holds before any
database comes in.
-/

namespace QueryGate

variable {role : Role}

/-! ### The expansion -/

namespace Relation

/-- A relation makes the request that is made by what the role sees of it. -/
@[simp] theorem request_seenBy (relation : Relation Model) (rows : List Row) :
    (relation.seenBy role).request role rows = relation.request role rows := by
  simp [request, isUsable, keys, keyColumns, keyConditions]

/-- What is found belongs to a row by the same values. -/
@[simp] theorem attach_seenBy (relation : Relation Model) (rows : List Row)
    (found : List (List Scalar × Row)) :
    (relation.seenBy role).attach rows found = relation.attach rows found := by
  simp [attach, datum, matching]

/-- **The step of one relation**, if the target is expanded as the role sees it. -/
theorem related_seenBy {relation : Relation Model}
    (target : ∀ rows, (relation.target.seenBy role).expand role rows =
      relation.target.expand role rows) (rows : List Row) :
    related role (relation.seenBy role) rows = related role relation rows := by
  simp [related_eq, target]

/-- The step of all relations, one after the other. -/
theorem expandAll_allSeenBy (relations : List (Relation Model))
    (target : ∀ relation ∈ relations, ∀ rows, (relation.target.seenBy role).expand role rows =
      relation.target.expand role rows) (rows : List Row) :
    expandAll role (allSeenBy role relations) rows = expandAll role relations rows := by
  induction relations generalizing rows with
  | nil => rfl
  | cons relation rest ih =>
    have ihRest := ih fun other hother => target other (List.mem_cons_of_mem relation hother)
    by_cases hseen : relation.visibleTo role = true
    · -- visible on both sides: the same request, the same rows to go on with
      have hrelated := related_seenBy (target relation List.mem_cons_self) rows
      rw [allSeenBy, if_pos hseen, expandAll, if_pos (visibleTo_seenBy relation), hrelated,
        expandAll, if_pos hseen]
      refine congrArg (Dialogue.bind · _) ?_
      funext found
      rw [attach_seenBy, ihRest]
    · -- hidden: left out on one side, passed over on the other
      rw [allSeenBy, if_neg hseen, expandAll, if_neg hseen, ihRest]

end Relation

/-- **Rows are expanded as if there were nothing but what the role sees**, by induction over the
tree of models. -/
theorem Model.expand_seenBy (model : Model) (rows : List Row) :
    (model.seenBy role).expand role rows = model.expand role rows := by
  induction model using Model.induction generalizing rows with
  | step model ih =>
    rw [expand_eq, expand_eq, relations_seenBy]
    exact Relation.expandAll_allSeenBy model.relations ih rows

/-! ### Requests -/

namespace CompiledQuery

/-- A request that has passed the gate, with the model as its role sees it. -/
def seen (query : CompiledQuery) : CompiledQuery :=
  { query with model := query.model.seenBy query.role }

@[simp] theorem columns_seen (query : CompiledQuery) : query.seen.columns = query.columns := rfl

@[simp] theorem clauses_seen (query : CompiledQuery) : query.seen.clauses = query.clauses := rfl

@[simp] theorem selection_seen (query : CompiledQuery) :
    query.seen.selection = query.selection := by
  simp [selection, seen]

@[simp] theorem text_seen (query : CompiledQuery) : query.seen.text = query.text := by
  simp [text]

@[simp] theorem fetch_seen (query : CompiledQuery) : query.seen.fetch = query.fetch := by
  rw [fetch, selection_seen, fetch]
  simp only [seen, Model.expand_seenBy]

end CompiledQuery

/-- **A request passes the gate as if there were nothing but what the role sees.** -/
theorem Model.compile_seenBy (model : Model) (params : Params) :
    (model.seenBy role).compile role params =
      (model.compile role params).map (Except.map CompiledQuery.seen) := by
  rw [compile, compile, projection_seenBy, table_seenBy, allowList_seenBy]
  split
  · rfl
  · dsimp only [Noted.map]
    congr 1
    split <;> rfl

/-! ### Models that look the same -/

/-- **That two requests that have passed the gate cannot be told apart**: they ask for the same in
the same words, and with any database, in any state, they go the same way. -/
structure CompiledQuery.Alike (query other : CompiledQuery) : Prop where
  /-- The same columns. -/
  columns : query.columns = other.columns
  /-- The same clauses. -/
  clauses : query.clauses = other.clauses
  /-- The same text. -/
  text : query.text = other.text
  /-- The same requests and notices in the same order, and the same rows or the same failure. -/
  fetch : ∀ {σ : Type} (database : Database σ) (state : σ),
    query.fetch.run database state = other.fetch.run database state

/-- **That two requests cannot be told apart**: they are refused with the same failure, or the run
is abandoned over both, or they pass and cannot be told apart then. -/
inductive CompiledQuery.Indistinguishable :
    Except (Stop Failure) CompiledQuery → Except (Stop Failure) CompiledQuery → Prop
  /-- Both are refused, or the run is abandoned over both. -/
  | stopped (stop : Stop Failure) : Indistinguishable (.error stop) (.error stop)
  /-- Both have passed. -/
  | passed {query other : CompiledQuery} (alike : query.Alike other) :
      Indistinguishable (.ok query) (.ok other)

/-- Requests that are one and the same as their roles see them cannot be told apart. -/
theorem CompiledQuery.alike_of_seen_eq {query other : CompiledQuery} (h : query.seen = other.seen) :
    query.Alike other where
  columns := by rw [← columns_seen query, h, columns_seen]
  clauses := by rw [← clauses_seen query, h, clauses_seen]
  text := by rw [← text_seen query, h, text_seen]
  fetch database state := by rw [← fetch_seen query, h, fetch_seen]

/-- **Models that look the same to a role cannot be told apart by it**, by any query string. -/
theorem Model.indistinguishable_of_seenBy_eq {model other : Model}
    (h : model.seenBy role = other.seenBy role) (raw : String) :
    (model.compileString role raw).notices = (other.compileString role raw).notices ∧
      CompiledQuery.Indistinguishable (model.compileString role raw).value
        (other.compileString role raw).value := by
  have hcompile : (model.compileString role raw).map (Except.map CompiledQuery.seen) =
      (other.compileString role raw).map (Except.map CompiledQuery.seen) := by
    rw [compileString, compileString, ← compile_seenBy, h, compile_seenBy]
  obtain ⟨hvalue, hnotices⟩ := Noted.mk.inj hcompile
  refine ⟨hnotices, ?_⟩
  -- the two outcomes agree once the models are seen by the role, so they are of one kind
  cases hmodel : (model.compileString role raw).value with
  | error stop =>
    cases hother : (other.compileString role raw).value with
    | error stop' =>
      rw [hmodel, hother] at hvalue
      obtain rfl := Except.error.inj hvalue
      exact .stopped stop
    | ok query' =>
      rw [hmodel, hother] at hvalue
      exact absurd hvalue (by simp [Except.map])
  | ok query =>
    cases hother : (other.compileString role raw).value with
    | error stop =>
      rw [hmodel, hother] at hvalue
      exact absurd hvalue (by simp [Except.map])
    | ok query' =>
      rw [hmodel, hother] at hvalue
      exact .passed (CompiledQuery.alike_of_seen_eq (Except.ok.inj hvalue))

/-! ### Accounts with and without secrets -/

section Accounts

/-- Accounts, of which everybody may see all there is. -/
def Model.openAccounts : Model :=
  { table := "accounts"
    fields := [(Field.text "number").grant (.readOnly .default)]
    relations :=
      [{ name := "entries"
         internal := ["number"]
         external := ["account"]
         target :=
          { table := "entries"
            fields := [(Field.signed 64 "amount").grant (.readOnly .default)] } }] }

/-- Accounts with fields and relations for some, and with bounds on what may be written. -/
def Model.guardedAccounts : Model :=
  { table := "accounts"
    fields :=
      [(Field.text "secret").grant (.writeOnly .default),
        { ((Field.text "number").grant (.readWrite .default)).grant (.readOnly ⟨7⟩) with
          check := some fun value => !value.isNull }]
    relations :=
      [{ name := "audits"
         internal := ["number"]
         external := ["account"]
         target := { table := "audits", fields := [(Field.text "text").grant (.readOnly .default)] }
         roles := [⟨7⟩] },
        { name := "entries"
          internal := ["number"]
          external := ["account"]
          target :=
            { table := "entries"
              fields :=
                [(Field.signed 64 "amount").grant (.readOnly .default),
                  (Field.text "account").grant (.readWrite ⟨7⟩)] }
          roles := [.default, ⟨7⟩] }] }

/-- To everybody both look the same, and a filter by a hidden field is dropped in both. -/
theorem Model.indistinguishable_accounts :
    openAccounts.seenBy .default = guardedAccounts.seenBy .default ∧
      openAccounts.relations.length ≠ guardedAccounts.relations.length ∧
      (openAccounts.compileString .default "secret=1&number=2").notices =
        (guardedAccounts.compileString .default "secret=1&number=2").notices ∧
      CompiledQuery.Indistinguishable
        (openAccounts.compileString .default "secret=1&number=2").value
        (guardedAccounts.compileString .default "secret=1&number=2").value := by
  have hseen : openAccounts.seenBy .default = guardedAccounts.seenBy .default := by
    rfl
  exact ⟨hseen, by decide, indistinguishable_of_seenBy_eq hseen _⟩

end Accounts

end QueryGate
