import Mathlib.Data.List.Basic
import QueryGate.Proofs.Database.Tables
import QueryGate.Proofs.Query.Keys
import QueryGate.Proofs.Query.Related
import QueryGate.Proofs.Schema.Tree

/-!
# Rows expanded together and one by one

One request is made for all the rows of an expansion, so what a row gets could depend on the rows
that it is expanded with. With a database that keeps tables (`QueryGate.Keeper`) it does not, in two
circumstances that the requests themselves decide, and
`QueryGate.Model.value_run_expand_eq_flatMap` says so for every tree of models, with any limits and
any keys.

## Where a batch differs

* **A limit counts the rows of the whole batch**, not those of each row in it. Where more rows are
  listed than it allows, some row goes without what it would get alone
  (`QueryGate.Model.expand_owners_ne_flatMap`, first part). Nothing is promised of such a batch, not
  even that it gives each row a part of what it gets alone: what the limit cuts is not expanded
  either, and makes room under the limits further down.
* **A key is read under a label.** Where a column that the role may read bears the label of a key,
  the database shows one of the two, and a row may be taken for one that belongs elsewhere (second
  part).

## The induction

The statement to carry along is about a batch and any part of it (`QueryGate.Model.Settled`): with
the rows of the part the requests list fewer values, so they find fewer rows and are cut where the
whole is cut or not at all; and the rows that a row of the part gets are found by both, in the same
order, as they become in either.
-/

namespace QueryGate

/-! ### What a relation asks a keeper of tables -/

/-- The key that a stored row has in some columns, if it has a value in each of them. -/
def Stored.key? (stored : Stored) (columns : List String) : Option (List Scalar) :=
  columns.mapM fun column => (Datum.scalar (stored column)).asValue?.map Scalar.normalized

namespace Relation

variable {relation : Relation Model} {role : Role} {rows : List Row}

/-- That the columns of a relation's keys have their labels for themselves: no column that the role
may read of the target bears one. -/
def KeysApart (relation : Relation Model) (role : Role) : Prop :=
  ∀ column ∈ relation.target.projection role, ∀ i < relation.external.length,
    column.label ≠ keyName i

/-- The request by lists that a relation makes for some rows. -/
def listing (relation : Relation Model) (role : Role) (rows : List Row) : Listing :=
  { table := relation.target.table
    columns := relation.keyColumns ++ relation.target.projection role
    lists := relation.external.mapIdx fun i key => (key, distinct (column (relation.keys rows) i))
    limit := relation.limit.count? }

/-- That request is the one that the relation makes. -/
theorem selection_listing :
    (relation.listing role rows).selection = relation.selection role rows := by
  have hconditions : (relation.listing role rows).lists.map
      (fun list => Condition.oneOf list.1 list.2) = relation.keyConditions (relation.keys rows) :=
    List.ext_getElem (by simp [listing, keyConditions]) (by simp [listing, keyConditions])
  rw [Listing.selection, hconditions]
  rfl

/-- **What a relation lists**: the rows whose value in each external column is one of the values at
that place of a key. -/
theorem admits_listing_iff {stored : Stored} :
    (relation.listing role rows).admits stored = true ↔
      ∀ (i : Nat) (h : i < relation.external.length), ∃ key ∈ relation.keys rows,
        ∃ v, key[i]? = some v ∧ v.equals (stored relation.external[i]).normalized = true := by
  simp only [Listing.admits, listing, List.all_eq_true, List.mem_mapIdx, column]
  constructor
  · intro h i hi
    have hany := h _ ⟨i, hi, rfl⟩
    rw [any_distinct] at hany
    obtain ⟨v, hv, hequal⟩ := List.any_eq_true.mp hany
    obtain ⟨key, hkey, hkv⟩ := List.mem_filterMap.mp hv
    exact ⟨key, hkey, v, hkv, hequal⟩
  · rintro h _ ⟨i, hi, rfl⟩
    obtain ⟨key, hkey, v, hkv, hequal⟩ := h i hi
    rw [any_distinct]
    exact List.any_eq_true.mpr ⟨v, List.mem_filterMap.mpr ⟨key, hkey, hkv⟩, hequal⟩

/-- More rows have more keys, so with them a relation lists whatever it lists without them. -/
theorem admits_listing_mono {rows' : List Row} (hsub : rows ⊆ rows') {stored : Stored}
    (h : (relation.listing role rows).admits stored = true) :
    (relation.listing role rows').admits stored = true := by
  rw [admits_listing_iff] at h ⊢
  intro i hi
  obtain ⟨key, hkey, hv⟩ := h i hi
  exact ⟨key, List.filterMap_subset _ hsub hkey, hv⟩

/-- **A relation lists whatever belongs to one of the rows.** -/
theorem admits_listing_of_sameKey {row : Row} (hrow : row ∈ rows) {key other : List Scalar}
    (hkey : row.key? relation.internal = some key) {stored : Stored}
    (hother : stored.key? relation.external = some other) (hsame : sameKey key other = true) :
    (relation.listing role rows).admits stored = true := by
  rw [admits_listing_iff]
  intro i hi
  have hforall := sameKey_iff.mp hsame
  have hvalues := mapM_eq_some_iff.mp hother
  have hlength : other.length = relation.external.length := by
    simpa using (congrArg List.length hvalues).symm
  have hi' : i < key.length := by rw [hforall.length_eq, hlength]; exact hi
  refine ⟨key, List.mem_filterMap.mpr ⟨row, hrow, hkey⟩, key[i], List.getElem?_eq_getElem hi', ?_⟩
  have hequal : key[i].equals other[i] = true := hforall.get hi' (by omega)
  have hvalue : (Datum.scalar (stored relation.external[i])).asValue?.map Scalar.normalized =
      some other[i] := by
    have hget := congrArg (·[i]?) hvalues
    simpa [List.getElem?_map, List.getElem?_eq_getElem hi, hlength, hi] using hget
  obtain ⟨v, hv, hnormal⟩ := Option.map_eq_some_iff.mp hvalue
  have hstored : stored relation.external[i] = v := by
    cases hs : stored relation.external[i] <;> simp_all [Datum.asValue?]
  rw [hstored, hnormal]
  exact hequal

variable {tables : Tables} (keeper : Keeper tables)

/-- **A keeper shows the keys of its rows** to a relation whose key columns have their labels for
themselves. -/
theorem key?_shown (apart : relation.KeysApart role) (stored : Stored) :
    Row.key? ((List.range relation.external.length).map keyName)
        (keeper.shown (relation.keyColumns ++ relation.target.projection role) stored) =
      stored.key? relation.external := by
  refine mapM_congr_map (List.ext_getElem (by simp) fun i hi hi' => ?_)
  simp only [List.length_map] at hi'
  have hget : Named.get? (keyName i)
      (keeper.shown (relation.keyColumns ++ relation.target.projection role) stored) =
        some (.scalar (stored relation.external[i])) := by
    have hlabel := Column.label_alias relation.external[i] (blank_not_mem_keyName i) none
    have hsource := Column.source_alias relation.external[i] (blank_not_mem_keyName i) none
    have hshown := keeper.get?_shown (relation.keyColumns ++ relation.target.projection role) stored
      { name := relation.external[i] ++ " AS " ++ keyName i }
      (List.mem_append_left _ (List.mem_mapIdx.mpr ⟨i, hi', rfl⟩)) ?_
    · rwa [hlabel, hsource] at hshown
    · rw [hlabel]
      intro other hother heq
      rcases List.mem_append.mp hother with hother | hother
      · obtain ⟨j, hj, rfl⟩ := List.mem_mapIdx.mp hother
        rw [Column.label_alias _ (blank_not_mem_keyName j)] at heq
        obtain rfl := keyName_inj.mp heq
        rfl
      · exact absurd heq (apart other hother i hi')
  simp [hget]

end Relation

/-! ### What is found for a row -/

/-- Leaving out beforehand what would be left out afterwards changes nothing. -/
theorem filter_filterMap_filter {α β : Type} {p : α → Bool} {f : α → Option β} {q : β → Bool}
    (h : ∀ a b, f a = some b → q b = true → p a = true) (as : List α) :
    ((as.filter p).filterMap f).filter q = (as.filterMap f).filter q := by
  induction as with
  | nil => rfl
  | cons a rest ih =>
    cases hp : p a with
    | true =>
      rw [List.filter_cons_of_pos hp]
      cases hf : f a with
      | none => simpa [hf] using ih
      | some b => simp [hf, List.filter_cons, ih]
    | false =>
      rw [List.filter_cons_of_neg (by simp [hp]), ih]
      cases hf : f a with
      | none => simp [hf]
      | some b =>
        have hq : q b = false := by
          rw [Bool.eq_false_iff]
          exact fun hq => Bool.false_ne_true (hp.symm.trans (h a b hf hq))
        simp [hf, hq]

namespace Relation

variable {relation : Relation Model} {role : Role} {rows rows' : List Row}

variable {tables : Tables} (keeper : Keeper tables)

/-- The rows that a relation finds when no limit cuts, each divided into its key and the rest. -/
def found (relation : Relation Model) (role : Role) (rows : List Row) : List (List Scalar × Row) :=
  (tables.listed (relation.listing role rows)).filterMap fun stored =>
    detach? relation.external.length
      (keeper.shown (relation.keyColumns ++ relation.target.projection role) stored)

/-- A relation finds with more rows whatever it finds without them. -/
theorem found_subset (hsub : rows ⊆ rows') :
    relation.found keeper role rows ⊆ relation.found keeper role rows' := by
  refine List.filterMap_subset _ fun stored hstored => ?_
  obtain ⟨hkept, hadmits⟩ := List.mem_filter.mp hstored
  exact List.mem_filter.mpr ⟨hkept, admits_listing_mono hsub hadmits⟩

/-- **What belongs to a row is found with whatever rows it stands among**, in the same order. -/
theorem filter_found (apart : relation.KeysApart role) {row : Row} (hrow : row ∈ rows)
    {key : List Scalar} (hkey : row.key? relation.internal = some key) :
    (relation.found keeper role rows).filter (fun pair => sameKey key pair.1) =
      ((tables relation.target.table).filterMap fun stored =>
        detach? relation.external.length
          (keeper.shown (relation.keyColumns ++ relation.target.projection role) stored)).filter
        fun pair => sameKey key pair.1 := by
  refine filter_filterMap_filter (fun stored pair hpair hsame => ?_) _
  rw [detach?, key?_shown keeper apart] at hpair
  obtain ⟨other, hother, rfl⟩ := Option.map_eq_some_iff.mp hpair
  exact admits_listing_of_sameKey hrow hkey hother hsame

/-- The same for the rows themselves. -/
theorem matching_found (apart : relation.KeysApart role) {row : Row} (hrow : row ∈ rows)
    (hrow' : row ∈ rows') :
    relation.matching row (relation.found keeper role rows) =
      relation.matching row (relation.found keeper role rows') := by
  cases hkey : row.key? relation.internal with
  | none => simp only [matching, hkey]
  | some key =>
    simp only [matching, hkey, filter_found keeper apart hrow hkey,
      filter_found keeper apart hrow' hkey]

/-- Where its limit leaves nothing out, a relation is answered with all that it lists. -/
theorem answer_selection_of_fits (hfits : tables.Fits (relation.listing role rows)) :
    ∃ answered, keeper.answer (relation.selection role rows) = .ok answered ∧
      answered.filterMap (detach? relation.external.length) = relation.found keeper role rows := by
  have hanswer := keeper.answer_selection (relation.listing role rows)
  rw [selection_listing, Tables.given_of_fits hfits] at hanswer
  exact ⟨_, hanswer, List.filterMap_map⟩

end Relation

/-! ### A batch and a part of it -/

/-- **That batches of a model are settled**: in a batch whose limits cut nothing, rows become what
they become in any part of it that they belong to, and there too the limits cut nothing. -/
def Model.Settled {tables : Tables} (keeper : Keeper tables) (role : Role) (model : Model) : Prop :=
  ∀ rows rows' : List Row, rows ⊆ rows' →
    tables.Uncut ((model.expand role rows').requests keeper.answer) →
      tables.Uncut ((model.expand role rows).requests keeper.answer) ∧
        ∀ row ∈ rows, Relation.become keeper.answer role model.relations rows row =
          Relation.become keeper.answer role model.relations rows' row

section Part

variable {tables : Tables} {keeper : Keeper tables} {role : Role}

/-- **The step of one relation**: a row gets from it in a part of a batch what it gets in the
whole. -/
theorem Relation.datum_related {relation : Relation Model} (apart : relation.KeysApart role)
    (settled : relation.target.Settled keeper role) {rows rows' : List Row} (hsub : rows ⊆ rows')
    (uncut : tables.Uncut ((Relation.related role relation rows').requests keeper.answer)) :
    tables.Uncut ((Relation.related role relation rows).requests keeper.answer) ∧
      ∀ row ∈ rows,
        relation.datum row ((Relation.related role relation rows).result keeper.answer) =
          relation.datum row ((Relation.related role relation rows').result keeper.answer) := by
  have hkeys : relation.keys rows ⊆ relation.keys rows' := List.filterMap_subset _ hsub
  by_cases hasks : relation.asks role rows
  · have hasks' : relation.asks role rows' :=
      ⟨hasks.1, fun h => hasks.2.1 (List.subset_nil.mp (h ▸ hkeys)), hasks.2.2⟩
    -- the limit cuts nothing in the whole, hence nothing in the part
    have hfits' : tables.Fits (relation.listing role rows') := by
      refine uncut _ ?_
      rw [selection_listing, related_eq, request_of_asks hasks']
      exact List.mem_cons_self
    have hfits : tables.Fits (relation.listing role rows) :=
      hfits'.mono rfl rfl fun _ => admits_listing_mono hsub
    obtain ⟨answered, hanswer, hfound⟩ := answer_selection_of_fits keeper hfits
    obtain ⟨answered', hanswer', hfound'⟩ := answer_selection_of_fits keeper hfits'
    rw [requests_related hasks' hanswer' hfound'] at uncut
    obtain ⟨huncut, hbecome⟩ := settled _ _ (List.map_subset Prod.snd (found_subset keeper hsub))
      fun listing hlisting => uncut listing (List.mem_cons_of_mem _ hlisting)
    refine ⟨?_, fun row hrow => ?_⟩
    · rw [requests_related hasks hanswer hfound]
      intro listing hlisting
      rcases List.mem_cons.mp hlisting with hlisting | hlisting
      · rw [← selection_listing, Listing.selection_inj] at hlisting
        rw [hlisting]
        exact hfits
      · exact huncut listing hlisting
    · rw [result_related hasks hanswer hfound, result_related hasks' hanswer' hfound']
      refine datum_congr ?_
      rw [matching_map, matching_map, ← matching_found keeper apart hrow (hsub hrow)]
      refine List.map_congr_left fun row' hrow' => hbecome row' ?_
      exact matching_subset hrow'
  · rw [(related_of_not_asks hasks).1, (related_of_not_asks hasks).2]
    refine ⟨fun listing hlisting => absurd hlisting List.not_mem_nil, fun row hrow => ?_⟩
    by_cases hasks' : relation.asks role rows'
    · -- the whole asks and the part does not: then no row of the part has a key
      have hnokey : row.key? relation.internal = none := by
        have hempty : relation.keys rows = [] := by
          by_contra hkeys'
          exact hasks ⟨hasks'.1, hkeys', hasks'.2.2⟩
        exact List.forall_none_of_filterMap_eq_nil hempty row hrow
      refine datum_congr ?_
      simp only [matching, hnokey]
    · rw [(related_of_not_asks hasks').1]

/-- Requests one after the other are uncut when they are so apart. -/
theorem Tables.uncut_append {requests further : List Selection} :
    tables.Uncut (requests ++ further) ↔ tables.Uncut requests ∧ tables.Uncut further := by
  refine ⟨fun h => ⟨fun listing hl => h listing (List.mem_append_left _ hl),
    fun listing hl => h listing (List.mem_append_right _ hl)⟩, fun h listing hl => ?_⟩
  rcases List.mem_append.mp hl with hl | hl
  · exact h.1 listing hl
  · exact h.2 listing hl

/-- The step of all relations, one after the other: the rows of the part stay among those of the
whole. -/
theorem Relation.settled_expandAll (relations : List (Relation Model))
    (apart : ∀ relation ∈ relations, relation.visibleTo role = true → relation.KeysApart role)
    (settled : ∀ relation ∈ relations, relation.visibleTo role = true →
      relation.target.Settled keeper role) {rows rows' : List Row} (hsub : rows ⊆ rows')
    (uncut : tables.Uncut ((Relation.expandAll role relations rows').requests keeper.answer)) :
    tables.Uncut ((Relation.expandAll role relations rows).requests keeper.answer) ∧
      ∀ row ∈ rows, Relation.become keeper.answer role relations rows row =
        Relation.become keeper.answer role relations rows' row := by
  induction relations generalizing rows rows' with
  | nil => exact ⟨uncut, fun _ _ => rfl⟩
  | cons relation rest ih =>
    have apartRest := fun other hother => apart other (List.mem_cons_of_mem relation hother)
    have settledRest := fun other hother => settled other (List.mem_cons_of_mem relation hother)
    by_cases hseen : relation.visibleTo role = true
    · rw [expandAll, if_pos hseen, Dialogue.requests_bind, Tables.uncut_append] at uncut ⊢
      obtain ⟨huncut, hdatum⟩ := datum_related (apart relation List.mem_cons_self hseen)
        (settled relation List.mem_cons_self hseen) hsub uncut.1
      have hattach : relation.attach rows ((related role relation rows).result keeper.answer) ⊆
          relation.attach rows' ((related role relation rows').result keeper.answer) := by
        intro row' hrow'
        obtain ⟨row, hrow, rfl⟩ := List.mem_map.mp hrow'
        rw [hdatum row hrow]
        exact List.mem_map_of_mem (hsub hrow)
      obtain ⟨huncutRest, hbecome⟩ := ih apartRest settledRest hattach uncut.2
      refine ⟨⟨huncut, huncutRest⟩, fun row hrow => ?_⟩
      rw [become, if_pos hseen, become, if_pos hseen]
      refine (hbecome _ (List.mem_map_of_mem hrow)).trans ?_
      rw [hdatum row hrow]
    · rw [expandAll, if_neg hseen] at uncut ⊢
      obtain ⟨huncut, hbecome⟩ := ih apartRest settledRest hsub uncut
      refine ⟨huncut, fun row hrow => ?_⟩
      rw [become, if_neg hseen, become, if_neg hseen]
      exact hbecome row hrow

/-- That the key columns of every relation that a role can reach have their labels for
themselves. -/
def Model.KeysApart (model : Model) (role : Role) : Prop :=
  ∀ relation, model.Reaches role relation → relation.KeysApart role

/-- **Batches of every model are settled**, by induction over its tree. -/
theorem Model.settled (model : Model) (apart : model.KeysApart role) :
    model.Settled keeper role := by
  induction model using Model.induction with
  | step model ih =>
    intro rows rows' hsub uncut
    rw [expand_eq]
    rw [expand_eq] at uncut
    refine Relation.settled_expandAll model.relations (fun relation hrelation hseen => ?_)
      (fun relation hrelation hseen => ?_) hsub uncut
    · exact apart relation (.direct (mem_relationsFor.mpr ⟨hrelation, hseen⟩))
    · exact ih relation hrelation fun other hother =>
        apart other (.further (mem_relationsFor.mpr ⟨hrelation, hseen⟩) hother)

end Part

/-! ### The batch and its rows -/

/-- **Rows expanded together are the rows expanded one by one**, as long as no limit cuts. -/
theorem Model.value_run_expand_eq_flatMap {σ : Type} {tables : Tables} (keeper : Keeper tables)
    {database : Database σ} (kept : database.AnswersBy keeper.answer) (role : Role) (model : Model)
    (apart : model.KeysApart role) (rows : List Row) (state : σ)
    (uncut : tables.Uncut ((model.expand role rows).run database state).asked) :
    ((model.expand role rows).run database state).value =
      rows.flatMap fun row => ((model.expand role [row]).run database state).value := by
  rw [Dialogue.asked_run kept] at uncut
  simp only [Dialogue.value_run kept, Model.result_expand, List.map_cons, List.map_nil]
  rw [← List.map_eq_flatMap]
  refine List.map_congr_left fun row hrow => ?_
  have hsub : [row] ⊆ rows := List.cons_subset.mpr ⟨hrow, List.nil_subset rows⟩
  exact ((model.settled apart [row] rows hsub uncut).2 row List.mem_cons_self).symm

/-! ### Two owners with a note each -/

section Owners

/-- Owners, to whom notes belong. Of a note everybody may read one field. -/
def Model.owners (field : String) (limit : RowLimit) : Model :=
  { table := "owners"
    fields := [(Field.signed 64 "id").grant (.readOnly .default)]
    relations :=
      [{ name := "notes"
         internal := ["id"]
         external := ["owner"]
         target := { table := "notes", fields := [(Field.text field).grant (.readOnly .default)] }
         limit }] }

/-- The owner of a number. -/
def Row.owner (n : Int64) : Row := [("id", .scalar (.int n))]

/-- The note of the owner of a number, which bears the number of the other owner in a column that is
named like a key. -/
def Stored.note (n : Int64) : Stored
  | "owner" => .int n
  | "body" => .text "note"
  | "__expand_key_0" => .int (3 - n)
  | _ => .null

/-- A table of two notes. -/
def Tables.notes : Tables
  | "notes" => [.note 1, .note 2]
  | _ => []

/-- How many attributes or rows an owner gets. -/
def Row.noteCount (owner : Row) : Option Nat :=
  (Named.get? "notes" owner).bind fun
    | .scalar _ => none
    | .object note => some note.length
    | .list notes => some notes.length

/-- Two owners and a limit of two, which cuts nothing. -/
theorem Model.value_run_expand_owners_eq_flatMap :
    (Model.owners "body" (.rows 2)).KeysApart .default ∧
      Tables.notes.Uncut
        (((Model.owners "body" (.rows 2)).expand .default [.owner 1, .owner 2]).run
          Tables.notes.keeper.database ()).asked ∧
      (((Model.owners "body" (.rows 2)).expand .default [.owner 1, .owner 2]).run
          Tables.notes.keeper.database ()).value =
        [.owner 1, .owner 2].flatMap fun owner =>
          (((Model.owners "body" (.rows 2)).expand .default [owner]).run
            Tables.notes.keeper.database ()).value := by
  have apart : (Model.owners "body" (.rows 2)).KeysApart .default := by
    -- the notes are the one relation there is, and nothing is related to a note
    intro relation hreaches column hcolumn i hi
    cases hreaches with
    | direct seen =>
      obtain rfl : relation = _ := List.mem_singleton.mp (mem_relationsFor.mp seen).1
      obtain rfl : i = 0 := Nat.lt_one_iff.mp hi
      have hbody : column ∈ [Column.mk "body" none] := hcolumn
      rw [List.mem_singleton.mp hbody]
      decide +kernel
    | further seen reached =>
      obtain rfl := List.mem_singleton.mp (mem_relationsFor.mp seen).1
      cases reached with
      | direct seen => exact absurd (mem_relationsFor.mp seen).1 List.not_mem_nil
      | further seen _ => exact absurd (mem_relationsFor.mp seen).1 List.not_mem_nil
  have uncut : Tables.notes.Uncut
      (((Model.owners "body" (.rows 2)).expand .default [.owner 1, .owner 2]).run
        Tables.notes.keeper.database ()).asked := by
    have hasked : (((Model.owners "body" (.rows 2)).expand .default [.owner 1, .owner 2]).run
        Tables.notes.keeper.database ()).asked =
          [Listing.selection
            { table := "notes"
              columns := [{ name := "owner AS __expand_key_0" }, { name := "body" }]
              lists := [("owner", [.int 1, .int 2])]
              limit := some 2 }] := by
      decide +kernel
    intro listing hlisting
    rw [hasked, List.mem_singleton, Listing.selection_inj] at hlisting
    subst hlisting
    rintro count ⟨⟩
    decide +kernel
  exact ⟨apart, uncut, Model.value_run_expand_eq_flatMap Tables.notes.keeper
    (Keeper.database_answersBy _) _ _ apart _ () uncut⟩

/-- **A batch may differ from its rows one by one**: with a limit of one for two owners, and with a
field that bears the label of a key. -/
theorem Model.expand_owners_ne_flatMap :
    (((Model.owners "body" (.rows 1)).expand .default [.owner 1, .owner 2]).run
          Tables.notes.keeper.database ()).value ≠
        [.owner 1, .owner 2].flatMap (fun owner =>
          (((Model.owners "body" (.rows 1)).expand .default [owner]).run
            Tables.notes.keeper.database ()).value) ∧
      (((Model.owners "__expand_key_0" .unbounded).expand .default [.owner 1, .owner 2]).run
          Tables.notes.keeper.database ()).value ≠
        [.owner 1, .owner 2].flatMap fun owner =>
          (((Model.owners "__expand_key_0" .unbounded).expand .default [owner]).run
            Tables.notes.keeper.database ()).value := by
  constructor
  · exact fun h => absurd (congrArg (List.map Row.noteCount) h) (by decide +kernel)
  · exact fun h => absurd (congrArg (List.map Row.noteCount) h) (by decide +kernel)

end Owners

end QueryGate
