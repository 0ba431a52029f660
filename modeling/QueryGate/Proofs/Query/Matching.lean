import Mathlib.Data.List.Basic
import Mathlib.Data.List.Forall2
import QueryGate.Database.Canned
import QueryGate.Proofs.Query.Frame
import QueryGate.Proofs.Query.Related
import QueryGate.Proofs.Schema.Tree

/-!
# Which rows a row gets

What is attached to each row when a relation is followed, with any database and in any state of it.
The rows that the database answers with are told apart by whether they have a value under each label
of a key (`QueryGate.Relation.keeps`), and such a row belongs to an owner if the two have equal
values, an integer whatever its signedness, in each pair of columns (`QueryGate.Relation.joins`).
An owner gets the rows that belong to it, in the order of the answer, each as it is after all kept
rows were expanded together (`QueryGate.Relation.Attaches`), and this is so for each relation that
the role sees, from what the relations before it have left
(`QueryGate.Model.attaches_of_expand`).

## Places

Keys are taken off before the rows are expanded and put beside them again afterwards, by their
places. That goes well because an expansion makes of each row one row in the same place, which has
whatever the row had except under the names of relations
(`QueryGate.Relation.forall₂_run_expandAll`).
-/

namespace QueryGate

variable {σ : Type}

/-! ### Keys, value by value -/

namespace Row

/-- The value of a column in a row, if it has one there. -/
def value? (column : String) (row : Row) : Option Scalar :=
  (Named.get? column row).bind Datum.asValue?

/-- A key is the value of its first column, in one form, before the key of the others. -/
theorem key?_cons (column : String) (columns : List String) (row : Row) :
    row.key? (column :: columns) =
      (row.value? column).bind fun s => (row.key? columns).map (s.normalized :: ·) := by
  have hkey : ∀ columns : List String,
      row.key? columns = columns.mapM fun column => (row.value? column).map Scalar.normalized :=
    fun _ => rfl
  rw [hkey, hkey, List.mapM_cons]
  cases row.value? column with
  | none => rfl
  | some s => cases columns.mapM fun column => (row.value? column).map Scalar.normalized <;> rfl

/-- **A row has a key if each of the columns has a value.** -/
theorem isSome_key? (columns : List String) (row : Row) :
    (row.key? columns).isSome = columns.all fun column => (row.value? column).isSome := by
  induction columns with
  | nil => rfl
  | cons column columns ih =>
    rw [key?_cons, List.all_cons, ← ih]
    cases row.value? column with
    | none => rfl
    | some s => simp

/-- Rows with the same values in some columns have the same key there. -/
theorem key?_congr {columns : List String} {row row' : Row}
    (h : ∀ column ∈ columns, row.value? column = row'.value? column) :
    row.key? columns = row'.key? columns := by
  induction columns with
  | nil => rfl
  | cons column columns ih =>
    obtain ⟨hcolumn, hcolumns⟩ := List.forall_mem_cons.mp h
    rw [key?_cons, key?_cons, hcolumn, ih hcolumns]

/-- Of an attribute, a key looks at its value alone. -/
theorem key?_insert_congr {datum datum' : Datum} (h : datum.asValue? = datum'.asValue?)
    (name : String) (row : Row) (columns : List String) :
    key? columns (Named.insert name datum row) = key? columns (Named.insert name datum' row) := by
  refine key?_congr fun column _ => ?_
  rw [value?, value?, Named.get?_insert, Named.get?_insert]
  split
  · exact h
  · rfl

end Row

/-! ### Which rows belong together -/

namespace Relation

section

variable {M : Type} (relation : Relation M)

/-- The labels under which an answer bears the keys. -/
def labels : List String := (List.range relation.external.length).map keyName

/-- **Whether an answered row is kept**: it has a value under each label. -/
def keeps (row : Row) : Bool := relation.labels.all fun label => (row.value? label).isSome

/-- An answered row without what stands under the labels. -/
def stripped (row : Row) : Row := row.filter fun entry => entry.1 ∉ relation.labels

/-- **Whether an answered row belongs to an owner**: column by column both have a value, and the two
are equal once they are brought into one form. -/
def joins (owner row : Row) : Bool :=
  (relation.internal.zip relation.labels).all fun pair =>
    match owner.value? pair.1, row.value? pair.2 with
    | some s, some t => s.normalized.equals t.normalized
    | _, _ => false

/-- **What an owner gets** of rows that are each given in two forms, as it was answered and as it is
to be attached: the first that belongs to it, or all of them. -/
def share (owner : Row) (rows : List (Row × Row)) : Datum :=
  let theirs := (rows.filter fun row => relation.joins owner row.1).map Prod.snd
  if relation.limit = .rows 1 then .object (theirs.head?.getD []) else .list theirs

end

section

variable {M : Type} {relation : Relation M}

/-- A found row is divided into its key and what is left without the labels. -/
theorem detach?_eq (row : Row) :
    detach? relation.external.length row =
      (row.key? relation.labels).map fun key => (key, relation.stripped row) := by
  have hstripped : (List.range relation.external.length).foldl
      (fun row i => Named.erase (keyName i) row) row = relation.stripped row := by
    have herase : ∀ (places : List Nat) (row : Row),
        places.foldl (fun row i => Named.erase (keyName i) row) row =
          row.filter fun entry => entry.1 ∉ places.map keyName := by
      intro places
      induction places with
      | nil => simp
      | cons i places ih =>
        intro row
        rw [List.foldl_cons, ih, Named.erase, List.filter_filter]
        refine List.filter_congr fun entry _ => ?_
        simp [Bool.and_comm]
    exact herase _ row
  rw [detach?, hstripped]
  rfl

/-- **Keys of two rows are the same if the rows belong together**, column by column. -/
theorem all_zip_eq {columns labels : List String} (h : columns.length = labels.length)
    {owner row : Row} {key : List Scalar} (hkey : row.key? labels = some key) :
    ((columns.zip labels).all fun pair =>
        match owner.value? pair.1, row.value? pair.2 with
        | some s, some t => s.normalized.equals t.normalized
        | _, _ => false) =
      match owner.key? columns with
      | none => false
      | some ownerKey => sameKey ownerKey key := by
  induction columns generalizing labels key with
  | nil =>
    obtain rfl := List.length_eq_zero_iff.mp h.symm
    obtain rfl := Option.some.inj hkey
    rfl
  | cons column columns ih =>
    cases labels with
    | nil => exact absurd h (by simp)
    | cons label labels =>
      rw [Row.key?_cons] at hkey
      obtain ⟨t, ht, hrest⟩ := Option.bind_eq_some_iff.mp hkey
      obtain ⟨rest, hlabels, rfl⟩ := Option.map_eq_some_iff.mp hrest
      have ihRest := ih (Nat.succ.inj h) hlabels
      rw [List.zip_cons_cons, List.all_cons, ihRest, Row.key?_cons, ht]
      cases owner.value? column with
      | none => rfl
      | some s =>
        cases owner.key? columns with
        | none => simp
        | some ownerKey => rfl

/-- **What is found for an owner is what belongs to it**, where the columns of both sides pair
up. -/
theorem matching_zip (h : relation.internal.length = relation.labels.length) (owner : Row)
    {kept : List Row} (hkept : ∀ row ∈ kept, relation.keeps row = true) (forms : List Row) :
    relation.matching owner ((kept.filterMap (Row.key? relation.labels)).zip forms) =
      ((kept.zip forms).filter fun row => relation.joins owner row.1).map Prod.snd := by
  rw [matching]
  induction kept generalizing forms with
  | nil => cases Row.key? relation.internal owner <;> rfl
  | cons row kept ih =>
    obtain ⟨hrow, hrest⟩ := List.forall_mem_cons.mp hkept
    rw [keeps, ← Row.isSome_key?] at hrow
    obtain ⟨key, hkey⟩ := Option.isSome_iff_exists.mp hrow
    have hjoins : relation.joins owner row =
        match owner.key? relation.internal with
        | none => false
        | some ownerKey => sameKey ownerKey key :=
      all_zip_eq h hkey
    cases forms with
    | nil => cases Row.key? relation.internal owner <;> simp
    | cons form forms =>
      have ihRest := ih hrest forms
      rw [List.filterMap_cons_some hkey, List.zip_cons_cons, List.zip_cons_cons]
      cases howner : Row.key? relation.internal owner with
      | none =>
        rw [howner] at hjoins ihRest
        simp [hjoins, ← ihRest]
      | some ownerKey =>
        rw [howner] at hjoins ihRest
        cases hsame : sameKey ownerKey key with
        | false => simp_all
        | true => simp_all

end

/-! ### Following a relation with a database -/

/-- **What a database answers a relation with**, and its state afterwards: no rows, if there is
nothing to ask for or the request fails. -/
def answered (database : Database σ) (role : Role) (relation : Relation Model) (rows : List Row)
    (state : σ) : List Row × σ :=
  match relation.request role rows with
  | .nothing | .unreadable => ([], state)
  | .rows selection =>
    match database.select selection state with
    | (.ok found, after) => (found, after)
    | (.error _, after) => ([], after)

variable {relation : Relation Model} {role : Role} {rows : List Row}

/-- Where a relation is answered with anything, its columns pair up. -/
theorem length_internal_of_answered {database : Database σ} {state : σ}
    (h : (relation.answered database role rows state).1 ≠ []) :
    relation.internal.length = relation.labels.length := by
  have hasks : relation.asks role rows := by
    by_contra hasks
    rw [answered] at h
    rcases request_of_not_asks hasks with hrequest | hrequest <;> simp [hrequest] at h
  have husable := hasks.1
  simp only [isUsable, Bool.and_eq_true, beq_iff_eq] at husable
  rw [husable.2, labels, List.length_map, List.length_range]

variable (relation) in
/-- **The rows that are found are the kept rows of the answer**, divided. -/
theorem filterMap_detach? (answer : List Row) :
    (answer.filterMap (detach? relation.external.length)).map Prod.fst =
        (answer.filter relation.keeps).filterMap (Row.key? relation.labels) ∧
      (answer.filterMap (detach? relation.external.length)).map Prod.snd =
        (answer.filter relation.keeps).map relation.stripped := by
  induction answer with
  | nil => exact ⟨rfl, rfl⟩
  | cons row rest ih =>
    have hkeeps : relation.keeps row = (row.key? relation.labels).isSome := by
      rw [keeps, Row.isSome_key?]
    cases hkey : row.key? relation.labels with
    | none =>
      have hdetach : detach? relation.external.length row = none := by
        rw [detach?_eq, hkey, Option.map_none]
      have hdropped : ¬relation.keeps row = true := by
        simp [hkeeps, hkey]
      rw [List.filterMap_cons_none hdetach, List.filter_cons_of_neg hdropped]
      exact ih
    | some key =>
      have hdetach : detach? relation.external.length row = some (key, relation.stripped row) := by
        rw [detach?_eq, hkey, Option.map_some]
      have hkept : relation.keeps row = true := by
        simp [hkeeps, hkey]
      rw [List.filterMap_cons_some hdetach, List.filter_cons_of_pos hkept,
        List.filterMap_cons_some hkey]
      exact ⟨congrArg (key :: ·) ih.1, congrArg (relation.stripped row :: ·) ih.2⟩

variable (relation role rows) in
/-- **Following a relation comes to the kept rows of the answer**, each with its key, and each as it
is once all of them are expanded. -/
theorem run_related (database : Database σ) (state : σ) {answer : List Row × σ}
    (hanswer : relation.answered database role rows state = answer) {kept : List Row}
    (hkept : answer.1.filter relation.keeps = kept) {nested : Course σ (List Row)}
    (hnested :
      (relation.target.expand role (kept.map relation.stripped)).run database answer.2 = nested) :
    ((related role relation rows).run database state).value =
        (kept.filterMap (Row.key? relation.labels)).zip nested.value ∧
      ((related role relation rows).run database state).state = nested.state := by
  subst hanswer hkept hnested
  have hnothing : ∀ (after : σ), relation.answered database role rows state = ([], after) →
      (relation.target.expand role
        (((relation.answered database role rows state).1.filter relation.keeps).map
          relation.stripped)).run database (relation.answered database role rows state).2 =
        ⟨[], after, []⟩ := by
    intro after h
    rw [h, List.filter_nil, List.map_nil, Model.expand_nil]
    rfl
  rw [related_eq]
  cases hrequest : relation.request role rows with
  | nothing =>
    have hanswer : relation.answered database role rows state = ([], state) := by
      rw [answered, hrequest]
    rw [hnothing state hanswer]
    simp [Dialogue.run]
  | unreadable =>
    have hanswer : relation.answered database role rows state = ([], state) := by
      rw [answered, hrequest]
    rw [hnothing state hanswer]
    simp [Dialogue.run, Course.after]
  | rows selection =>
    cases hselect : database.select selection state with
    | mk outcome after =>
      cases outcome with
      | error failure =>
        have hanswer : relation.answered database role rows state = ([], after) := by
          rw [answered, hrequest]
          simp [hselect]
        rw [hnothing after hanswer]
        simp [Dialogue.run, Course.after, hselect]
      | ok answer =>
        have hanswer : relation.answered database role rows state = (answer, after) := by
          rw [answered, hrequest]
          simp [hselect]
        obtain ⟨hkeys, hrows⟩ := filterMap_detach? relation answer
        rw [hanswer]
        simp only [Dialogue.run, Course.after, hselect, Dialogue.map, Dialogue.run_bind,
          Course.andThen, hkeys, hrows]
        exact ⟨trivial, trivial⟩

/-! ### Following one after the other -/

/-- **That a row is another one with relations followed**: it has the same under every name that is
not the name of a relation which the role sees. -/
def Extends (role : Role) (relations : List (Relation Model)) (row form : Row) : Prop :=
  ∀ name, (∀ relation ∈ relations, relation.visibleTo role = true → relation.name ≠ name) →
    Named.get? name form = Named.get? name row

/-- **Following relations makes one row of each, in the same place.** -/
theorem forall₂_run_expandAll (database : Database σ) (relations : List (Relation Model))
    (rows : List Row) (state : σ) :
    List.Forall₂ (Extends role relations) rows
      ((expandAll role relations rows).run database state).value := by
  refine ((ensures_fits_expandAll role relations rows).run (fun _ _ => trivial) state).imp
    fun row form hform name hname => hform.kept name fun relation hrelation => ?_
  obtain ⟨hmem, hseen⟩ := List.mem_filter.mp hrelation
  exact hname relation hmem hseen

end Relation

/-! ### What is attached -/

/-- **What following a relation does to rows**, from a state of the database: of the answer, the
rows are kept that have a key; they are expanded together, which makes one row of each in the same
place; and each owner gets what belongs to it. -/
def Relation.Attaches (database : Database σ) (role : Role) (relation : Relation Model)
    (rows : List Row) (state : σ) (attached : List Row) (state' : σ) : Prop :=
  let answer := relation.answered database role rows state
  let kept := answer.1.filter relation.keeps
  let nested :=
    (relation.target.expand role (kept.map relation.stripped)).run database answer.2
  List.Forall₂ (Extends role relation.target.relations) (kept.map relation.stripped) nested.value ∧
    attached = rows.map (fun owner =>
      Named.insert relation.name (relation.share owner (kept.zip nested.value)) owner) ∧
    state' = nested.state

/-- **Following a relation attaches to each row exactly what belongs to it.** -/
theorem Relation.attaches_related (database : Database σ) (role : Role)
    (relation : Relation Model) (rows : List Row) (state : σ) :
    relation.Attaches database role rows state
      (relation.attach rows ((related role relation rows).run database state).value)
      ((related role relation rows).run database state).state := by
  obtain ⟨hvalue, hstate⟩ := run_related relation role rows database state rfl rfl rfl
  refine ⟨Model.expand_eq role relation.target _ ▸ forall₂_run_expandAll database _ _ _, ?_, hstate⟩
  rw [hvalue, attach]
  refine List.map_congr_left fun owner _ => congrArg (Named.insert relation.name · owner) ?_
  have hmatching : ∀ forms : List Row,
      relation.matching owner
        ((((relation.answered database role rows state).1.filter relation.keeps).filterMap
          (Row.key? relation.labels)).zip forms) =
        ((((relation.answered database role rows state).1.filter relation.keeps).zip forms).filter
          fun row => relation.joins owner row.1).map Prod.snd := by
    intro forms
    by_cases hempty : (relation.answered database role rows state).1 = []
    · rw [hempty, matching]
      cases Row.key? relation.internal owner <;> rfl
    · exact matching_zip (length_internal_of_answered hempty) owner
        (fun row hrow => (List.mem_filter.mp hrow).2) forms
  simp only [datum, share, hmatching, RowLimit.isSingle, decide_eq_true_eq]

/-- **Every relation that a role sees attaches exactly what belongs to each row**, at the moment
when it is followed, and the relations after it go on from there. -/
theorem Model.attaches_of_expand (database : Database σ) (state : σ) (role : Role) (model : Model)
    (rows : List Row) {before after : List (Relation Model)} {relation : Relation Model}
    (h : model.relations = before ++ relation :: after) (seen : relation.visibleTo role = true) :
    ∃ attached state',
      relation.Attaches database role
        (({ model with relations := before }.expand role rows).run database state).value
        (({ model with relations := before }.expand role rows).run database state).state
        attached state' ∧
      ((model.expand role rows).run database state).value =
        (({ model with relations := after }.expand role attached).run database state').value := by
  refine ⟨_, _, relation.attaches_related database role _ _, ?_⟩
  simp only [expand_eq, h, Relation.expandAll_append, Dialogue.run_bind, Course.andThen,
    Relation.expandAll, if_pos seen]

/-! ### Parcels for houses -/

section Parcels

/-- Parcels, which are for a house of a town. -/
def Relation.parcels : Relation Model :=
  { name := "parcels"
    internal := ["town", "house"]
    external := ["to_town", "to_house"]
    target := { table := "parcels", fields := [(Field.text "sender").grant (.readOnly .default)] } }

/-- Houses with parcels. -/
def Model.houses : Model :=
  { table := "houses"
    fields := [(Field.signed 64 "town").grant (.readOnly .default)]
    relations := [.parcels] }

/-- A house of a town. -/
def Row.house (town : Scalar) (house : String) : Row :=
  [("house", .scalar (.text house)), ("town", .scalar town)]

/-- A parcel, as it is answered. -/
def Row.parcel (town : Scalar) (house sender : String) : Row :=
  [("__expand_key_0", .scalar town), ("__expand_key_1", .scalar (.text house)),
    ("sender", .scalar (.text sender))]

/-- Four parcels: two for one house, one for another house of the town, and one for no town. -/
def Canned.parcels : Canned :=
  Canned.tell {} "parcels"
    [.parcel (.uint 1) "a" "first", .parcel (.int 1) "b" "other", .parcel .null "a" "lost",
      .parcel (.int 1) "a" "second"]

/-- The house gets its two parcels in their order, and what is no house of a town gets none. -/
theorem Model.attaches_of_expand_houses :
    houses.relations = [] ++ Relation.parcels :: [] ∧ Relation.parcels.visibleTo .default = true ∧
      ((houses.expand .default [.house (.int 1) "a", .house .null "a"]).run Canned.database
          .parcels).value =
        [("house", .scalar (.text "a")),
          ("parcels", .list [[("sender", .scalar (.text "first"))],
            [("sender", .scalar (.text "second"))]]),
          ("town", .scalar (.int 1))] ::
        [("house", .scalar (.text "a")), ("parcels", .list []), ("town", .scalar .null)] :: [] ∧
      ∃ attached state',
        Relation.parcels.Attaches Canned.database .default
          (({ houses with relations := [] }.expand .default
            [.house (.int 1) "a", .house .null "a"]).run Canned.database .parcels).value
          (({ houses with relations := [] }.expand .default
            [.house (.int 1) "a", .house .null "a"]).run Canned.database .parcels).state
          attached state' ∧
        ((houses.expand .default [.house (.int 1) "a", .house .null "a"]).run Canned.database
            .parcels).value =
          (({ houses with relations := [] }.expand .default attached).run Canned.database
            state').value := by
  have hrelations : houses.relations = [] ++ Relation.parcels :: [] := rfl
  refine ⟨hrelations, rfl, ?_, attaches_of_expand _ _ _ houses _ hrelations rfl⟩
  with_unfolding_all rfl

end Parcels

end QueryGate
