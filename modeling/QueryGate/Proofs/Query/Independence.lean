import Mathlib.Data.List.Nodup
import QueryGate.Proofs.Database.Tables
import QueryGate.Proofs.Query.Matching

/-!
# Relations that are not in each other's way

Relations are followed one after the other, over rows that already carry what the relations before
attached. What a relation attaches covers the column of its own name, if the row has one, and an
attribute is no value of a key; so a relation can be in the way of a later one whose key has a
column of that name (`QueryGate.Relation.ClearOf`). Nothing else can be: with a database that
answers by the request alone, what a relation gives where nothing is in its way is what it gives by
itself, and relations that are not in each other's way may be declared in any order
(`QueryGate.Model.value_run_expand_of_clear`). Where one is in the way, neither holds
(`QueryGate.Model.value_run_expand_tenants_ne`).

## What is carried along

Of the rows, as they are when a relation is followed, it matters only which columns have been
covered (`QueryGate.Row.CoveredBy`). A relation with such a column in its key finds no key in any
row and asks for nothing, so it is as if it were followed by itself if it asks for nothing then; and
any other relation reads the keys that the rows had from the beginning
(`QueryGate.Relation.related_of_clear`).
-/

namespace QueryGate

/-! ### Covered columns -/

/-- What a relation gives is no value of a column. -/
theorem Datum.asValue?_of_fits {datum : Datum} {limit : RowLimit} (h : datum.Fits limit) :
    datum.asValue? = none := by
  cases datum with
  | scalar s => exact h.elim
  | object row => rfl
  | list rows => rfl

/-- **That the columns of some names are covered** in a form of a row: they have no value there, and
every other column has the value that it has in the row. -/
def Row.CoveredBy (names : List String) (row form : Row) : Prop :=
  ∀ column, form.value? column = if column ∈ names then none else row.value? column

namespace Row.CoveredBy

variable {names : List String} {row form : Row}

/-- In a row itself nothing is covered. -/
theorem refl (row : Row) : CoveredBy [] row row :=
  fun _ => (if_neg List.not_mem_nil).symm

/-- An attribute covers the column of its name. -/
theorem insert (h : CoveredBy names row form) (name : String) {datum : Datum}
    (hdatum : datum.asValue? = none) :
    CoveredBy (name :: names) row (Named.insert name datum form) := by
  intro column
  by_cases hname : column = name
  · rw [if_pos (List.mem_cons.mpr (Or.inl hname)), value?, Named.get?_insert, if_pos hname]
    exact hdatum
  · have hget : value? column (Named.insert name datum form) = form.value? column := by
      rw [value?, value?, Named.get?_insert, if_neg hname]
    simp [hget, h column, hname]

/-- A key without covered columns is the key that the row has. -/
theorem key?_eq (h : CoveredBy names row form) {columns : List String}
    (hcolumns : ∀ name ∈ names, name ∉ columns) : form.key? columns = row.key? columns := by
  refine key?_congr fun column hcolumn => ?_
  rw [h column, if_neg fun hname => hcolumns column hname hcolumn]

/-- There is no key with a covered column. -/
theorem key?_eq_none (h : CoveredBy names row form) {columns : List String} {name : String}
    (hname : name ∈ names) (hcolumn : name ∈ columns) : form.key? columns = none := by
  rw [← Option.not_isSome_iff_eq_none, isSome_key?, List.all_eq_true]
  intro hall
  have hvalue := hall name hcolumn
  rw [h name, if_pos hname] at hvalue
  exact Bool.false_ne_true hvalue

end Row.CoveredBy

/-- The names of relations are what their attributes cover. -/
theorem Relation.Frames.coveredBy {relations : List (Relation Model)} {row form : Row}
    (h : Frames (fun relation datum => datum.Fits relation.limit) relations row form) :
    Row.CoveredBy (relations.map Relation.name) row form := by
  intro column
  split
  · next hname =>
    obtain ⟨last, hlast⟩ :=
      Option.isSome_iff_exists.mp (isSome_lastNamed?.mpr (List.mem_map.mp hname))
    obtain ⟨datum, hget, hfits⟩ := h.given column last hlast
    rw [Row.value?, hget]
    exact Datum.asValue?_of_fits hfits
  · next hname =>
    rw [Row.value?, Row.value?, h.kept column fun relation hrelation hcolumn =>
      hname (List.mem_map.mpr ⟨relation, hrelation, hcolumn⟩)]

/-! ### A relation with nothing in its way -/

namespace Relation

/-- **That an attribute of a name is not in the way of a relation**: no column of the relation's key
has that name, or the relation asks for nothing anyway. -/
def ClearOf (relation : Relation Model) (role : Role) (rows : List Row) (name : String) : Prop :=
  name ∈ relation.internal → ¬relation.asks role rows

/-- **What a relation gives to one of some rows** when it is followed by itself. -/
def gift (answer : Selection → Except Failure (List Row)) (role : Role) (rows : List Row)
    (relation : Relation Model) (row : Row) : Datum :=
  relation.datum row ((related role relation rows).result answer)

variable (answer : Selection → Except Failure (List Row)) {role : Role} {rows : List Row}
variable {names : List String} {form : Row → Row}

/-- **A relation with nothing in its way** asks, finds and gives what it does by itself. -/
theorem related_of_clear {relation : Relation Model}
    (covered : ∀ row ∈ rows, Row.CoveredBy names row (form row))
    (clear : ∀ name ∈ names, relation.ClearOf role rows name) :
    (related role relation (rows.map form)).result answer =
        (related role relation rows).result answer ∧
      (related role relation (rows.map form)).requests answer =
        (related role relation rows).requests answer ∧
      ∀ row ∈ rows,
        relation.datum (form row) ((related role relation rows).result answer) =
          relation.gift answer role rows row := by
  by_cases hkeys : ∃ name ∈ names, name ∈ relation.internal
  · -- the relation asks for nothing by itself, and for nothing here, where no row has a key
    obtain ⟨name, hname, hcolumn⟩ := hkeys
    have hsilent : ¬relation.asks role rows := clear name hname hcolumn
    have hsilent' : ¬relation.asks role (rows.map form) := by
      refine fun hasks => hasks.2.1 (List.filterMap_eq_nil_iff.mpr fun row' hrow' => ?_)
      obtain ⟨row, hrow, rfl⟩ := List.mem_map.mp hrow'
      exact (covered row hrow).key?_eq_none hname hcolumn
    have hnothing : (related role relation rows).result answer = [] ∧
        (related role relation rows).requests answer = [] := related_of_not_asks hsilent
    have hnothing' : (related role relation (rows.map form)).result answer = [] ∧
        (related role relation (rows.map form)).requests answer = [] := related_of_not_asks hsilent'
    refine ⟨hnothing'.1.trans hnothing.1.symm, hnothing'.2.trans hnothing.2.symm, fun row _ => ?_⟩
    rw [gift, hnothing.1]
    exact datum_nil.trans datum_nil.symm
  · -- the keys are those that the rows had
    have hkey : ∀ row ∈ rows, (form row).key? relation.internal = row.key? relation.internal :=
      fun row hrow => (covered row hrow).key?_eq fun name hname hcolumn =>
        hkeys ⟨name, hname, hcolumn⟩
    have hsame : relation.keys (rows.map form) = relation.keys rows := by
      rw [keys, keys, List.filterMap_map]
      exact List.filterMap_congr hkey
    rw [related_congr hsame]
    refine ⟨rfl, rfl, fun row hrow => datum_congr ?_⟩
    rw [matching, matching, hkey row hrow]

/-! ### Relations that are not in each other's way -/

variable (role) in
/-- What a row becomes frames it. -/
theorem frames_become (relations : List (Relation Model)) {row : Row} (hrow : row ∈ rows) :
    Frames (fun relation datum => datum.Fits relation.limit)
      (relations.filter (·.visibleTo role)) row (become answer role relations rows row) := by
  have hframes : List.Forall₂ (Frames (fun relation datum => datum.Fits relation.limit)
      (relations.filter (·.visibleTo role))) rows
      ((expandAll role relations rows).result answer) :=
    (ensures_fits_expandAll role relations rows).result fun _ => trivial
  rw [result_expandAll, List.forall₂_map_right_iff, List.forall₂_same] at hframes
  exact hframes row hrow

/-- **A relation gives among others what it gives by itself**, if those before it are not in its way
and those after it have other names. -/
theorem map_get?_expandAll {before after : List (Relation Model)} {relation : Relation Model}
    (seen : relation.visibleTo role = true)
    (clear : ∀ earlier ∈ before, relation.ClearOf role rows earlier.name)
    (last : ∀ later ∈ after, later.name ≠ relation.name) :
    ((expandAll role (before ++ relation :: after) rows).result answer).map
        (Named.get? relation.name) =
      rows.map fun row => some (relation.gift answer role rows row) := by
  -- the rows as they are when the relation is followed, with the names of those before it covered
  have hbefore := result_expandAll answer role before rows
  have hcovered : ∀ row ∈ rows, Row.CoveredBy ((before.filter (·.visibleTo role)).map name) row
      (become answer role before rows row) :=
    fun row hrow => (frames_become answer role before hrow).coveredBy
  obtain ⟨hresult, -, hdatum⟩ := related_of_clear answer hcovered fun name hname => by
    obtain ⟨earlier, hearlier, rfl⟩ := List.mem_map.mp hname
    exact clear earlier (List.mem_of_mem_filter hearlier)
  have hattach : relation.attach (rows.map (become answer role before rows))
      ((related role relation (rows.map (become answer role before rows))).result answer) =
        rows.map fun row => Named.insert relation.name (relation.gift answer role rows row)
          (become answer role before rows row) := by
    rw [hresult]
    exact attach_map hdatum
  rw [expandAll_append, Dialogue.result_bind, hbefore, expandAll, if_pos seen,
    Dialogue.result_bind, hattach, result_expandAll, List.map_map, List.map_map]
  -- the relations after it leave its name alone
  refine List.map_congr_left fun row hrow => ?_
  have hframe := frames_become answer role after (List.mem_map_of_mem
    (f := fun row => Named.insert relation.name (relation.gift answer role rows row)
      (become answer role before rows row)) hrow)
  exact (hframe.kept relation.name fun later hlater =>
    last later (List.mem_of_mem_filter hlater)).trans (Named.get?_insert_self _ _ _)

/-- **Relations that are not in each other's way** give each row one after the other what they give
by themselves, and ask for what they ask for by themselves. -/
theorem expandAll_of_pairwise_clear {relations : List (Relation Model)}
    (seen : ∀ relation ∈ relations, relation.visibleTo role = true)
    (apart : relations.Pairwise fun earlier later => later.ClearOf role rows earlier.name)
    (covered : ∀ row ∈ rows, Row.CoveredBy names row (form row))
    (clear : ∀ relation ∈ relations, ∀ name ∈ names, relation.ClearOf role rows name) :
    (expandAll role relations (rows.map form)).result answer =
        rows.map (fun row =>
          relations.foldl
            (fun attached relation =>
              Named.insert relation.name (relation.gift answer role rows row) attached)
            (form row)) ∧
      (expandAll role relations (rows.map form)).requests answer =
        relations.flatMap fun relation => (related role relation rows).requests answer := by
  induction relations generalizing names form with
  | nil => exact ⟨rfl, rfl⟩
  | cons relation rest ih =>
    obtain ⟨hseen, seenRest⟩ := List.forall_mem_cons.mp seen
    obtain ⟨hclear, clearRest⟩ := List.forall_mem_cons.mp clear
    obtain ⟨happart, apartRest⟩ := List.pairwise_cons.mp apart
    obtain ⟨hresult, hrequests, hdatum⟩ := related_of_clear answer covered hclear
    obtain ⟨hrest, hrestRequests⟩ := ih seenRest apartRest
      (fun row hrow => (covered row hrow).insert relation.name
        (Datum.asValue?_of_fits (relation.fits_datum row _)))
      (fun other hother => List.forall_mem_cons.mpr ⟨happart other hother, clearRest other hother⟩)
    rw [expandAll, if_pos hseen, Dialogue.result_bind, Dialogue.requests_bind, hresult,
      attach_map hdatum, hrequests]
    exact ⟨hrest, congrArg (_ ++ ·) hrestRequests⟩

end Relation

/-- **That no relation is in the way of a later one**, among those that the role sees. -/
def Model.Unhindered (model : Model) (role : Role) (rows : List Row) : Prop :=
  (model.relationsFor role).Pairwise fun earlier later => later.ClearOf role rows earlier.name

/-- An expansion by relations of which none is in the way of a later one, in one step. -/
theorem Model.expand_of_unhindered (answer : Selection → Except Failure (List Row)) {model : Model}
    {role : Role} {rows : List Row} (h : model.Unhindered role rows) :
    (model.expand role rows).result answer =
        rows.map (fun row =>
          (model.relationsFor role).foldl
            (fun attached relation =>
              Named.insert relation.name (relation.gift answer role rows row) attached)
            row) ∧
      (model.expand role rows).requests answer =
        (model.relationsFor role).flatMap fun relation =>
          (Relation.related role relation rows).requests answer := by
  have hexpand := Relation.expandAll_of_pairwise_clear answer
    (fun relation hrelation => (mem_relationsFor.mp hrelation).2) h
    (fun row (_ : row ∈ rows) => .refl row) (fun _ _ name hname => absurd hname List.not_mem_nil)
  rwa [List.map_id', ← expand_eq_relationsFor] at hexpand

/-- **Relations that are not in each other's way do not disturb each other.** With a database that
answers by the request alone, and with different names: a relation with no earlier one in its way
attaches to each row what it attaches when it is the only one; and as long as none is in the way of
a later one, the order of the declarations is only that of the requests. -/
theorem Model.value_run_expand_of_clear {σ : Type} {database : Database σ}
    {answer : Selection → Except Failure (List Row)} (answers : database.AnswersBy answer)
    (role : Role) (model : Model) (rows : List Row) (state : σ)
    (distinct : ((model.relationsFor role).map Relation.name).Nodup) :
    (∀ before relation after, model.relationsFor role = before ++ relation :: after →
      (∀ earlier ∈ before, relation.ClearOf role rows earlier.name) →
        ((model.expand role rows).run database state).value.map (Named.get? relation.name) =
          (({ model with relations := [relation] }.expand role rows).run database state).value.map
            (Named.get? relation.name)) ∧
      ∀ relations, relations.Perm model.relations → model.Unhindered role rows →
        { model with relations }.Unhindered role rows →
          (({ model with relations }.expand role rows).run database state).value =
              ((model.expand role rows).run database state).value ∧
            (({ model with relations }.expand role rows).run database state).asked.Perm
              ((model.expand role rows).run database state).asked := by
  simp only [Dialogue.value_run answers, Dialogue.asked_run answers]
  constructor
  · intro before relation after hrelations hclear
    have hmem : relation ∈ model.relationsFor role := by simp [hrelations]
    have hseen := (mem_relationsFor.mp hmem).2
    rw [hrelations, List.map_append, List.map_cons] at distinct
    have hlast : ∀ later ∈ after, later.name ≠ relation.name := by
      intro later hlater hname
      refine (List.nodup_cons.mp (List.nodup_append.mp distinct).2.1).1 ?_
      exact List.mem_map.mpr ⟨later, hlater, hname⟩
    rw [expand_eq_relationsFor, hrelations, Relation.map_get?_expandAll answer hseen hclear hlast,
      expand_eq]
    -- the relation by itself has none before it and none after it
    exact (Relation.map_get?_expandAll answer hseen
      (fun earlier h => absurd h List.not_mem_nil) (fun later h => absurd h List.not_mem_nil)).symm
  · intro relations hperm hmodel hother
    have hseen : ({ model with relations }.relationsFor role).Perm (model.relationsFor role) :=
      hperm.filter _
    obtain ⟨hresult, hrequests⟩ := expand_of_unhindered answer hmodel
    obtain ⟨hresult', hrequests'⟩ := expand_of_unhindered answer hother
    rw [hresult, hrequests, hresult', hrequests']
    refine ⟨List.map_congr_left fun row _ => ?_, hseen.flatMap_right _⟩
    -- two relations in the list are the same or have different names
    refine hseen.foldl_eq' (fun relation hrelation other hother attached => ?_) row
    by_cases hname : relation.name = other.name
    · have hsame : relation = other := List.inj_on_of_nodup_map distinct
        (hseen.mem_iff.mp hrelation) (hseen.mem_iff.mp hother) hname
      rw [hsame]
    · exact (Named.insert_comm hname _ _ attached).symm

/-! ### Tenants of houses -/

section Tenants

/-- The house that a tenant lives in, attached under some name. -/
def Relation.home (name : String) : Relation Model :=
  { name
    internal := ["house"]
    external := ["number"]
    target := { table := "houses", fields := [(Field.text "street").grant (.readOnly .default)] }
    limit := .rows 1 }

/-- The tenants of the house that a tenant lives in. -/
def Relation.neighbours : Relation Model :=
  { name := "neighbours"
    internal := ["house"]
    external := ["house"]
    target := { table := "tenants", fields := [(Field.text "name").grant (.readOnly .default)] } }

/-- Tenants, with their houses under some name and with their neighbours. -/
def Model.tenants (home : String) : Model :=
  { table := "tenants", fields := [], relations := [.home home, .neighbours] }

/-- A tenant of the seventh house. -/
def Row.tenant : Row := [("house", .scalar (.int 7))]

/-- A house with a tenant. -/
def Tables.tenants : Tables
  | "houses" => [fun column => if column = "number" then .int 7 else .text "High Street"]
  | "tenants" => [fun column => if column = "house" then .int 7 else .text "somebody"]
  | _ => []

/-- How many neighbours a tenant gets. -/
def Row.neighbourCount (tenant : Row) : Option Nat :=
  (Named.get? "neighbours" tenant).map Datum.rowCount

/-- **A relation may be in the way of a later one**: where the house is attached under the name of
the column that it is found by, there are no neighbours any more. There are if the neighbours are
attached alone, or first. -/
theorem Model.value_run_expand_tenants_ne :
    Tables.tenants.keeper.database.AnswersBy Tables.tenants.keeper.answer ∧
      (((tenants "house").relationsFor .default).map Relation.name).Nodup ∧
      (((tenants "house").expand .default [.tenant]).run Tables.tenants.keeper.database
            ()).value.map (Named.get? "neighbours") ≠
        (({ tenants "house" with relations := [.neighbours] }.expand .default [.tenant]).run
            Tables.tenants.keeper.database ()).value.map (Named.get? "neighbours") ∧
      (({ tenants "house" with relations := [.neighbours, .home "house"] }.expand .default
            [.tenant]).run Tables.tenants.keeper.database ()).value ≠
        (((tenants "house").expand .default [.tenant]).run Tables.tenants.keeper.database
            ()).value := by
  refine ⟨Keeper.database_answersBy _, by decide, fun h => ?_, fun h => ?_⟩
  · exact absurd (congrArg (List.map (Option.map Datum.rowCount)) h) (by decide +kernel)
  · exact absurd (congrArg (List.map Row.neighbourCount) h) (by decide +kernel)

/-- Under another name the house is not in the way: the neighbours are what they are by themselves,
and may be attached first. -/
theorem Model.value_run_expand_tenants_eq :
    (((tenants "home").relationsFor .default).map Relation.name).Nodup ∧
      (tenants "home").relationsFor .default = [.home "home"] ++ Relation.neighbours :: [] ∧
      (∀ earlier ∈ [Relation.home "home"],
        Relation.neighbours.ClearOf .default [.tenant] earlier.name) ∧
      (tenants "home").Unhindered .default [.tenant] ∧
      { tenants "home" with relations := [.neighbours, .home "home"] }.Unhindered .default
        [.tenant] ∧
      (((tenants "home").expand .default [.tenant]).run Tables.tenants.keeper.database
            ()).value.map (Named.get? "neighbours") =
        (({ tenants "home" with relations := [.neighbours] }.expand .default [.tenant]).run
            Tables.tenants.keeper.database ()).value.map (Named.get? "neighbours") ∧
      (({ tenants "home" with relations := [.neighbours, .home "home"] }.expand .default
            [.tenant]).run Tables.tenants.keeper.database ()).value =
          (((tenants "home").expand .default [.tenant]).run Tables.tenants.keeper.database
            ()).value ∧
        (({ tenants "home" with relations := [.neighbours, .home "home"] }.expand .default
              [.tenant]).run Tables.tenants.keeper.database ()).asked.Perm
          (((tenants "home").expand .default [.tenant]).run Tables.tenants.keeper.database
            ()).asked := by
  have distinct : (((tenants "home").relationsFor .default).map Relation.name).Nodup := by
    decide
  -- neither of the two keys has a column of the name of the other relation
  have hclear : Relation.neighbours.ClearOf .default [.tenant] (Relation.home "home").name :=
    fun h => absurd h (by decide)
  have hclear' : (Relation.home "home").ClearOf .default [.tenant] Relation.neighbours.name :=
    fun h => absurd h (by decide)
  have unhindered : (tenants "home").Unhindered .default [.tenant] :=
    List.pairwise_pair.mpr hclear
  have unhindered' : { tenants "home" with relations := [.neighbours, .home "home"] }.Unhindered
      .default [.tenant] :=
    List.pairwise_pair.mpr hclear'
  obtain ⟨halone, horder⟩ := value_run_expand_of_clear
    (Keeper.database_answersBy Tables.tenants.keeper) .default (tenants "home") [.tenant] ()
    distinct
  have hearlier : ∀ earlier ∈ [Relation.home "home"],
      Relation.neighbours.ClearOf .default [.tenant] earlier.name :=
    List.forall_mem_singleton.mpr hclear
  exact ⟨distinct, rfl, hearlier, unhindered, unhindered', halone [.home "home"] _ [] rfl hearlier,
    horder _ (List.Perm.swap _ _ []) unhindered unhindered'⟩

end Tenants

end QueryGate
