import QueryGate.Proofs.Database.Outage
import QueryGate.Proofs.Database.Tables
import QueryGate.Proofs.Query.Matching
import QueryGate.Query.Compiled

/-!
# Failures that stay where they are

A query whose own request fails fails with it, and asks for nothing else. A request for related rows
may fail too, and then it is as if there were no rows to find
(`QueryGate.CompiledQuery.run_fetch_of_outage`): the rest of the run is the same, request by
request, and if the database answers by the request alone, the rows are those of the run without
any failure, less what relations gave from the tables that failed (`QueryGate.Model.remnant`).

## Where the inductions are

That a failure is as good as an empty answer is a property of the dialogue and is proved on the tree
of models, from the targets of relations upwards. What is lost is then a comparison of two answers
to the same dialogue. A relation that comes to less leaves rows that differ in one attribute, and
since that attribute has no value of a column in either of them, the relations after it ask for the
same and find the same (`QueryGate.Relation.result_expandAll_insert`).
-/

namespace QueryGate

variable {σ : Type}

/-! ### Expansions forgive failures -/

namespace Relation

variable {role : Role}

/-- Following a relation forgives failures if the expansion of what it finds does. -/
theorem forgives_related {relation : Relation Model}
    (h : ∀ rows, (relation.target.expand role rows).Forgives) (rows : List Row) :
    (related role relation rows).Forgives := by
  rw [related_eq]
  split
  · trivial
  · trivial
  · refine ⟨fun failure => ?_, fun answer => ?_⟩
    · simp [Dialogue.quiet, Dialogue.map, Model.expand_nil]
    · cases answer with
      | error failure => trivial
      | ok answered => exact (h _).map _

theorem forgives_expandAll {relations : List (Relation Model)}
    (h : ∀ relation ∈ relations, ∀ rows, (relation.target.expand role rows).Forgives)
    (rows : List Row) : (expandAll role relations rows).Forgives := by
  induction relations generalizing rows with
  | nil => trivial
  | cons relation rest ih =>
    obtain ⟨hrelation, hrest⟩ := List.forall_mem_cons.mp h
    rw [expandAll]
    split
    · exact (forgives_related hrelation rows).bind fun found => ih hrest _
    · exact ih hrest rows

end Relation

/-- **An expansion forgives failures**, at every depth. -/
theorem Model.forgives_expand (role : Role) (model : Model) (rows : List Row) :
    (model.expand role rows).Forgives := by
  induction model using Model.induction generalizing rows with
  | step model ih =>
    rw [expand_eq]
    exact Relation.forgives_expandAll ih rows

/-! ### What is left of rows -/

namespace Datum

/-- An attribute with another form of each row in it. -/
def mapRows (f : Row → Row) : Datum → Datum
  | .scalar s => .scalar s
  | .object row => .object (f row)
  | .list rows => .list (rows.map f)

/-- An attribute with no rows in it. -/
def cleared : Datum → Datum
  | .scalar s => .scalar s
  | .object _ => .object []
  | .list _ => .list []

end Datum

/-- Whether what a relation gives is replaced by what a later one of its name gives. -/
def Relation.isReplaced (role : Role) (name : String) (later : List (Relation Model)) : Bool :=
  later.any fun other => other.visibleTo role && other.name = name

mutual

/-- **What is left of a row** of a model when some tables are lost. -/
def Model.remnant (role : Role) (lost : String → Bool) : Model → Row → Row
  | ⟨_, _, relations⟩ => Relation.remnantAll role lost relations

/-- What is left of a row to which relations have given their attributes: under each name, what is
left of what the last relation of that name gave. -/
def Relation.remnantAll (role : Role) (lost : String → Bool) :
    List (Relation Model) → Row → Row
  | [], row => row
  | relation :: rest, row =>
    if relation.visibleTo role && !Relation.isReplaced role relation.name rest then
      Named.modify relation.name (Relation.remnant role lost relation)
        (Relation.remnantAll role lost rest row)
    else Relation.remnantAll role lost rest row

/-- What is left of what a relation gave: no rows if its table is lost, and otherwise what is left
of each of them. -/
def Relation.remnant (role : Role) (lost : String → Bool) : Relation Model → Datum → Datum
  | ⟨_, _, _, target, _, _⟩ =>
    if lost target.table then Datum.cleared else Datum.mapRows (Model.remnant role lost target)

end

theorem Model.remnant_eq (role : Role) (lost : String → Bool) (model : Model) (row : Row) :
    model.remnant role lost row = Relation.remnantAll role lost model.relations row := by
  cases model
  rfl

namespace Relation

variable {role : Role} {lost : String → Bool}

theorem remnant_eq (relation : Relation Model) (datum : Datum) :
    relation.remnant role lost datum =
      if lost relation.target.table then datum.cleared
      else datum.mapRows (relation.target.remnant role lost) := by
  cases relation
  rw [remnant]
  split <;> rfl

/-- Losing rows does not turn an attribute into a value, or a value into anything else. -/
theorem asValue?_remnant (relation : Relation Model) (datum : Datum) :
    (relation.remnant role lost datum).asValue? = datum.asValue? := by
  rw [remnant_eq]
  split <;> cases datum <;> rfl

/-- Of a row without attributes nothing can be lost. -/
theorem remnantAll_nil (relations : List (Relation Model)) :
    remnantAll role lost relations [] = [] := by
  induction relations with
  | nil => rfl
  | cons relation rest ih =>
    rw [remnantAll, ih]
    split <;> rfl

/-- Where nothing was found, nothing can be lost. -/
theorem remnant_datum_nil (relation : Relation Model) (row : Row) :
    relation.remnant role lost (relation.datum row []) = relation.datum row [] := by
  rw [remnant_eq, datum_nil]
  cases lost relation.target.table <;> cases relation.limit.isSingle <;>
    simp [Datum.cleared, Datum.mapRows, Model.remnant_eq, remnantAll_nil]

/-- What a relation to a lost table gave is lost. -/
theorem remnant_datum_of_lost {relation : Relation Model} (h : lost relation.target.table = true)
    (row : Row) (found : List (List Scalar × Row)) :
    relation.remnant role lost (relation.datum row found) = relation.datum row [] := by
  rw [remnant_eq, if_pos h, datum_nil, datum]
  split <;> rfl

/-- What a relation gave from a table that is not lost is what is left of the rows found there. -/
theorem remnant_datum {relation : Relation Model} (h : lost relation.target.table = false)
    (row : Row) (found : List (List Scalar × Row)) :
    relation.remnant role lost (relation.datum row found) =
      relation.datum row
        (found.map fun pair => (pair.1, relation.target.remnant role lost pair.2)) := by
  have hempty : relation.target.remnant role lost [] = [] := by
    rw [Model.remnant_eq, remnantAll_nil]
  rw [remnant_eq, if_neg (by simp [h]), datum, datum, matching_map]
  split
  · cases hhead : relation.matching row found <;> simp [Datum.mapRows, hempty]
  · rfl

/-! ### Relations that come to less -/

variable {answer : Selection → Except Failure (List Row)}

/-- **An attribute that may have been changed does not matter to the relations that follow**, if
the change does not make it a value or another value: they find the same, and the change is seen in
the end unless one of them replaces the attribute. -/
theorem result_expandAll_insert {name : String} {f : Datum → Datum}
    (hvalue : ∀ datum, (f datum).asValue? = datum.asValue?) (give : Row → Datum)
    (relations : List (Relation Model)) (rows : List Row) (form : Row → Row) :
    (expandAll role relations
        (rows.map fun row => Named.insert name (f (give row)) (form row))).result answer =
      ((expandAll role relations
        (rows.map fun row => Named.insert name (give row) (form row))).result answer).map
          (if isReplaced role name relations then id else Named.modify name f) := by
  induction relations generalizing form with
  | nil => simp [expandAll, isReplaced, Named.modify_insert_self]
  | cons relation rest ih =>
    by_cases hseen : relation.visibleTo role = true
    · -- with either attribute the rows have the same keys
      have hkey : ∀ row : Row,
          Row.key? relation.internal (Named.insert name (f (give row)) (form row)) =
            Row.key? relation.internal (Named.insert name (give row) (form row)) :=
        fun row => Row.key?_insert_congr (hvalue _) name (form row) _
      have hkeys : relation.keys (rows.map fun row => Named.insert name (f (give row)) (form row)) =
          relation.keys (rows.map fun row => Named.insert name (give row) (form row)) := by
        rw [keys, keys, List.filterMap_map, List.filterMap_map]
        exact List.filterMap_congr fun row _ => hkey row
      have hdatum : ∀ (found : List (List Scalar × Row)) (row : Row),
          relation.datum (Named.insert name (f (give row)) (form row)) found =
            relation.datum (Named.insert name (give row) (form row)) found := by
        intro found row
        refine datum_congr ?_
        rw [matching, matching, hkey]
      rw [expandAll, expandAll, if_pos hseen, if_pos hseen, Dialogue.result_bind,
        Dialogue.result_bind, related_congr hkeys, attach_map fun row _ => hdatum _ row,
        attach_map fun row _ => rfl]
      by_cases hname : relation.name = name
      · -- the relation puts its own attribute in the place of either
        simp [hname, Named.insert_insert, isReplaced, hseen]
      · simp only [Named.insert_comm hname]
        rw [ih]
        simp [isReplaced, hseen, hname]
    · rw [expandAll, expandAll, if_neg hseen, if_neg hseen, ih]
      simp [isReplaced, hseen]

/-- **A relation gives what is left of what it would have given**, if this is so of the expansion of
what it finds. -/
theorem datum_related_emptying {relation : Relation Model}
    (ih : ∀ rows, (relation.target.expand role rows).result (emptying lost answer) =
      ((relation.target.expand role rows).result answer).map (relation.target.remnant role lost))
    (rows : List Row) (row : Row) :
    relation.datum row ((related role relation rows).result (emptying lost answer)) =
      relation.remnant role lost
        (relation.datum row ((related role relation rows).result answer)) := by
  by_cases hasks : relation.asks role rows
  · cases hlost : lost relation.target.table with
    | true =>
      have hanswer : emptying lost answer (relation.selection role rows) = .ok [] := if_pos hlost
      rw [remnant_datum_of_lost hlost, result_related hasks hanswer rfl]
      rfl
    | false =>
      have hanswer : emptying lost answer (relation.selection role rows) =
          answer (relation.selection role rows) := if_neg (by simp [selection, hlost])
      rw [remnant_datum hlost]
      congr 1
      simp only [related_eq, request_of_asks hasks, Dialogue.result_ask, hanswer]
      cases answer (relation.selection role rows) with
      | error failure => rfl
      | ok answered =>
        rw [Dialogue.result_map, Dialogue.result_map, ih, List.zip_map_right]
        rfl
  · rw [(related_of_not_asks hasks).1, (related_of_not_asks hasks).1, remnant_datum_nil]

/-- Following relations comes to what is left of what it would have come to. -/
theorem result_expandAll_emptying {relations : List (Relation Model)}
    (ih : ∀ relation ∈ relations, ∀ rows,
      (relation.target.expand role rows).result (emptying lost answer) =
        ((relation.target.expand role rows).result answer).map
          (relation.target.remnant role lost))
    (rows : List Row) :
    (expandAll role relations rows).result (emptying lost answer) =
      ((expandAll role relations rows).result answer).map (remnantAll role lost relations) := by
  induction relations generalizing rows with
  | nil => simp [expandAll, remnantAll]
  | cons relation rest ihRest =>
    obtain ⟨hrelation, hrest⟩ := List.forall_mem_cons.mp ih
    rw [expandAll]
    by_cases hseen : relation.visibleTo role = true
    · -- the rows differ in the same way before and after the rest is followed
      have hchange : (expandAll role rest (relation.attach rows
            ((related role relation rows).result (emptying lost answer)))).result
              (emptying lost answer) =
          ((expandAll role rest (relation.attach rows
            ((related role relation rows).result answer))).result (emptying lost answer)).map
              (if isReplaced role relation.name rest then id
                else Named.modify relation.name (relation.remnant role lost)) := by
        simp only [attach, datum_related_emptying hrelation]
        exact result_expandAll_insert (asValue?_remnant relation)
          (fun row => relation.datum row ((related role relation rows).result answer)) rest rows id
      rw [if_pos hseen, Dialogue.result_bind, Dialogue.result_bind, hchange, ihRest hrest,
        List.map_map]
      refine List.map_congr_left fun row _ => ?_
      rw [Function.comp_apply, remnantAll]
      cases hreplaced : isReplaced role relation.name rest <;> simp [hseen]
    · rw [if_neg hseen, ihRest hrest]
      refine List.map_congr_left fun row _ => ?_
      rw [remnantAll, if_neg (by simp [hseen])]

end Relation

/-- **With some tables empty, an expansion comes to what is left** of what it comes to otherwise. -/
theorem Model.result_expand_emptying (role : Role) (lost : String → Bool)
    (answer : Selection → Except Failure (List Row)) (model : Model) (rows : List Row) :
    (model.expand role rows).result (emptying lost answer) =
      ((model.expand role rows).result answer).map (model.remnant role lost) := by
  induction model using Model.induction generalizing rows with
  | step model ih =>
    rw [expand_eq, Relation.result_expandAll_emptying ih]
    exact List.map_congr_left fun row _ => (remnant_eq role lost model row).symm

/-! ### Queries -/

namespace CompiledQuery

variable {query : CompiledQuery} {database : Database σ} {state : σ}

/-- A query whose own request fails ends there. -/
theorem run_fetch_of_error {failure : Failure}
    (h : (database.select query.selection state).1 = .error failure) :
    query.fetch.run database state =
      ⟨.error failure, (database.select query.selection state).2, [.asked query.selection]⟩ := by
  rw [fetch, Dialogue.run, h]
  rfl

/-- A query whose own request is answered comes to rows. -/
theorem value_run_fetch_of_ok {rows : List Row}
    (h : (database.select query.selection state).1 = .ok rows) :
    (query.fetch.run database state).value =
      .ok ((query.model.expand query.role rows).run database
        (database.select query.selection state).2).value := by
  simp only [fetch, Dialogue.run, h, Dialogue.map, Dialogue.run_bind]
  rfl

variable (query database state) {outage : Outage σ}

/-- A query fails if its own request fails, in the same way. -/
theorem value_run_fetch_eq_error_iff {failure : Failure} :
    (query.fetch.run database state).value = .error failure ↔
      (database.select query.selection state).1 = .error failure := by
  cases h : (database.select query.selection state).1 with
  | error other => rw [run_fetch_of_error h]
  | ok rows => simp [value_run_fetch_of_ok h]

/-- A query cannot tell tables that fail from tables that are empty, its own table apart. -/
theorem alike_run_fetch (h : outage.affects query.model.table = false) :
    (query.fetch.run (database.failing outage) state).Alike
      (query.fetch.run (database.emptied outage) state) := by
  have hown : outage.affects query.selection.table = false := h
  refine .after _ ?_
  rw [Database.failing, Database.emptied, database.select_answering hown,
    database.select_answering hown]
  cases (database.select query.selection state).1 with
  | error failure => exact .refl _
  | ok rows =>
    exact ((Model.forgives_expand query.role query.model rows).map _).alike_run database outage _

/-- With some tables empty, its own table apart, a query comes to what is left of the rows that it
comes to otherwise. -/
theorem result_fetch_emptying {lost : String → Bool} (h : lost query.model.table = false)
    (answer : Selection → Except Failure (List Row)) :
    query.fetch.result (emptying lost answer) =
      (query.fetch.result answer).map (List.map (query.model.remnant query.role lost)) := by
  have hown : emptying lost answer query.selection = answer query.selection :=
    if_neg (by simp [selection, h])
  rw [fetch, Dialogue.result_ask, Dialogue.result_ask, hown]
  cases answer query.selection with
  | error failure => rfl
  | ok rows =>
    simp only [Dialogue.result_map, Model.result_expand_emptying]
    rfl

/-- **A failure stays where it is.** A query fails if its own request fails, in the same way, and
then nothing else is asked. Whichever other tables fail, and however they do, the rows and the
requests are what they are if these tables are empty; and with a database that answers by the
request alone, the rows are those of a run without failures, without what came from these tables. -/
theorem run_fetch_of_outage :
    (∀ failure, (query.fetch.run database state).value = .error failure ↔
        (database.select query.selection state).1 = .error failure) ∧
      (∀ failure, (database.select query.selection state).1 = .error failure →
        (query.fetch.run database state).events = [.asked query.selection]) ∧
      ∀ outage : Outage σ, outage.affects query.model.table = false →
        (query.fetch.run (database.failing outage) state).Alike
            (query.fetch.run (database.emptied outage) state) ∧
          ∀ answer, database.AnswersBy answer →
            (query.fetch.run (database.failing outage) state).value =
              (query.fetch.run database state).value.map
                (List.map (query.model.remnant query.role outage.affects)) := by
  refine ⟨fun failure => value_run_fetch_eq_error_iff query database state,
    fun failure hfailure => ?_, fun outage hown => ?_⟩
  · rw [run_fetch_of_error hfailure]
  · have halike := alike_run_fetch query database state hown
    refine ⟨halike, fun answer answers => ?_⟩
    rw [halike.value, Dialogue.value_run (answers.emptied outage), Dialogue.value_run answers,
      result_fetch_emptying query hown]

end CompiledQuery

/-! ### Rooms with shelves -/

section Rooms

/-- A relation of a shelf to its lamps, of which everybody may read the colour. -/
def Relation.lamps : Relation Model :=
  { name := "lamps"
    internal := ["number"]
    external := ["shelf"]
    target := { table := "lamps", fields := [(Field.text "colour").grant (.readOnly .default)] } }

/-- Rooms with their shelves, on which there are books and lamps, and with one book of a shelf that
has the number of the room. -/
def Model.rooms : Model :=
  { table := "rooms"
    fields := [(Field.signed 64 "number").grant (.readOnly .default)]
    relations :=
      [{ name := "shelves"
         internal := ["number"]
         external := ["room"]
         target :=
          { table := "shelves"
            fields := [(Field.signed 64 "number").grant (.readOnly .default)]
            relations := [.books .unbounded, .lamps] } },
        .books (.rows 1)] }

/-- A room with a shelf that has a book and a lamp, everything with one number. -/
def Tables.rooms : Tables
  | "rooms" | "shelves" => [fun _ => .int 7]
  | "books" => [fun column => if column = "title" then .text "first" else .int 7]
  | "lamps" => [fun column => if column = "colour" then .text "green" else .int 7]
  | _ => []

/-- An outage of one table. -/
def Outage.of (table : String) : Outage Unit where
  affects name := name = table
  failure selection _ := .driver (selection.table ++ " is unavailable")
  after _ state := state

/-- All rooms. -/
def CompiledQuery.rooms : CompiledQuery := ⟨.rooms, .default, Model.rooms.projection .default, {}⟩

/-- Without the rooms there is nothing. Without the books there are no books, neither on the shelf
nor in the room, and the shelf and its lamp stay. -/
theorem CompiledQuery.run_fetch_rooms_of_outage :
    (((Tables.rooms.keeper.database.failing (.of "rooms")).select rooms.selection ()).1 =
          .error (.driver "rooms is unavailable") ∧
        (rooms.fetch.run (Tables.rooms.keeper.database.failing (.of "rooms")) ()).value =
          .error (.driver "rooms is unavailable") ∧
        (rooms.fetch.run (Tables.rooms.keeper.database.failing (.of "rooms")) ()).events =
          [.asked rooms.selection]) ∧
      (Outage.of "books").affects rooms.model.table = false ∧
      Tables.rooms.keeper.database.AnswersBy Tables.rooms.keeper.answer ∧
      (rooms.fetch.run (Tables.rooms.keeper.database.failing (.of "books")) ()).value =
        .ok [[("books", .object []), ("number", .scalar (.int 7)),
          ("shelves", .list [[("books", .list []),
            ("lamps", .list [[("colour", .scalar (.text "green"))]]),
            ("number", .scalar (.int 7))]])]] ∧
      (rooms.fetch.run (Tables.rooms.keeper.database.failing (.of "books")) ()).Alike
        (rooms.fetch.run (Tables.rooms.keeper.database.emptied (.of "books")) ()) ∧
      (rooms.fetch.run (Tables.rooms.keeper.database.failing (.of "books")) ()).value =
        (rooms.fetch.run Tables.rooms.keeper.database ()).value.map
          (List.map (Model.rooms.remnant .default (Outage.of "books").affects)) := by
  have hfailing : ((Tables.rooms.keeper.database.failing (.of "rooms")).select
      rooms.selection ()).1 = .error (.driver "rooms is unavailable") := by
    with_unfolding_all rfl
  have hown : (Outage.of "books").affects rooms.model.table = false := by
    decide
  have answers := Keeper.database_answersBy Tables.rooms.keeper
  obtain ⟨herror, hevents, -⟩ :=
    run_fetch_of_outage rooms (Tables.rooms.keeper.database.failing (.of "rooms")) ()
  obtain ⟨-, -, houtage⟩ := run_fetch_of_outage rooms Tables.rooms.keeper.database ()
  obtain ⟨halike, hremnant⟩ := houtage (.of "books") hown
  refine ⟨⟨hfailing, (herror _).mpr hfailing, hevents _ hfailing⟩, hown, answers, ?_, halike,
    hremnant _ answers⟩
  with_unfolding_all rfl

end Rooms

end QueryGate
