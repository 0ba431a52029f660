import Mathlib.Data.List.Forall2
import QueryGate.Proofs.Query.Matching
import QueryGate.Proofs.Schema.Tree
import QueryGate.Query.Compiled

/-!
# How many requests an expansion makes

An expansion makes no more requests than there are relations that the role can reach, however many
rows are expanded and however many are found on the way, with any database
(`QueryGate.Model.asked_expand_bounded`). More than their number is known of the requests: they are
those of some of these relations, each asked once, in the order in which the relations are declared,
and between the request of a relation and that of the next one are those of the relations behind it.
A relation of which nothing can come is *mute* (`QueryGate.Relation.Mute`); it is passed over, and
so is all that is behind it.

## The log

What is asked in following some relations depends on the answers, and so on the states of the
database. A log (`QueryGate.Relation.Log`) says of a list of requests that it is what was asked, by
one rule for each thing that may become of a relation. It is built along a run
(`QueryGate.Relation.logged_expandAll`), and what is to be known of the requests is read off it
without the run (`QueryGate.Relation.Log.exists_nodes`). The rows occur in the rules, but there is
one rule for a relation and not one for a row, which is why their number does not matter.
-/

namespace QueryGate

variable {σ : Type}

namespace Course

variable {α β : Type}

/-- A course and the one that follows it have the result of the latter. -/
@[simp] theorem value_andThen (c : Course σ α) (next : α → σ → Course σ β) :
    (c.andThen next).value = (next c.value c.state).value := rfl

@[simp] theorem state_andThen (c : Course σ α) (next : α → σ → Course σ β) :
    (c.andThen next).state = (next c.value c.state).state := rfl

/-- What is asked by a course and the one that follows it. -/
@[simp] theorem asked_andThen (c : Course σ α) (next : α → σ → Course σ β) :
    (c.andThen next).asked = c.asked ++ (next c.value c.state).asked :=
  List.filterMap_append

/-- What is asked after a request. -/
@[simp] theorem asked_after_asked (c : Course σ α) (selection : Selection) :
    (c.after (.asked selection)).asked = selection :: c.asked := rfl

end Course

/-- A result made from another one asks for nothing more. -/
theorem Dialogue.asked_run_map {α β : Type} (database : Database σ) (f : α → β) (d : Dialogue α)
    (state : σ) : ((d.map f).run database state).asked = (d.run database state).asked := by
  rw [map, run_bind, Course.asked_andThen]
  exact List.append_nil _

namespace Relation

variable {relation : Relation Model} {role : Role} {rows : List Row}

/-! ### Relations that ask nothing -/

/-- **That a relation is mute**, for a role and some rows: nothing can come of it. -/
inductive Mute (role : Role) (relation : Relation Model) (rows : List Row) : Prop
  /-- It gives no rows to anybody. -/
  | forbidden (h : relation.limit = .rows 0)
  /-- It has no keys. -/
  | keyless (h : relation.internal = [])
  /-- Its keys do not pair up. -/
  | uneven (h : relation.internal.length ≠ relation.external.length)
  /-- The role may read nothing of the target. -/
  | unreadable (h : relation.target.fieldsFor role .read = [])
  /-- Each of the rows lacks a value in one of the columns. -/
  | unkeyed (h : ∀ row ∈ rows, ∃ column ∈ relation.internal, row.value? column = none)

/-- There are keys of some rows unless each of them lacks a value. -/
theorem keys_eq_nil_iff :
    relation.keys rows = [] ↔
      ∀ row ∈ rows, ∃ column ∈ relation.internal, row.value? column = none := by
  rw [keys, List.filterMap_eq_nil_iff]
  refine forall₂_congr fun row _ => ?_
  rw [← Option.not_isSome_iff_eq_none, Row.isSome_key?]
  simp

/-- **A relation asks unless it is mute.** -/
theorem asks_iff_not_mute : relation.asks role rows ↔ ¬relation.Mute role rows := by
  have hprojection : relation.target.projection role = [] ↔
      relation.target.fieldsFor role .read = [] := List.map_eq_nil_iff
  have husable : relation.isUsable = true ↔ relation.limit ≠ .rows 0 ∧ relation.internal ≠ [] ∧
      relation.internal.length = relation.external.length := by
    simp [isUsable, RowLimit.isForbidden, and_assoc]
  simp only [asks, husable, ne_eq, keys_eq_nil_iff, hprojection]
  constructor
  · rintro ⟨⟨hlimit, hinternal, hlength⟩, hkeys, hreadable⟩ (h | h | h | h | h)
    · exact hlimit h
    · exact hinternal h
    · exact h hlength
    · exact hreadable h
    · exact hkeys h
  · intro h
    exact ⟨⟨fun h' => h (.forbidden h'), fun h' => h (.keyless h'),
      Decidable.not_not.mp fun h' => h (.uneven h')⟩, fun h' => h (.unkeyed h'),
      fun h' => h (.unreadable h')⟩

/-! ### Logs -/

/-- The answered rows that have a key, each divided into its key and the rest. -/
def divided (relation : Relation Model) (answered : List Row) : List (List Scalar × Row) :=
  answered.filterMap (detach? relation.external.length)

/-- **That a list of requests is what was asked** in following some relations, from some rows and a
state of the database to the rows with what they were given and a later state. -/
inductive Log (database : Database σ) (role : Role) :
    List (Relation Model) → List Row → σ → List Selection → List Row → σ → Prop
  /-- Where there are no relations nothing is asked. -/
  | done {rows : List Row} {state : σ} : Log database role [] rows state [] rows state
  /-- A mute relation is passed over. -/
  | mute {relation : Relation Model} {rest : List (Relation Model)} {rows after : List Row}
      {state last : σ} {log : List Selection} (h : relation.Mute role rows)
      (further : Log database role rest (relation.attach rows []) state log after last) :
      Log database role (relation :: rest) rows state log after last
  /-- A relation that gets no answer has asked, and nothing behind it has. -/
  | failed {relation : Relation Model} {rest : List (Relation Model)} {rows after : List Row}
      {state asked last : σ} {failure : Failure} {log : List Selection}
      (h : ¬relation.Mute role rows)
      (hanswer : database.select (relation.selection role rows) state = (.error failure, asked))
      (further : Log database role rest (relation.attach rows []) asked log after last) :
      Log database role (relation :: rest) rows state (relation.selection role rows :: log) after
        last
  /-- A relation that is answered has asked, and then those behind it have, for all that it has
  found. -/
  | answered {relation : Relation Model} {rest : List (Relation Model)}
      {rows answered expanded after : List Row} {state asked nested last : σ}
      {below log : List Selection} (h : ¬relation.Mute role rows)
      (hanswer : database.select (relation.selection role rows) state = (.ok answered, asked))
      (behind : Log database role (relation.target.relationsFor role)
        ((relation.divided answered).map Prod.snd) asked below expanded nested)
      (further : Log database role rest
        (relation.attach rows (((relation.divided answered).map Prod.fst).zip expanded)) nested log
        after last) :
      Log database role (relation :: rest) rows state
        (relation.selection role rows :: (below ++ log)) after last

/-- **The requests in a log are those of relations that can be reached**, of each at most one and in
their order, and none of them was mute. -/
theorem Log.exists_nodes {database : Database σ} {relations : List (Relation Model)}
    {rows after : List Row} {state last : σ} {log : List Selection}
    (h : Log database role relations rows state log after last) :
    ∃ nodes : List (Relation Model),
      nodes.Sublist (relations.flatMap fun relation => relation :: relation.target.reachable role) ∧
        List.Forall₂ (fun relation selection =>
          ∃ rows, ¬relation.Mute role rows ∧ selection = relation.selection role rows)
          nodes log := by
  induction h with
  | done => exact ⟨[], List.nil_sublist _, .nil⟩
  | mute _ _ ih =>
    obtain ⟨nodes, hnodes, hlog⟩ := ih
    exact ⟨nodes, hnodes.trans (List.sublist_append_right _ _), hlog⟩
  | failed hasks _ _ ih =>
    obtain ⟨nodes, hnodes, hlog⟩ := ih
    exact ⟨_ :: nodes, (hnodes.trans (List.sublist_append_right _ _)).cons_cons _,
      .cons ⟨_, hasks, rfl⟩ hlog⟩
  | answered hasks _ _ _ ihBehind ihFurther =>
    obtain ⟨below, hbelow, hbelowLog⟩ := ihBehind
    obtain ⟨nodes, hnodes, hlog⟩ := ihFurther
    rw [← Model.reachable_eq_flatMap] at hbelow
    exact ⟨_ :: (below ++ nodes), (hbelow.append hnodes).cons_cons _,
      .cons ⟨_, hasks, rfl⟩ (List.rel_append hbelowLog hlog)⟩

/-- There are no more requests in a log than there are relations that can be reached. -/
theorem Log.length_le {database : Database σ} {model : Model} {rows after : List Row}
    {state last : σ} {log : List Selection}
    (h : Log database role (model.relationsFor role) rows state log after last) :
    log.length ≤ (model.reachable role).length := by
  obtain ⟨nodes, hnodes, hlog⟩ := h.exists_nodes
  rw [Model.reachable_eq_flatMap, ← hlog.length_eq]
  exact hnodes.length_le

/-! ### Logs of runs -/

/-- **That a dialogue is logged**: in whatever state of the database it is begun, what is asked is
what is asked in following some relations, and it ends as that does. -/
def Logged (database : Database σ) (role : Role) (relations : List (Relation Model))
    (rows : List Row) (d : Dialogue (List Row)) : Prop :=
  ∀ state, Log database role relations rows state (d.run database state).asked
    (d.run database state).value (d.run database state).state

section Run

variable {database : Database σ} {state asked : σ}

/-- A mute relation finds nothing, without a request. -/
theorem run_related_of_mute (h : relation.Mute role rows) (database : Database σ) (state : σ) :
    ((related role relation rows).run database state).value = [] ∧
      ((related role relation rows).run database state).state = state ∧
      ((related role relation rows).run database state).asked = [] := by
  rw [related_eq]
  rcases request_of_not_asks (fun hasks => asks_iff_not_mute.mp hasks h) with hrequest | hrequest
  · rw [hrequest]
    exact ⟨rfl, rfl, rfl⟩
  · rw [hrequest]
    exact ⟨rfl, rfl, rfl⟩

/-- A relation that gets no answer finds nothing, with one request. -/
theorem run_related_of_failed (h : ¬relation.Mute role rows) {failure : Failure}
    (hanswer : database.select (relation.selection role rows) state = (.error failure, asked)) :
    ((related role relation rows).run database state).value = [] ∧
      ((related role relation rows).run database state).state = asked ∧
      ((related role relation rows).run database state).asked =
        [relation.selection role rows] := by
  rw [related_eq, request_of_asks (asks_iff_not_mute.mpr h), Dialogue.run, hanswer]
  exact ⟨rfl, rfl, rfl⟩

/-- A relation that is answered finds the answered rows that have a key, expanded, and its request
is followed by those of their expansion. -/
theorem run_related_of_answered (h : ¬relation.Mute role rows) {answered : List Row}
    (hanswer : database.select (relation.selection role rows) state = (.ok answered, asked))
    {behind : Course σ (List Row)}
    (hbehind : (relation.target.expand role ((relation.divided answered).map Prod.snd)).run database
      asked = behind) :
    ((related role relation rows).run database state).value =
        ((relation.divided answered).map Prod.fst).zip behind.value ∧
      ((related role relation rows).run database state).state = behind.state ∧
      ((related role relation rows).run database state).asked =
        relation.selection role rows :: behind.asked := by
  subst hbehind
  rw [related_eq, request_of_asks (asks_iff_not_mute.mpr h), Dialogue.run, hanswer]
  refine ⟨?_, ?_, ?_⟩
  · simp [Course.after, Dialogue.map, Dialogue.run_bind, Dialogue.run, divided]
  · simp [Course.after, Dialogue.map, Dialogue.run_bind, Dialogue.run, divided]
  · rw [Course.asked_after_asked, Dialogue.asked_run_map]
    rfl

/-- **Following relations is logged**, if expanding the rows of their targets is. -/
theorem logged_expandAll {relations : List (Relation Model)}
    (hseen : ∀ relation ∈ relations, relation.visibleTo role = true)
    (htarget : ∀ relation ∈ relations, ∀ rows,
      Logged database role (relation.target.relationsFor role) rows
        (relation.target.expand role rows)) (rows : List Row) :
    Logged database role relations rows (expandAll role relations rows) := by
  induction relations generalizing rows with
  | nil => exact fun state => .done
  | cons relation rest ih =>
    obtain ⟨hseen, hseenRest⟩ := List.forall_mem_cons.mp hseen
    obtain ⟨htarget, htargetRest⟩ := List.forall_mem_cons.mp htarget
    intro state
    rw [expandAll, if_pos hseen, Dialogue.run_bind, Course.asked_andThen, Course.value_andThen,
      Course.state_andThen]
    by_cases hmute : relation.Mute role rows
    · obtain ⟨hvalue, hstate, hasked⟩ := run_related_of_mute hmute database state
      rw [hvalue, hstate, hasked]
      exact .mute hmute (ih hseenRest htargetRest _ _)
    · rcases hanswer : database.select (relation.selection role rows) state with ⟨answer, asked⟩
      cases answer with
      | error failure =>
        obtain ⟨hvalue, hstate, hasked⟩ := run_related_of_failed hmute hanswer
        rw [hvalue, hstate, hasked]
        exact .failed hmute hanswer (ih hseenRest htargetRest _ _)
      | ok answered =>
        obtain ⟨hvalue, hstate, hasked⟩ := run_related_of_answered hmute hanswer rfl
        rw [hvalue, hstate, hasked]
        exact .answered hmute hanswer (htarget _ _) (ih hseenRest htargetRest _ _)

end Run

end Relation

namespace Model

/-- **An expansion is logged.** -/
theorem logged_expand (database : Database σ) (role : Role) (model : Model) (rows : List Row) :
    Relation.Logged database role (model.relationsFor role) rows (model.expand role rows) := by
  induction model using Model.induction generalizing rows with
  | step model ih =>
    rw [expand_eq_relationsFor]
    exact Relation.logged_expandAll (fun relation h => (mem_relationsFor.mp h).2)
      (fun relation h => ih relation (mem_relationsFor.mp h).1) rows

/-- **The requests of an expansion are bounded.** They are logged, they are those of relations that
the role can reach from the model, of each at most one and in their order, and so there are no more
of them than there are such relations. -/
theorem asked_expand_bounded (database : Database σ) (model : Model) (role : Role)
    (rows : List Row) (state : σ) :
    let course := (model.expand role rows).run database state
    Relation.Log database role (model.relationsFor role) rows state course.asked course.value
        course.state ∧
      (∃ nodes : List (Relation Model), nodes.Sublist (model.reachable role) ∧
        List.Forall₂ (fun relation selection =>
          ∃ rows, ¬relation.Mute role rows ∧ selection = relation.selection role rows)
          nodes course.asked) ∧
      course.asked.length ≤ (model.reachable role).length := by
  intro course
  have hlog := logged_expand database role model rows state
  obtain ⟨nodes, hnodes, hasked⟩ := hlog.exists_nodes
  rw [← reachable_eq_flatMap] at hnodes
  exact ⟨hlog, ⟨nodes, hnodes, hasked⟩, hlog.length_le⟩

end Model

end QueryGate
