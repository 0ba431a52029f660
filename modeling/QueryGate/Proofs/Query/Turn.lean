import QueryGate.Proofs.Query.Bounded

/-!
# Whose turn it is

An expansion follows one relation after the other and, of what each of them finds, the relations
behind it. So what a relation is followed from are not the rows that were given: they carry what the
relations before it have attached, or they are what another relation was answered with.
`QueryGate.Relation.Turn` says from which rows, and in which state of the database, it is a
relation's turn, with one rule for each way to get there. Every request of an expansion is made at
some turn, and every turn of a relation that is not mute makes its request
(`QueryGate.Model.mem_asked_expand_iff`), so that whatever is to be known of each request of an
expansion is shown of one relation and some rows.
-/

namespace QueryGate

variable {σ : Type} {database : Database σ} {role : Role}

namespace Relation

/-- **That it is a relation's turn**, with some rows as its owners and in a state of the database,
when some relations are followed from some rows and a state. -/
inductive Turn (database : Database σ) (role : Role) :
    List (Relation Model) → List Row → σ → Relation Model → List Row → σ → Prop
  /-- The first relation is followed from the rows themselves. -/
  | first {relation : Relation Model} {rest : List (Relation Model)} {rows : List Row} {state : σ} :
      Turn database role (relation :: rest) rows state relation rows state
  /-- The relations of its target are followed from the rows that it is answered with, as far as
  they have a key. -/
  | behind {relation other : Relation Model} {rest : List (Relation Model)}
      {rows answered owners : List Row} {state asked moment : σ} (h : ¬relation.Mute role rows)
      (hanswer : database.select (relation.selection role rows) state = (.ok answered, asked))
      (turn : Turn database role (relation.target.relationsFor role)
        ((relation.divided answered).map Prod.snd) asked other owners moment) :
      Turn database role (relation :: rest) rows state other owners moment
  /-- The relations after it are followed from the rows with what it has attached. -/
  | after {relation other : Relation Model} {rest : List (Relation Model)} {rows owners : List Row}
      {state moment : σ} {course : Course σ (List (List Scalar × Row))}
      (hcourse : (related role relation rows).run database state = course)
      (turn : Turn database role rest (relation.attach rows course.value) course.state other owners
        moment) :
      Turn database role (relation :: rest) rows state other owners moment

variable {relation : Relation Model} {rest : List (Relation Model)} {rows : List Row} {state : σ}
variable {selection : Selection}

/-- **That a request is made at some turn**, by a relation that is not mute. -/
def Requested (database : Database σ) (role : Role) (relations : List (Relation Model))
    (rows : List Row) (state : σ) (selection : Selection) : Prop :=
  ∃ relation owners moment, Turn database role relations rows state relation owners moment ∧
    ¬relation.Mute role owners ∧ selection = relation.selection role owners

/-- Where there are no relations no turn comes. -/
theorem not_requested_nil : ¬Requested database role [] rows state selection := by
  rintro ⟨relation, owners, moment, turn, -⟩
  cases turn

/-- **The requests of some relations** are that of the first, those that are made behind it, and
those that are made after it. -/
theorem requested_cons_iff :
    Requested database role (relation :: rest) rows state selection ↔
      (¬relation.Mute role rows ∧
        (selection = relation.selection role rows ∨
          ∃ answered asked,
            database.select (relation.selection role rows) state = (.ok answered, asked) ∧
              Requested database role (relation.target.relationsFor role)
                ((relation.divided answered).map Prod.snd) asked selection)) ∨
        Requested database role rest
          (relation.attach rows ((related role relation rows).run database state).value)
          ((related role relation rows).run database state).state selection := by
  constructor
  · rintro ⟨other, owners, moment, turn, hother, rfl⟩
    cases turn with
    | first => exact Or.inl ⟨hother, Or.inl rfl⟩
    | behind h hanswer turn =>
      exact Or.inl ⟨h, Or.inr ⟨_, _, hanswer, _, _, _, turn, hother, rfl⟩⟩
    | after hcourse turn =>
      subst hcourse
      exact Or.inr ⟨_, _, _, turn, hother, rfl⟩
  · rintro (⟨h, rfl | ⟨answered, asked, hanswer, other, owners, moment, turn, hother, rfl⟩⟩ |
      ⟨other, owners, moment, turn, hother, rfl⟩)
    · exact ⟨_, _, _, .first, h, rfl⟩
    · exact ⟨_, _, _, .behind h hanswer turn, hother, rfl⟩
    · exact ⟨_, _, _, .after rfl turn, hother, rfl⟩

/-- **The requests of following one relation** are its own and, if it is answered, those of the
expansion of what it finds. -/
theorem mem_asked_related_iff :
    selection ∈ ((related role relation rows).run database state).asked ↔
      ¬relation.Mute role rows ∧
        (selection = relation.selection role rows ∨
          ∃ answered asked,
            database.select (relation.selection role rows) state = (.ok answered, asked) ∧
              selection ∈ ((relation.target.expand role
                ((relation.divided answered).map Prod.snd)).run database asked).asked) := by
  by_cases hmute : relation.Mute role rows
  · rw [(run_related_of_mute hmute database state).2.2]
    exact iff_of_false List.not_mem_nil fun h => h.1 hmute
  · rcases hanswer : database.select (relation.selection role rows) state with ⟨answer, asked⟩
    cases answer with
    | error failure =>
      rw [(run_related_of_failed hmute hanswer).2.2]
      simp [hmute]
    | ok answered =>
      rw [(run_related_of_answered hmute hanswer rfl).2.2]
      simp [hmute]

/-- Of relations that the role sees, every request is made at some turn, if that is so behind each
of them. -/
theorem mem_asked_expandAll_iff {relations : List (Relation Model)}
    (hseen : ∀ relation ∈ relations, relation.visibleTo role = true)
    (htarget : ∀ relation ∈ relations, ∀ (rows : List Row) (state : σ),
      selection ∈ ((relation.target.expand role rows).run database state).asked ↔
        Requested database role (relation.target.relationsFor role) rows state selection)
    (rows : List Row) (state : σ) :
    selection ∈ ((expandAll role relations rows).run database state).asked ↔
      Requested database role relations rows state selection := by
  induction relations generalizing rows state with
  | nil => exact iff_of_false List.not_mem_nil not_requested_nil
  | cons relation rest ih =>
    obtain ⟨hseen, hseenRest⟩ := List.forall_mem_cons.mp hseen
    obtain ⟨htarget, htargetRest⟩ := List.forall_mem_cons.mp htarget
    rw [expandAll, if_pos hseen, Dialogue.run_bind, Course.asked_andThen, List.mem_append,
      ih hseenRest htargetRest, mem_asked_related_iff, requested_cons_iff]
    simp only [htarget]

end Relation

/-- **Every request of an expansion is made at some turn, and every turn makes its request.** -/
theorem Model.mem_asked_expand_iff {model : Model} {rows : List Row} {state : σ}
    {selection : Selection} :
    selection ∈ ((model.expand role rows).run database state).asked ↔
      Relation.Requested database role (model.relationsFor role) rows state selection := by
  induction model using Model.induction generalizing rows state with
  | step model ih =>
    rw [expand_eq_relationsFor]
    exact Relation.mem_asked_expandAll_iff (fun relation h => (mem_relationsFor.mp h).2)
      (fun relation h rows state => ih relation (mem_relationsFor.mp h).1) rows state

end QueryGate
