import QueryGate.Proofs.Database.Answers

/-!
# Outages

Some tables of a database fail. What is left of the database (`QueryGate.Database.failing`) is
compared with one in which nothing is in these tables (`QueryGate.Database.emptied`): a dialogue
that goes on from a failed request as it goes on from an answer without rows comes to the same with
both of them, up to its notices (`QueryGate.Dialogue.Forgives.alike_run`).

## What an outage is free to do

How a request fails may depend on the request and on the state of the database, and so may the state
in which it leaves the database. Only that state must be the same whether the request fails or is
answered with no rows, because a database may answer later requests by it.

## Notices

A failure is worth a notice and an answer without rows is not, so the two ways to go on are equal
only as far as notices do not count (`QueryGate.Dialogue.quiet`).
-/

namespace QueryGate

variable {σ α β : Type}

/-! ### Databases with an outage -/

/-- **An outage of some tables.** -/
structure Outage (σ : Type) where
  /-- Whether it affects a table. -/
  affects : String → Bool
  /-- Why a request for rows of such a table fails. -/
  failure : Selection → σ → Failure
  /-- The state of the database after such a request. -/
  after : Selection → σ → σ

namespace Database

/-- A database that gives another answer where an outage affects the table. -/
def answering (database : Database σ) (outage : Outage σ)
    (answer : Selection → σ → Except Failure (List Row)) : Database σ :=
  { database with
    select := fun selection state =>
      if outage.affects selection.table then (answer selection state, outage.after selection state)
      else database.select selection state }

/-- **A database of which the tables that an outage affects fail.** -/
def failing (database : Database σ) (outage : Outage σ) : Database σ :=
  database.answering outage fun selection state => .error (outage.failure selection state)

/-- **A database of which the tables that an outage affects are empty.** -/
def emptied (database : Database σ) (outage : Outage σ) : Database σ :=
  database.answering outage fun _ _ => .ok []

variable (database : Database σ) {outage : Outage σ} {selection : Selection}

theorem select_failing (h : outage.affects selection.table = true) (state : σ) :
    (database.failing outage).select selection state =
      (.error (outage.failure selection state), outage.after selection state) :=
  if_pos h

theorem select_emptied (h : outage.affects selection.table = true) (state : σ) :
    (database.emptied outage).select selection state = (.ok [], outage.after selection state) :=
  if_pos h

/-- An outage does not change what becomes of other tables. -/
theorem select_answering (h : outage.affects selection.table = false)
    (answer : Selection → σ → Except Failure (List Row)) (state : σ) :
    (database.answering outage answer).select selection state = database.select selection state :=
  if_neg (by simp [h])

end Database

/-- Answers by which some tables are empty. -/
def emptying (lost : String → Bool) (answer : Selection → Except Failure (List Row)) :
    Selection → Except Failure (List Row) :=
  fun selection => if lost selection.table then .ok [] else answer selection

/-- A database that answers by the request alone still does so if some of its tables are empty. -/
theorem Database.AnswersBy.emptied {database : Database σ}
    {answer : Selection → Except Failure (List Row)} (h : database.AnswersBy answer)
    (outage : Outage σ) :
    (database.emptied outage).AnswersBy (emptying outage.affects answer) := by
  intro selection state
  rw [emptying]
  split
  · next haffected => rw [database.select_emptied haffected]
  · next hother =>
    rw [Database.emptied, database.select_answering (Bool.eq_false_iff.mpr hother)]
    exact h selection state

/-! ### Courses that differ in their notices -/

/-- **That two courses differ in their notices alone.** -/
structure Course.Alike (c c' : Course σ α) : Prop where
  /-- They come to the same result. -/
  value : c.value = c'.value
  /-- They leave the database in the same state. -/
  state : c.state = c'.state
  /-- They make the same requests, in the same order. -/
  asked : c.asked = c'.asked

namespace Course.Alike

variable {c c' c'' : Course σ α}

theorem refl (c : Course σ α) : c.Alike c := ⟨rfl, rfl, rfl⟩

theorem symm (h : c.Alike c') : c'.Alike c := ⟨h.value.symm, h.state.symm, h.asked.symm⟩

theorem trans (h : c.Alike c') (h' : c'.Alike c'') : c.Alike c'' :=
  ⟨h.value.trans h'.value, h.state.trans h'.state, h.asked.trans h'.asked⟩

/-- What happened before both of them makes no difference. -/
theorem after (event : Event) (h : c.Alike c') : (c.after event).Alike (c'.after event) where
  value := h.value
  state := h.state
  asked := by
    cases event with
    | asked selection => exact congrArg (selection :: ·) h.asked
    | noted notice => exact h.asked

/-- A notice makes no difference. -/
theorem after_noted (c : Course σ α) (notice : Notice) : (c.after (.noted notice)).Alike c :=
  ⟨rfl, rfl, rfl⟩

end Course.Alike

/-! ### Dialogues that forgive failures -/

namespace Dialogue

/-- A dialogue without its notices. -/
def quiet : Dialogue α → Dialogue α
  | .done a => .done a
  | .ask selection next => .ask selection fun answer => (next answer).quiet
  | .note _ next => next.quiet

/-- A dialogue that goes on loses the notices of both parts. -/
theorem quiet_bind (d : Dialogue α) (f : α → Dialogue β) :
    (d.bind f).quiet = d.quiet.bind fun a => (f a).quiet := by
  induction d with
  | done a => rfl
  | ask selection next ih => exact congrArg (Dialogue.ask selection) (funext ih)
  | note notice next ih => exact ih

/-- Without its notices a dialogue runs as it does with them. -/
theorem alike_run_quiet (database : Database σ) (d : Dialogue α) (state : σ) :
    (d.quiet.run database state).Alike (d.run database state) := by
  induction d generalizing state with
  | done a => exact .refl _
  | ask selection next ih => exact (ih _ _).after _
  | note notice next ih => exact (ih state).trans (Course.Alike.after_noted _ notice).symm

/-- **That a dialogue forgives failures**: after a request that fails it goes on as after one that
is answered with no rows, but for notices. -/
def Forgives : Dialogue α → Prop
  | .done _ => True
  | .ask _ next =>
    (∀ failure, (next (.error failure)).quiet = (next (.ok [])).quiet) ∧
      ∀ answer, (next answer).Forgives
  | .note _ next => next.Forgives

/-- **A dialogue that goes on forgives failures if both parts do.** -/
theorem Forgives.bind {d : Dialogue α} {f : α → Dialogue β} (hd : d.Forgives)
    (hf : ∀ a, (f a).Forgives) : (d.bind f).Forgives := by
  induction d with
  | done a => exact hf a
  | ask selection next ih =>
    obtain ⟨hfailure, hnext⟩ := hd
    refine ⟨fun failure => ?_, fun answer => ih answer (hnext answer)⟩
    rw [quiet_bind, quiet_bind, hfailure]
  | note notice next ih => exact ih hd

theorem Forgives.map {d : Dialogue α} (hd : d.Forgives) (f : α → β) : (d.map f).Forgives :=
  hd.bind fun _ => trivial

/-- **A dialogue that forgives failures cannot tell a table that fails from one that is empty.** -/
theorem Forgives.alike_run {d : Dialogue α} (h : d.Forgives) (database : Database σ)
    (outage : Outage σ) (state : σ) :
    (d.run (database.failing outage) state).Alike (d.run (database.emptied outage) state) := by
  induction d generalizing state with
  | done a => exact .refl _
  | ask selection next ih =>
    obtain ⟨hfailure, hnext⟩ := h
    refine .after _ ?_
    by_cases haffected : outage.affects selection.table = true
    · rw [database.select_failing haffected, database.select_emptied haffected]
      -- what follows the failure is what follows the empty answer, on the failing database still
      have hfailed := alike_run_quiet (database.failing outage)
        (next (.error (outage.failure selection state))) (outage.after selection state)
      have hempty := alike_run_quiet (database.failing outage) (next (.ok []))
        (outage.after selection state)
      rw [hfailure] at hfailed
      exact hfailed.symm.trans (hempty.trans (ih _ (hnext _) _))
    · have hother := Bool.eq_false_iff.mpr haffected
      rw [Database.failing, Database.emptied, database.select_answering hother,
        database.select_answering hother]
      exact ih _ (hnext _) _
  | note notice next ih => exact (ih h state).after _

end Dialogue

end QueryGate
