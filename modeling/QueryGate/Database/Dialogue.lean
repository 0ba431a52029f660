import QueryGate.Failure
import QueryGate.Notice
import QueryGate.Row
import QueryGate.Sql.Statement

/-!
# Dialogues with a database

What a request says to a database, as a value: it ends with a result, asks for rows and goes on
with the answer, or makes a notice and goes on. No database is needed to say it, so two requests
that say the same are *equal*, and what a database has to do with it is another question, answered
by `QueryGate.Dialogue.run`.

## Databases

A database (`QueryGate.Database`) answers each statement from a state and may change the state
while it does. It may fail; that is an answer too. Nothing else is asked of it, so whatever holds
for every database holds for one that answers the same question differently each time.
-/

namespace QueryGate

/-- **What is said to a database**, up to a result. -/
inductive Dialogue (α : Type) where
  /-- The end, with a result. -/
  | done (a : α)
  /-- A request for rows, and how it goes on with the answer. -/
  | ask (selection : Selection) (next : Except Failure (List Row) → Dialogue α)
  /-- A notice, and how it goes on. -/
  | note (notice : Notice) (next : Dialogue α)

namespace Dialogue

variable {α β : Type}

/-- **A dialogue that goes on after its result.** -/
def bind (f : α → Dialogue β) : Dialogue α → Dialogue β
  | .done a => f a
  | .ask selection next => .ask selection fun answer => (next answer).bind f
  | .note notice next => .note notice (next.bind f)

/-- The same dialogue with a result made from the first. -/
def map (f : α → β) (d : Dialogue α) : Dialogue β := d.bind fun a => .done (f a)

@[simp] theorem bind_done (f : α → Dialogue β) (a : α) : (done a).bind f = f a := rfl

@[simp] theorem bind_ask (f : α → Dialogue β) (selection : Selection)
    (next : Except Failure (List Row) → Dialogue α) :
    (ask selection next).bind f = ask selection fun answer => (next answer).bind f := rfl

@[simp] theorem bind_note (f : α → Dialogue β) (notice : Notice) (next : Dialogue α) :
    (note notice next).bind f = note notice (next.bind f) := rfl

/-- Going on twice is going on once with both. -/
theorem bind_assoc {γ : Type} (d : Dialogue α) (f : α → Dialogue β) (g : β → Dialogue γ) :
    (d.bind f).bind g = d.bind fun a => (f a).bind g := by
  induction d with
  | done a => rfl
  | ask selection next ih => simp [ih]
  | note notice next ih => simp [ih]

end Dialogue

/-- **What a database says of a new row**: its identity, or the whole row. -/
inductive Inserted where
  /-- The identity. -/
  | id (s : Scalar)
  /-- The row. -/
  | row (row : Row)

/-- **A database**, by what it answers in a state and how the state changes. -/
structure Database (σ : Type) where
  /-- Rows of a table. -/
  select : Selection → σ → Except Failure (List Row) × σ
  /-- A new row of a table. -/
  insert : String → List Column → σ → Except Failure Inserted × σ
  /-- New values in the rows of a table that meet conditions. -/
  update : String → List Column → List Condition → σ → Except Failure Unit × σ
  /-- The removal of the rows of a table that meet conditions. -/
  delete : String → List Condition → σ → Except Failure Unit × σ

/-- **Something that happens in a dialogue.** -/
inductive Event where
  /-- Rows were asked for. -/
  | asked (selection : Selection)
  /-- A notice was made. -/
  | noted (notice : Notice)
  deriving DecidableEq, Repr

/-- **How a dialogue went**: its result, the state of the database after it, and what happened, in
order. -/
structure Course (σ α : Type) where
  /-- The result. -/
  value : α
  /-- The state of the database afterwards. -/
  state : σ
  /-- What happened. -/
  events : List Event

namespace Course

variable {σ α : Type}

/-- A course before which something happened. -/
def after (event : Event) (c : Course σ α) : Course σ α := { c with events := event :: c.events }

/-- **A course that another one follows**, from the result and the state of the first. -/
def andThen {β : Type} (c : Course σ α) (next : α → σ → Course σ β) : Course σ β :=
  { next c.value c.state with events := c.events ++ (next c.value c.state).events }

/-- The requests of a course. -/
def asked (c : Course σ α) : List Selection :=
  c.events.filterMap fun
    | .asked selection => some selection
    | .noted _ => none

/-- The notices of a course. -/
def notices (c : Course σ α) : List Notice :=
  c.events.filterMap fun
    | .asked _ => none
    | .noted notice => some notice

end Course

namespace Dialogue

variable {σ α β : Type}

/-- **A dialogue with a given database.** -/
def run (database : Database σ) : Dialogue α → σ → Course σ α
  | .done a, state => ⟨a, state, []⟩
  | .ask selection next, state =>
    ((next (database.select selection state).1).run database
      (database.select selection state).2).after (.asked selection)
  | .note notice next, state => (next.run database state).after (.noted notice)

/-- **A dialogue that goes on runs as its first part and then its second.** -/
theorem run_bind (database : Database σ) (d : Dialogue α) (f : α → Dialogue β) (state : σ) :
    (d.bind f).run database state =
      (d.run database state).andThen fun a state => (f a).run database state := by
  induction d generalizing state with
  | done a => rfl
  | ask selection next ih => simp [run, ih, Course.after, Course.andThen]
  | note notice next ih => simp [run, ih, Course.after, Course.andThen]

end Dialogue

end QueryGate
