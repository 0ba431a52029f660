import QueryGate.Database.Dialogue

/-!
# What becomes of a dialogue

Two ways to say what a dialogue comes to without following the state of a database.

## Answers by a function

A database may answer every request by the request alone, whatever state it is in
(`QueryGate.Database.AnswersBy`). The result of a dialogue and the requests made in it are then
functions of that answer, `QueryGate.Dialogue.result` and `QueryGate.Dialogue.requests`, and both
pass through `QueryGate.Dialogue.bind`.

## Answers within bounds

Of any other database something may still be known of what it answers, and
`QueryGate.Dialogue.Ensures` says that a dialogue ends well as long as the answers keep to that. It
is what must hold before the dialogue for a condition to hold after it, so it composes in the same
way.
-/

namespace QueryGate

/-- **A database that answers by the request alone.** -/
def Database.AnswersBy {σ : Type} (database : Database σ)
    (answer : Selection → Except Failure (List Row)) : Prop :=
  ∀ selection state, (database.select selection state).1 = answer selection

namespace Dialogue

variable {α β σ : Type}

/-! ### Answers by a function -/

section Answer

variable (answer : Selection → Except Failure (List Row))

/-- The result of a dialogue whose requests are answered by a function. -/
def result : Dialogue α → α
  | .done a => a
  | .ask selection next => (next (answer selection)).result
  | .note _ next => next.result

/-- The requests of a dialogue whose requests are answered by a function, in order. -/
def requests : Dialogue α → List Selection
  | .done _ => []
  | .ask selection next => selection :: (next (answer selection)).requests
  | .note _ next => next.requests

@[simp] theorem result_done (a : α) : (done a).result answer = a := rfl

@[simp] theorem result_ask (selection : Selection)
    (next : Except Failure (List Row) → Dialogue α) :
    (ask selection next).result answer = (next (answer selection)).result answer := rfl

@[simp] theorem result_note (notice : Notice) (next : Dialogue α) :
    (note notice next).result answer = next.result answer := rfl

@[simp] theorem requests_done (a : α) : (done a).requests answer = [] := rfl

@[simp] theorem requests_ask (selection : Selection)
    (next : Except Failure (List Row) → Dialogue α) :
    (ask selection next).requests answer =
      selection :: (next (answer selection)).requests answer := rfl

@[simp] theorem requests_note (notice : Notice) (next : Dialogue α) :
    (note notice next).requests answer = next.requests answer := rfl

@[simp] theorem result_bind (d : Dialogue α) (f : α → Dialogue β) :
    (d.bind f).result answer = (f (d.result answer)).result answer := by
  induction d with
  | done a => rfl
  | ask selection next ih => exact ih (answer selection)
  | note notice next ih => exact ih

@[simp] theorem requests_bind (d : Dialogue α) (f : α → Dialogue β) :
    (d.bind f).requests answer =
      d.requests answer ++ (f (d.result answer)).requests answer := by
  induction d with
  | done a => rfl
  | ask selection next ih => simp [ih]
  | note notice next ih => simp [ih]

@[simp] theorem result_map (f : α → β) (d : Dialogue α) :
    (d.map f).result answer = f (d.result answer) := by
  simp [map]

@[simp] theorem requests_map (f : α → β) (d : Dialogue α) :
    (d.map f).requests answer = d.requests answer := by
  simp [map]

variable {answer}

/-- **With a database that answers by a function, a dialogue comes to its result under that
function**, in whatever state the database is. -/
theorem value_run {database : Database σ} (h : database.AnswersBy answer) (d : Dialogue α)
    (state : σ) : (d.run database state).value = d.result answer := by
  induction d generalizing state with
  | done a => rfl
  | ask selection next ih =>
    rw [result_ask, ← h selection state]
    exact ih _ _
  | note notice next ih => exact ih state

/-- With a database that answers by a function, a dialogue makes its requests under that
function. -/
theorem asked_run {database : Database σ} (h : database.AnswersBy answer) (d : Dialogue α)
    (state : σ) : (d.run database state).asked = d.requests answer := by
  induction d generalizing state with
  | done a => rfl
  | ask selection next ih =>
    rw [requests_ask, ← h selection state]
    exact congrArg (selection :: ·) (ih _ _)
  | note notice next ih => exact ih state

end Answer

/-! ### Answers within bounds -/

section Bounds

variable (Admissible : Selection → Except Failure (List Row) → Prop)

/-- **That a dialogue ends well** as long as every answer is admissible for its request. -/
def Ensures (post : α → Prop) : Dialogue α → Prop
  | .done a => post a
  | .ask selection next => ∀ answer, Admissible selection answer → (next answer).Ensures post
  | .note _ next => next.Ensures post

variable {Admissible}

/-- What a dialogue ends with may be weakened. -/
theorem Ensures.mono {post weaker : α → Prop} (h : ∀ a, post a → weaker a) {d : Dialogue α}
    (hd : d.Ensures Admissible post) : d.Ensures Admissible weaker := by
  induction d with
  | done a => exact h a hd
  | ask selection next ih => exact fun answer ok => ih answer (hd answer ok)
  | note notice next ih => exact ih hd

/-- **A dialogue that goes on ends well if its second part does**, from whatever the first part ends
with. -/
theorem Ensures.bind {mid : α → Prop} {post : β → Prop} {d : Dialogue α} {f : α → Dialogue β}
    (hd : d.Ensures Admissible mid) (hf : ∀ a, mid a → (f a).Ensures Admissible post) :
    (d.bind f).Ensures Admissible post := by
  induction d with
  | done a => exact hf a hd
  | ask selection next ih => exact fun answer ok => ih answer (hd answer ok)
  | note notice next ih => exact ih hd

/-- A dialogue with a result made from the first ends well if the first ends with what makes a good
one. -/
theorem Ensures.map {post : β → Prop} {f : α → β} {d : Dialogue α}
    (hd : d.Ensures Admissible fun a => post (f a)) : (d.map f).Ensures Admissible post :=
  hd.bind fun _ ha => ha

/-- What holds of everything is what every dialogue ends with. -/
theorem Ensures.of_forall {post : α → Prop} (h : ∀ a, post a) (d : Dialogue α) :
    d.Ensures Admissible post := by
  induction d with
  | done a => exact h a
  | ask selection next ih => exact fun answer _ => ih answer
  | note notice next ih => exact ih

/-- With admissible answers by a function, a dialogue ends well. -/
theorem Ensures.result {answer : Selection → Except Failure (List Row)}
    (h : ∀ selection, Admissible selection (answer selection)) {post : α → Prop} {d : Dialogue α}
    (hd : d.Ensures Admissible post) : post (d.result answer) := by
  induction d with
  | done a => exact hd
  | ask selection next ih => exact ih _ (hd _ (h selection))
  | note notice next ih => exact ih hd

/-- **With a database whose answers are admissible in every state, a dialogue ends well.** -/
theorem Ensures.run {database : Database σ}
    (h : ∀ selection state, Admissible selection (database.select selection state).1)
    {post : α → Prop} {d : Dialogue α} (hd : d.Ensures Admissible post) (state : σ) :
    post (d.run database state).value := by
  induction d generalizing state with
  | done a => exact hd
  | ask selection next ih => exact ih _ (hd _ (h selection state)) _
  | note notice next ih => exact ih hd state

end Bounds

end Dialogue

end QueryGate
