import QueryGate.Clauses
import QueryGate.Stop

/-!
# Notices

What the library reports besides its results. Nothing here changes an answer: a directive that is
left out is left out silently as far as the caller of a request is concerned, and the notice is for
whoever operates the service.

A run may be abandoned on the way. It is followed to the end all the same, with a mark among its
notices where it is abandoned, and what comes of it is then read off the notices
(`QueryGate.Noted.run`).
-/

namespace QueryGate

/-- How much a notice matters. -/
inductive Level where
  /-- Of interest when something is looked into. -/
  | debug
  /-- Something went wrong and was worked around. -/
  | warn
  deriving DecidableEq, Repr

/-- The word of a level. -/
def Level.word : Level → String
  | .debug => "DEBUG"
  | .warn => "WARN"

/-- **A notice**, by its cause. -/
inductive Notice where
  /-- A parameter's key does not match the grammar. -/
  | malformedKey (key : String)
  /-- A parameter's key is well formed, but asks for nothing that can be done. -/
  | voidDirective (key : String)
  /-- A directive names a field that is not on the allow-list. -/
  | fieldNotAllowed (field : String)
  /-- A condition's operand is not what its field accepts. -/
  | operandRejected (field : String) (operator : Operator)
  /-- The model behind a relation has no field that may be read. -/
  | relationUnreadable (relation : String)
  /-- The rows behind a relation could not be had. -/
  | relationFailed (relation table error : String)
  deriving DecidableEq, Repr

namespace Notice

/-- How much the notice matters. -/
def level : Notice → Level
  | .relationFailed .. => .warn
  | _ => .debug

/-- The words of the notice. -/
def message : Notice → String
  | .malformedKey _ => "Dropping directive: key does not match the filter grammar"
  | .voidDirective _ => "Dropping directive: invalid field, arity or value"
  | .fieldNotAllowed _ => "Dropping directive: field is not allowed"
  | .operandRejected .. => "Dropping directive: value rejected by field parser"
  | .relationUnreadable _ => "Related model has no readable fields"
  | .relationFailed .. => "Relation expansion failed, attaching no rows"

/-- What the notice is about, by name. -/
def details : Notice → List (String × String)
  | .malformedKey key => [("key", key)]
  | .voidDirective key => [("key", key)]
  | .fieldNotAllowed field => [("field", field)]
  | .operandRejected field operator => [("field", field), ("instruction", operator.name)]
  | .relationUnreadable relation => [("binding", relation)]
  | .relationFailed relation table error =>
    [("binding", relation), ("table", table), ("error", error)]

end Notice

/-! ### Results with notices -/

/-- **A result with what was noted on the way**, in order. -/
structure Noted (ν α : Type) where
  /-- The result. -/
  value : α
  /-- What was noted. -/
  notices : List ν
  deriving DecidableEq, Repr

namespace Noted

variable {ν α β : Type}

/-- The same notices with a result made from the first. -/
def map (f : α → β) (x : Noted ν α) : Noted ν β := ⟨f x.value, x.notices⟩

/-- **A list sifted by a test that may refuse with a notice**: what passes and the notices for the
rest, both in the order of the list. -/
def sift (test : α → Except ν β) : List α → Noted ν (List β)
  | [] => ⟨[], []⟩
  | a :: rest =>
    match test a with
    | .ok b => ⟨b :: (sift test rest).value, (sift test rest).notices⟩
    | .error notice => ⟨(sift test rest).value, notice :: (sift test rest).notices⟩

@[simp] theorem sift_nil (test : α → Except ν β) : sift test [] = ⟨[], []⟩ := rfl

/-- A test accepts something if it accepts it without a notice. -/
theorem toOption_eq_some_iff {x : Except ν β} {b : β} : x.toOption = some b ↔ x = .ok b := by
  cases x <;> simp [Except.toOption]

/-- What passes a sieve is what the test accepts. -/
theorem value_sift (test : α → Except ν β) (xs : List α) :
    (sift test xs).value = xs.filterMap fun a => (test a).toOption := by
  induction xs with
  | nil => rfl
  | cons a rest ih => cases h : test a <;> simp [sift, h, ih, Except.toOption]

/-- Everything that goes into a sieve passes or is reported. -/
theorem length_sift (test : α → Except ν β) (xs : List α) :
    (sift test xs).value.length + (sift test xs).notices.length = xs.length := by
  induction xs with
  | nil => rfl
  | cons a rest ih =>
    cases h : test a with
    | ok b => simp only [sift, h, List.length_cons]; omega
    | error notice => simp only [sift, h, List.length_cons]; omega

/-! ### Runs that are abandoned -/

/-- **What comes of a run**, if its notices also say where it is abandoned: no result if it is, and
no notice after the first place where it is. -/
def run [DecidableEq ν] (x : Noted (Stop ν) α) : Noted ν (Option α) where
  value := if .abandoned ∈ x.notices then none else some x.value
  notices := Stop.reasons x.notices

variable [DecidableEq ν] {x : Noted (Stop ν) α}

/-- There is no result of a run if it is abandoned, and only then. -/
theorem value_run_eq_none_iff : x.run.value = none ↔ .abandoned ∈ x.notices := by
  simp [run]

/-- **The result of a run that is not abandoned** is the one that was made on the way. -/
theorem value_run_eq_some_iff {a : α} :
    x.run.value = some a ↔ x.value = a ∧ .abandoned ∉ x.notices := by
  simp [run, and_comm]

end Noted

end QueryGate
