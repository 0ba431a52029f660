/-!
# Ends without a result

Something may come to an end without a result in two ways. It may be refused, and then there is a
reason, which whoever asked is told or which is noted. Or the run that it is part of is abandoned,
and then nothing that was to follow takes place: nobody is told anything, and what was noted before
is all there is.
-/

namespace QueryGate

/-- **Why there is no result.** -/
inductive Stop (ε : Type) where
  /-- It was refused, for a reason. -/
  | refused (reason : ε)
  /-- The run was abandoned. -/
  | abandoned
  deriving DecidableEq, Repr

namespace Stop

variable {ε δ : Type}

/-- The same end, with a reason made from the first. -/
def map (f : ε → δ) : Stop ε → Stop δ
  | .refused reason => .refused (f reason)
  | .abandoned => .abandoned

/-- **The reasons that are given until the run is abandoned**, and all of them if it is not. -/
def reasons : List (Stop ε) → List ε
  | [] => []
  | .abandoned :: _ => []
  | .refused reason :: rest => reason :: reasons rest

/-- All the reasons are given if the run is not abandoned, and only then. -/
theorem map_refused_reasons_eq_iff {stops : List (Stop ε)} :
    (reasons stops).map .refused = stops ↔ .abandoned ∉ stops := by
  induction stops with
  | nil => simp [reasons]
  | cons stop rest ih => cases stop <;> simp [reasons, ih]

/-- A run is abandoned after the change of the reason if it was before. -/
@[simp] theorem map_eq_abandoned_iff {f : ε → δ} {stop : Stop ε} :
    stop.map f = .abandoned ↔ stop = .abandoned := by
  cases stop <;> simp [map]

/-- What was refused after the change of the reason was refused before, for some reason. -/
theorem map_eq_refused_iff {f : ε → δ} {stop : Stop ε} {reason : δ} :
    stop.map f = .refused reason ↔ ∃ first, stop = .refused first ∧ f first = reason := by
  cases stop <;> simp [map]

end Stop

end QueryGate
