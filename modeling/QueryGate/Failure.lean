/-!
# Failures

Why a request could not be served.
-/

namespace QueryGate

/-- **Why a request could not be served.** -/
inductive Failure where
  /-- The database could not do it. -/
  | driver (text : String)
  /-- The role may not do it. -/
  | forbidden (text : String)
  /-- There is nothing to write. -/
  | emptyPayload
  /-- A field is unknown, may not be written, or does not take its value. -/
  | invalidField (name : String)
  deriving DecidableEq, Repr

/-- The words for a failure. -/
def Failure.message : Failure → String
  | .driver text => "driver error: " ++ text
  | .forbidden text => "forbidden: " ++ text
  | .emptyPayload => "empty payload"
  | .invalidField name => "invalid field: " ++ name

end QueryGate
