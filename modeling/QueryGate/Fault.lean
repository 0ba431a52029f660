import QueryGate.Number.Integer
import QueryGate.Number.Real
import QueryGate.Text.Quoted

/-!
# Faults of values

Why a text is not a value of a field. A fault is kept as its cause; the words come from
`QueryGate.ValueFault.reason`, and `QueryGate.RejectedValue` adds the text that was refused.
-/

namespace QueryGate

/-- **Why a text is no moment** in a given pattern. -/
inductive MomentFault where
  /-- A number lies outside what its place allows. -/
  | outOfRange
  /-- Two parts of the text contradict each other. -/
  | impossible
  /-- The parts do not determine a moment. -/
  | notEnough
  /-- A character is not what the pattern asks for. -/
  | invalid
  /-- The text ends before the pattern does. -/
  | tooShort
  /-- The pattern ends before the text does. -/
  | tooLong
  /-- The pattern itself is malformed. -/
  | badPattern
  deriving DecidableEq, Repr

/-- The words for a fault. -/
def MomentFault.reason : MomentFault → String
  | .outOfRange => "input is out of range"
  | .impossible => "no possible date and time matching input"
  | .notEnough => "input is not enough for unique date and time"
  | .invalid => "input contains invalid characters"
  | .tooShort => "premature end of input"
  | .tooLong => "trailing input"
  | .badPattern => "bad or unsupported format string"

/-- **Why a text is no value of a field.** -/
inductive ValueFault where
  /-- It is no integer of the field's range. -/
  | integer (fault : IntegerFault)
  /-- It is no finite real number. -/
  | real (fault : RealFault)
  /-- It is no truth value. -/
  | bool
  /-- It is no moment. -/
  | moment (fault : MomentFault)
  /-- A reader of its own refused it, in its own words. -/
  | other (reason : String)
  deriving DecidableEq, Repr

/-- The words for a fault. -/
def ValueFault.reason : ValueFault → String
  | .integer fault => fault.reason
  | .real fault => fault.reason
  | .bool => "invalid boolean"
  | .moment fault => fault.reason
  | .other reason => reason

/-- **A text that a field refused**, with the reason. -/
structure RejectedValue where
  /-- The text. -/
  value : String
  /-- The fault. -/
  fault : ValueFault
  deriving DecidableEq, Repr

/-- The message about a refused text. -/
def RejectedValue.message (r : RejectedValue) : String :=
  "invalid value " ++ Quoted.quote r.value ++ ": " ++ r.fault.reason

end QueryGate
