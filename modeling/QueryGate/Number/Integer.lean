import QueryGate.Number.Decimal

/-!
# Reading integers

An integer in decimal, read from left to right into a range. The reading stops at the first
character that spoils it, and says which of four things went wrong.

## Which fault wins

The digits are taken one at a time. A character that is no digit is a fault at once; a digit that
carries the number out of the range is one as well, and nothing after it is looked at. So a stray
character is reported unless a shorter beginning has already left the range, and a long run of
leading zeros never does.
-/

namespace QueryGate

/-- **What can be wrong with a numeral**, when it is read into a range. -/
inductive IntegerFault where
  /-- There is no character at all. -/
  | empty
  /-- A character is no digit, or a sign stands alone. -/
  | invalidDigit
  /-- The number is above the range. -/
  | tooLarge
  /-- The number is below the range. -/
  | tooSmall
  deriving DecidableEq, Repr

/-- The words for a fault. -/
def IntegerFault.reason : IntegerFault → String
  | .empty => "cannot parse integer from empty string"
  | .invalidDigit => "invalid digit found in string"
  | .tooLarge => "number too large to fit in target type"
  | .tooSmall => "number too small to fit in target type"

/-- **The integers of a machine word**, by their least and their greatest. -/
structure IntegerRange where
  /-- The least integer of the range. -/
  least : Int
  /-- The greatest integer of the range. -/
  greatest : Int
  deriving DecidableEq, Repr

namespace IntegerRange

-- a power is spelt out here and elsewhere, so that it is the same whatever else is imported
/-- The range of a signed word. -/
def signed (bits : Nat) : IntegerRange := ⟨-Int.pow 2 (bits - 1), Int.pow 2 (bits - 1) - 1⟩

/-- The range of an unsigned word. -/
def unsigned (bits : Nat) : IntegerRange := ⟨0, Int.pow 2 bits - 1⟩

/-- Whether an integer lies in the range. -/
def Holds (range : IntegerRange) (n : Int) : Prop := range.least ≤ n ∧ n ≤ range.greatest

instance (range : IntegerRange) (n : Int) : Decidable (range.Holds n) :=
  inferInstanceAs (Decidable (_ ∧ _))

/-- Whether the range reaches below zero, so that a numeral may carry a minus sign. -/
def hasNegatives (range : IntegerRange) : Bool := range.least < 0

/-- **The digits of a nonnegative numeral**, read after the number that the digits before them
make. -/
def readUp (range : IntegerRange) (n : Int) : List Char → Except IntegerFault Int
  | [] => .ok n
  | c :: rest =>
    match Decimal.digitValue? c with
    | none => .error .invalidDigit
    | some d =>
      if 10 * n + d ≤ range.greatest then readUp range (10 * n + d) rest else .error .tooLarge

/-- **The digits of a negative numeral**, read after the number that the digits before them make. -/
def readDown (range : IntegerRange) (n : Int) : List Char → Except IntegerFault Int
  | [] => .ok n
  | c :: rest =>
    match Decimal.digitValue? c with
    | none => .error .invalidDigit
    | some d =>
      if range.least ≤ 10 * n - d then readDown range (10 * n - d) rest else .error .tooSmall

/-- **The integer that a text spells**, if it lies in the range. One sign may lead, a minus only
where the range has negatives; a sign alone is no number. -/
def read (range : IntegerRange) (text : List Char) : Except IntegerFault Int :=
  match text with
  | [] => .error .empty
  | [c] => if c = '+' ∨ c = '-' then .error .invalidDigit else readUp range 0 [c]
  | c :: rest =>
    if c = '+' then readUp range 0 rest
    else if c = '-' ∧ range.hasNegatives then readDown range 0 rest
    else readUp range 0 (c :: rest)

end IntegerRange

end QueryGate
