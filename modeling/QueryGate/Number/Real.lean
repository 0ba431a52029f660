import QueryGate.Number.Binary
import QueryGate.Number.Decimal
import QueryGate.Text.CharClass

/-!
# Reading real numbers

A real number in decimal notation: an optional sign, digits with at most one point among or around
them, and an optional exponent. The words for infinity and for the undefined number are accepted in
any case of letters; whether a caller wants such a number is not decided here.

## Exponents beyond all reason

The digits of an exponent are added up only while the sum is below `2 ^ 16`, which no format comes
near, so a text of any length has an exponent of bounded size.
-/

namespace QueryGate

/-- **What can be wrong with the text of a real number.** -/
inductive RealFault where
  /-- There is no character at all. -/
  | empty
  /-- The text is no real number. -/
  | malformed
  /-- The number is infinite or undefined in the format it is read into. -/
  | notFinite
  deriving DecidableEq, Repr

/-- The words for a fault. -/
def RealFault.reason : RealFault → String
  | .empty => "cannot parse float from empty string"
  | .malformed => "invalid float literal"
  | .notFinite => "not a finite number"

/-- **What the text of a real number says**, apart from the sign. -/
inductive RealText where
  /-- The number `digits * 10 ^ exponent`. -/
  | decimal (digits : Nat) (exponent : Int)
  /-- Infinity. -/
  | infinite
  /-- The undefined number. -/
  | undefined
  deriving DecidableEq, Repr

namespace RealText

/-- The sum of an exponent's digits, added up only while it is small. -/
def exponentValue (cs : List Char) : Nat :=
  cs.foldl (fun n c => if n < 0x10000 then 10 * n + (Decimal.digitValue? c).getD 0 else n) 0

/-- An optional sign: whether it is a minus, and the text after it. -/
def takeSign : List Char → Bool × List Char
  | [] => (false, [])
  | c :: rest =>
    if c = '-' then (true, rest) else if c = '+' then (false, rest) else (false, c :: rest)

/-- **The exponent at the end of a number**: nothing, or an `e` of either case, an optional sign
and one or more digits. -/
def exponent? : List Char → Option Int
  | [] => some 0
  | c :: rest =>
    let (negative, digits) := takeSign rest
    if (c = 'e' ∨ c = 'E') ∧ digits ≠ [] ∧ digits.all CharClass.isAsciiDigit then
      some (if negative then -(exponentValue digits : Int) else exponentValue digits)
    else none

/-- The digits after the point, if the text goes on with a point, and what follows them. -/
def takeFraction : List Char → List Char × List Char
  | [] => ([], [])
  | c :: rest =>
    if c = '.' then rest.span CharClass.isAsciiDigit else ([], c :: rest)

/-- **A number in decimal notation**, without its sign. There must be a digit before the
exponent. -/
def decimal? (cs : List Char) : Option RealText :=
  let (whole, rest) := cs.span CharClass.isAsciiDigit
  let (fraction, rest) := takeFraction rest
  if whole = [] ∧ fraction = [] then none
  else (exponent? rest).map fun e =>
    .decimal (Decimal.value (whole ++ fraction)) (e - fraction.length)

/-- A number that is written as a word. -/
def word? (cs : List Char) : Option RealText :=
  let lowered := cs.map CharClass.asciiLower
  if lowered = "inf".toList ∨ lowered = "infinity".toList then some .infinite
  else if lowered = "nan".toList then some .undefined
  else none

/-- **A real number with its sign**: whether it is negative, and what its text says. -/
def read (text : List Char) : Except RealFault (Bool × RealText) :=
  match text with
  | [] => .error .empty
  | cs =>
    let (negative, rest) := takeSign cs
    match (decimal? rest).orElse fun _ => word? rest with
    | some value => .ok (negative, value)
    | none => .error .malformed

end RealText

/-- The finite number of 64 bits nearest to what a text says. -/
def Binary64.readDouble (text : List Char) : Except RealFault Binary64 := do
  match ← RealText.read text with
  | (negative, .decimal digits exponent) =>
    let word := BinaryFormat.double.nearestDecimal digits exponent
    if word < BinaryFormat.double.infinity then return .ofWord negative word
    else throw .notFinite
  | _ => throw .notFinite

/-- **The finite number of 32 bits nearest to what a text says**, widened. The text is rounded once,
to 32 bits. -/
def Binary64.readSingle (text : List Char) : Except RealFault Binary64 := do
  match ← RealText.read text with
  | (negative, .decimal digits exponent) =>
    let word := BinaryFormat.single.nearestDecimal digits exponent
    if word < BinaryFormat.single.infinity then
      return .ofSingle (UInt32.ofNat ((if negative then Nat.pow 2 31 else 0) + word))
    else throw .notFinite
  | _ => throw .notFinite

end QueryGate
