import QueryGate.Calendar.Found
import QueryGate.Text.Utf8

/-!
# Reading a moment

A text is read by the parts of a pattern, from left to right, each part taking as much of the text
as it can. The first part that does not find what it needs ends the reading.

## Short and invalid

A text that is too short for a part is told from one that is long enough and wrong. Lengths are
counted in bytes, so one character beyond ASCII can make a text long enough to be wrong.

## Numbers

Blanks may stand before a number. A number takes as many digits as its width allows and needs only
one; a year may have a sign and then as many digits as it likes.
-/

namespace QueryGate.Calendar

/-- What a piece of a text was read as, with the rest of the text. -/
abbrev Taken (α : Type) := α × List Char

/-- A text without the blanks at its front. -/
def skipBlanks (cs : List Char) : List Char := cs.dropWhile CharClass.isBlank

/-- The greatest number that is read. -/
def greatestNumber : Nat := Nat.pow 2 63 - 1

/-- **A number of at least so many and, where there is a width, at most so many digits.** -/
def readNumber (least : Nat) (width : Option Nat) (cs : List Char) :
    Except MomentFault (Taken Nat) :=
  let digits := (match width with
    | none => cs
    | some width => cs.take width).takeWhile CharClass.isAsciiDigit
  if digits.length < least then
    .error (if Utf8.size cs < least then .tooShort else .invalid)
  else
    let n := Decimal.value digits
    if n ≤ greatestNumber then .ok (n, cs.drop digits.length) else .error .outOfRange

/-- Characters that have to be met exactly. -/
def readLiteral (literal cs : List Char) : Except MomentFault (List Char) :=
  if Utf8.size cs < Utf8.size literal then .error .tooShort
  else if literal.isPrefixOf cs then .ok (cs.drop literal.length)
  else .error .invalid

/-- The greatest number of digits of a quantity; a timestamp may have any number of them. -/
def Quantity.width : Quantity → Option Nat
  | .year | .weekYear => some 4
  | .ordinal => some 3
  | .nanosecond => some 9
  | .quarter | .dayFromSunday | .dayFromMonday => some 1
  | .timestamp => none
  | _ => some 2

/-- Whether a quantity may have a sign. -/
def Quantity.signed : Quantity → Bool
  | .year | .weekYear => true
  | _ => false

/-- **A quantity**, after blanks. A sign lifts the limit on the number of digits. -/
def readQuantity (q : Quantity) (cs : List Char) : Except MomentFault (Taken Int) :=
  let cs := skipBlanks cs
  let unsigned := (readNumber 1 q.width cs).map fun (n, rest) => ((n : Int), rest)
  if q.signed then
    match cs with
    | '-' :: rest => (readNumber 1 none rest).map fun (n, rest) => (-(n : Int), rest)
    | '+' :: rest => (readNumber 1 none rest).map fun (n, rest) => ((n : Int), rest)
    | _ => unsigned
  else unsigned

/-! ### Names -/

/-- The months. -/
def months : List String :=
  ["January", "February", "March", "April", "May", "June", "July", "August", "September",
    "October", "November", "December"]

/-- The days of the week. -/
def weekdays : List String :=
  ["Monday", "Tuesday", "Wednesday", "Thursday", "Friday", "Saturday", "Sunday"]

/-- Whether a text begins with a word, in any case. -/
def beginsWith (word cs : List Char) : Bool :=
  (word.map CharClass.asciiLower).isPrefixOf (cs.map CharClass.asciiLower)

/-- **The place of a name in a list of names**, of which the first three letters have to be met. -/
def readShort (names : List String) (cs : List Char) : Except MomentFault (Taken Nat) :=
  if Utf8.size cs < 3 then .error .tooShort
  else
    match names.findIdx? fun name => beginsWith (name.toList.take 3) cs with
    | none => .error .invalid
    | some i => .ok (i, cs.drop 3)

/-- The place of a name in a list of names, with the rest of its letters taken if they follow. -/
def readLong (names : List String) (cs : List Char) : Except MomentFault (Taken Nat) :=
  (readShort names cs).map fun (i, rest) =>
    let more := ((names[i]?).getD "").toList.drop 3
    (i, if beginsWith more rest then rest.drop more.length else rest)

/-- The half-day. -/
def readHalf (cs : List Char) : Except MomentFault (Taken Nat) :=
  if Utf8.size cs < 2 then .error .tooShort
  else if beginsWith ['a', 'm'] cs then .ok (0, cs.drop 2)
  else if beginsWith ['p', 'm'] cs then .ok (1, cs.drop 2)
  else .error .invalid

/-! ### Fractions of a second -/

/-- **A fraction of a second**, in nanoseconds; digits beyond the ninth are skipped. -/
def readFraction (cs : List Char) : Except MomentFault (Taken Nat) :=
  (readNumber 1 (some 9) cs).map fun (n, rest) =>
    (n * Nat.pow 10 (9 - (cs.length - rest.length)), rest.dropWhile CharClass.isAsciiDigit)

/-- A fraction of a second with a fixed number of digits, in nanoseconds. -/
def readFixedFraction (digits : Nat) (cs : List Char) : Except MomentFault (Taken Nat) :=
  (readNumber digits (some digits) cs).map fun (n, rest) => (n * Nat.pow 10 (9 - digits), rest)

/-! ### Time zones -/

/-- The next two bytes of a text, if there are as many: digits, or something else. -/
def twoDigits (cs : List Char) : Except MomentFault (Nat × Nat) :=
  if Utf8.size cs < 2 then .error .tooShort
  else
    match cs with
    | a :: b :: _ =>
      match Decimal.digitValue? a, Decimal.digitValue? b with
      | some m, some n => .ok (m, n)
      | _, _ => .error .invalid
    | _ => .error .invalid

/-- The sign of an offset: whether it is a minus. -/
def readSign (cs : List Char) : Except MomentFault (Taken Bool) :=
  match cs with
  | [] => .error .tooShort
  | c :: rest =>
    if c = '+' then .ok (false, rest)
    else if c = '-' ∨ c = Char.ofNat 0x2212 then .ok (true, rest)
    else .error .invalid

/-- **An offset**, in seconds: a sign, two digits of hours, colons or blanks, two digits of
minutes. The letter for a zero offset and the absence of minutes may be allowed. -/
def readOffset (letter missing : Bool) (cs : List Char) : Except MomentFault (Taken Int) := do
  if letter ∧ beginsWith ['z'] cs then return (0, cs.drop 1)
  let (negative, cs) ← readSign cs
  let (tens, ones) ← twoDigits cs
  let cs := (cs.drop 2).dropWhile fun c => c == ':' || CharClass.isBlank c
  let signed (seconds : Nat) : Int := if negative then -(seconds : Int) else seconds
  let hours := (tens * 10 + ones) * 3600
  if Utf8.size cs < 2 then
    if ¬ missing ∨ ¬ cs.isEmpty then throw .tooShort
    return (signed hours, cs)
  let (tens, ones) ← twoDigits cs
  if 5 < tens then throw .outOfRange
  return (signed (hours + (tens * 10 + ones) * 60), cs.drop 2)

/-- The mark between a date and a time: the letter T of either case or a space. -/
def readMark (cs : List Char) : Except MomentFault (List Char) :=
  match cs with
  | [] => .error .tooShort
  | c :: rest => if c = 't' ∨ c = 'T' ∨ c = ' ' then .ok rest else .error .invalid

/-! ### A text -/

/-- **One part**: what has been found after it, and the rest of the text. -/
def readPart (found : Found) (part : Part) (cs : List Char) : Except MomentFault (Taken Found) :=
  match part with
  | .literal literal => do return (found, ← readLiteral literal cs)
  | .blanks _ => .ok (found, skipBlanks cs)
  | .quantity q _ => do
    let (n, rest) ← readQuantity q cs
    return (← found.set q n, rest)
  | .name .shortMonth => do
    let (i, rest) ← readShort months cs
    return (← found.setMonth (i + 1), rest)
  | .name .longMonth => do
    let (i, rest) ← readLong months cs
    return (← found.setMonth (i + 1), rest)
  | .name .shortWeekday => do
    let (i, rest) ← readShort weekdays cs
    return (← found.setWeekday i, rest)
  | .name .longWeekday => do
    let (i, rest) ← readLong weekdays cs
    return (← found.setWeekday i, rest)
  | .name .smallHalf | .name .capitalHalf => do
    let (half, rest) ← readHalf cs
    return (← found.setHalf half, rest)
  | .fraction =>
    match cs with
    | '.' :: rest => do
      let (n, rest) ← readFraction rest
      return (← found.setNanosecond n, rest)
    | cs => .ok (found, cs)
  | .fixedFraction digits true =>
    match cs with
    | '.' :: rest => do
      let (n, rest) ← readFixedFraction digits rest
      return (← found.setNanosecond n, rest)
    | cs => .ok (found, cs)
  | .fixedFraction digits false => do
    let (n, rest) ← readFixedFraction digits cs
    return (← found.setNanosecond n, rest)
  | .zone .name => .ok (found, cs.dropWhile (!CharClass.isBlank ·))
  | .zone (.offset lenient) => do
    let (seconds, rest) ← readOffset lenient lenient (skipBlanks cs)
    return (← found.setOffset seconds, rest)
  | .zone .mark => do return (found, ← readMark cs)
  | .zone .universal =>
    let cs := skipBlanks cs
    if beginsWith ['u', 't', 'c'] cs then do
      return (← found.setOffset 0, cs.drop 3)
    else do
      let (seconds, rest) ← readOffset true false cs
      return (← found.setOffset seconds, rest)
  | .malformed => .error .badPattern

/-- **A text read by parts**, after what has been found before. Nothing may be left over. -/
def readParts (found : Found) : List Part → List Char → Except MomentFault Found
  | [], [] => .ok found
  | [], _ :: _ => .error .tooLong
  | part :: rest, cs => do
    let (found, cs) ← readPart found part cs
    readParts found rest cs

/-- **The moment that a text spells** by the parts of a pattern. -/
def read (parts : List Part) (text : String) : Except MomentFault Moment := do
  (← readParts {} parts text.toList).moment

end QueryGate.Calendar
