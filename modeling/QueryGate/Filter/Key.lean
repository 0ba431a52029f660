import QueryGate.Clauses
import QueryGate.Number.Integer

/-!
# Keys

The grammar of a parameter's key. A key is a name with a number and flags before it and brackets
after it:

```text
key    = [ number ":" ] flags name brackets
number = digit, one or more, of any script
flags  = ":" or "!" or "|", any number
name   = letter or digit of ASCII or "<" or "=" or ">" or "_" or "-", one or more
brackets = "[" anything but brackets "]", any number
```

## Why the reading is forced

Digits open both a number and a name, and a colon is both the end of a number and a flag. But a
colon is no character of a name, so digits that a colon follows cannot be a name and must be a
number, and digits that no colon follows cannot be a number. From there on each part ends at the
first character that is not its own.
-/

namespace QueryGate

/-- **The parts of a key.** -/
structure Key where
  /-- The number, if there is one that an unsigned word of 64 bits can hold, in ASCII digits. -/
  number : Option UInt64
  /-- Whether the name is the name of a directive: a number or a colon marks it as one. -/
  named : Bool
  /-- Whether the condition is denied. -/
  negated : Bool
  /-- How the condition joins those before it. -/
  connective : Connective
  /-- The name. -/
  name : String
  /-- What stands between the brackets, pair by pair. -/
  brackets : List String
  deriving DecidableEq, Repr

namespace Key

/-- The characters of a name. -/
def isNameChar (c : Char) : Bool :=
  CharClass.isAsciiLetter c || CharClass.isAsciiDigit c ||
    c == '<' || c == '=' || c == '>' || c == '_' || c == '-'

/-- The flags. -/
def isFlag (c : Char) : Bool := c == ':' || c == '!' || c == '|'

/-- **The number at the front of a key**, its digits, and what follows the colon; if no number
stands there, the whole key. -/
def takeNumber (cs : List Char) : Option (List Char) × List Char :=
  match cs.span CharClass.isDecimalDigit with
  | (digit :: digits, ':' :: rest) => (some (digit :: digits), rest)
  | _ => (none, cs)

/-- **The brackets at the end of a key.** With `inside` the reading stands between two brackets and
the first of the results is what is left of that pair. -/
def takeBrackets (inside : Bool) : List Char → Option (List (List Char))
  | [] => if inside then none else some []
  | c :: rest =>
    if inside then
      if c = ']' then (takeBrackets false rest).map ([] :: ·)
      else if c = '[' then none
      else (takeBrackets true rest).map fun
        | [] => [[c]]
        | group :: groups => (c :: group) :: groups
    else if c = '[' then takeBrackets true rest
    else none

/-- The number that digits spell, if it can be held. -/
def numberOf? (digits : List Char) : Option UInt64 :=
  match (IntegerRange.unsigned 64).read digits with
  | .ok n => some (UInt64.ofNat n.toNat)
  | .error _ => none

/-- **The parts of a key**, or nothing if it is no key. -/
def parse? (key : String) : Option Key :=
  let (digits, rest) := takeNumber key.toList
  let (flags, rest) := rest.span isFlag
  let (name, rest) := rest.span isNameChar
  if name.isEmpty then none
  else
    (takeBrackets false rest).map fun groups =>
      { number := digits.bind numberOf?
        named := digits.isSome || flags.contains ':'
        negated := flags.contains '!'
        connective := if flags.contains '|' then .or else .and
        name := String.ofList name
        brackets := groups.map String.ofList }

/-- The field of a named directive: the first brackets, unless nothing stands in them. -/
def field? (key : Key) : Option String :=
  match key.brackets with
  | [] => none
  | field :: _ => if field.isEmpty then none else some field

end Key

end QueryGate
