import QueryGate.Json.Tree
import QueryGate.Text.CharClass
import QueryGate.Text.Hexadecimal

/-!
# Reading JSON

A text is cut into tokens and the tokens are put together. Both halves are machines that look at
each character, or each token, once; what is still open is kept on a stack, so that no text is
nested too deeply for the reader itself.

## Cutting

Outside a text, a token is a mark of punctuation or a longest run of other characters, which must
be a word of the grammar or a number. Two values never stand side by side in a document, so it does
no harm that a run is not divided where one might end and another begin. Inside a text, a control
character is refused, and an escape of four hexadecimal digits is kept as a code unit until the
text is closed.

## Code units

A unit of the upper half of a surrogate pair must be followed at once by one of the lower half, and
the two are one character. A text in which a half stands alone has no value
(`QueryGate.Json.resolve?`), which spoils the document only where the text is looked at.
-/

namespace QueryGate.Json

/-! ### Texts -/

/-- A part of a text: a character, or a code unit given by an escape. -/
inductive Mark where
  /-- A character. -/
  | plain (c : Char)
  /-- A code unit. -/
  | unit (n : Nat)
  deriving DecidableEq, Repr

/-- **The characters of a text**, if every half of a surrogate pair has its other half. -/
def resolve? : List Mark → Option (List Char)
  | [] => some []
  | .plain c :: rest => (resolve? rest).map (c :: ·)
  | .unit n :: rest =>
    if 0xDC00 ≤ n ∧ n ≤ 0xDFFF then none
    else if 0xD800 ≤ n ∧ n ≤ 0xDBFF then
      match rest with
      | .unit m :: rest =>
        if 0xDC00 ≤ m ∧ m ≤ 0xDFFF then
          (resolve? rest).map (Char.ofNat (0x10000 + (n - 0xD800) * 0x400 + (m - 0xDC00)) :: ·)
        else none
      | _ => none
    else (resolve? rest).map (Char.ofNat n :: ·)

/-- The character that a one-letter escape names. -/
def escaped? (c : Char) : Option Char :=
  if c = '\x22' ∨ c = '\\' ∨ c = '/' then some c
  else if c = 'b' then some (Char.ofNat 8)
  else if c = 'f' then some (Char.ofNat 12)
  else if c = 'n' then some '\n'
  else if c = 'r' then some '\r'
  else if c = 't' then some '\t'
  else none

/-! ### Numbers -/

/-- The digits after a point, if the text goes on with one; there must be at least one digit. -/
def takeFraction? : List Char → Option (Option (List Char) × List Char)
  | '.' :: rest =>
    match rest.span CharClass.isAsciiDigit with
    | ([], _) => none
    | (digits, rest) => some (some digits, rest)
  | cs => some (none, cs)

/-- The exponent that ends a number; there must be at least one digit after its sign. -/
def exponent? : List Char → Option (Option (Bool × List Char))
  | [] => some none
  | c :: rest =>
    let (negative, digits) : Bool × List Char :=
      match rest with
      | '-' :: digits => (true, digits)
      | '+' :: digits => (false, digits)
      | digits => (false, digits)
    if (c = 'e' ∨ c = 'E') ∧ digits ≠ [] ∧ digits.all CharClass.isAsciiDigit then
      some (some (negative, digits))
    else none

/-- **A number**, from all the characters of a run. A zero in front of further digits is refused. -/
def numeral? (cs : List Char) : Option Numeral :=
  let (negative, rest) : Bool × List Char :=
    match cs with
    | '-' :: rest => (true, rest)
    | rest => (false, rest)
  let (whole, rest) := rest.span CharClass.isAsciiDigit
  if whole = [] ∨ (whole.head? = some '0' ∧ whole ≠ ['0']) then none
  else do
    let (fraction, rest) ← takeFraction? rest
    let exponent ← exponent? rest
    return { negative, whole, fraction, exponent }

/-! ### Tokens -/

/-- **A token of a document.** -/
inductive Token where
  /-- The opening of a sequence. -/
  | openArray
  /-- The end of a sequence. -/
  | closeArray
  /-- The opening of an object. -/
  | openObject
  /-- The end of an object. -/
  | closeObject
  /-- What divides items. -/
  | comma
  /-- What divides a name from its document. -/
  | colon
  /-- A text. -/
  | text (s : Option String)
  /-- A document without parts. -/
  | atom (tree : Tree)

/-- The mark of punctuation that a character is. -/
def punctuation? (c : Char) : Option Token :=
  if c = '[' then some .openArray
  else if c = ']' then some .closeArray
  else if c = '\x7b' then some .openObject
  else if c = '\x7d' then some .closeObject
  else if c = ',' then some .comma
  else if c = ':' then some .colon
  else none

/-- What may stand between tokens. -/
def isSpace (c : Char) : Bool := c == ' ' || c == '\n' || c == '\t' || c == '\r'

/-- The document that a run of characters spells. -/
def atom? (run : List Char) : Option Tree :=
  if run = "null".toList then some .null
  else if run = "true".toList then some (.bool true)
  else if run = "false".toList then some (.bool false)
  else (numeral? run).map .number

/-- **Where the cutting stands.** What has been seen of a token is kept with its latest part in
front. -/
inductive Cutting where
  /-- Between tokens. -/
  | between
  /-- In a run of characters. -/
  | run (seen : List Char)
  /-- In a text. -/
  | text (seen : List Mark)
  /-- In a text, after a backslash. -/
  | escape (seen : List Mark)
  /-- In a text, inside an escape that still owes digits. -/
  | code (seen : List Mark) (owed : Nat) (value : Nat)

/-- The token of a run that has ended; between tokens there is none. -/
def ended? : Cutting → Option (List Token)
  | .between => some []
  | .run seen => (atom? seen.reverse).map fun tree => [.atom tree]
  | _ => none

/-- **One character**: the tokens it completes and where the cutting stands after it. -/
def cutOne? (cutting : Cutting) (c : Char) : Option (List Token × Cutting) :=
  match cutting with
  | .text seen =>
    if c = '\x22' then
      some ([.text ((resolve? seen.reverse).map String.ofList)], .between)
    else if c = '\\' then some ([], .escape seen)
    else if c.toNat < 0x20 then none
    else some ([], .text (.plain c :: seen))
  | .escape seen =>
    if c = 'u' then some ([], .code seen 3 0)
    else (escaped? c).map fun d => ([], .text (.plain d :: seen))
  | .code seen owed value =>
    match Hexadecimal.value? c, owed with
    | none, _ => none
    | some d, 0 => some ([], .text (.unit (16 * value + d) :: seen))
    | some d, owed + 1 => some ([], .code seen owed (16 * value + d))
  | .between | .run _ =>
    if c = '\x22' then (ended? cutting).map (·, .text [])
    else if isSpace c then (ended? cutting).map (·, .between)
    else
      match punctuation? c, cutting with
      | some token, _ => (ended? cutting).map fun tokens => (tokens ++ [token], .between)
      | none, .run seen => some ([], .run (c :: seen))
      | none, _ => some ([], .run [c])

/-- **The tokens of a text**, from where the cutting stands. -/
def tokens? (cutting : Cutting) : List Char → Option (List Token)
  | [] => ended? cutting
  | c :: rest => do
    let (tokens, cutting) ← cutOne? cutting c
    return tokens ++ (← tokens? cutting rest)

/-! ### Documents -/

/-- **What is open around a place**: a sequence with the items before the place, or an object with
the members before it and the name that the place stands under; the latest come first. -/
inductive Frame where
  /-- A sequence. -/
  | array (items : List Tree)
  /-- An object. -/
  | object (members : List (Option String × Tree)) (name : Option String)

/-- **What the next token may be.** -/
inductive Expectation where
  /-- A document. -/
  | value
  /-- A document, or the end of a sequence that has no items yet. -/
  | firstItem
  /-- A name. -/
  | name (members : List (Option String × Tree))
  /-- A name, or the end of an object that has no members yet. -/
  | firstName
  /-- The colon after a name. -/
  | colon (members : List (Option String × Tree)) (name : Option String)
  /-- What follows a document. -/
  | after (tree : Tree)

/-- **One token**: what is open after it, and what may come next. -/
def place? (stack : List Frame) (expectation : Expectation) (token : Token) :
    Option (List Frame × Expectation) :=
  match expectation, token with
  | .value, .atom tree | .firstItem, .atom tree => some (stack, .after tree)
  | .value, .text s | .firstItem, .text s => some (stack, .after (.text s))
  | .value, .openArray | .firstItem, .openArray => some (.array [] :: stack, .firstItem)
  | .value, .openObject | .firstItem, .openObject => some (stack, .firstName)
  | .firstItem, .closeArray =>
    match stack with
    | .array _ :: stack => some (stack, .after (.array []))
    | _ => none
  | .firstName, .closeObject => some (stack, .after (.object []))
  | .firstName, .text s => some (stack, .colon [] s)
  | .name members, .text s => some (stack, .colon members s)
  | .colon members name, .colon => some (.object members name :: stack, .value)
  | .after tree, .comma =>
    match stack with
    | .array items :: stack => some (.array (tree :: items) :: stack, .value)
    | .object members name :: stack => some (stack, .name ((name, tree) :: members))
    | [] => none
  | .after tree, .closeArray =>
    match stack with
    | .array items :: stack => some (stack, .after (.array (tree :: items).reverse))
    | _ => none
  | .after tree, .closeObject =>
    match stack with
    | .object members name :: stack =>
      some (stack, .after (.object ((name, tree) :: members).reverse))
    | _ => none
  | _, _ => none

/-- **The document that tokens make**, from where the reading stands. -/
def build? (stack : List Frame) (expectation : Expectation) : List Token → Option Tree
  | [] =>
    match expectation, stack with
    | .after tree, [] => some tree
    | _, _ => none
  | token :: rest => do
    let (stack, expectation) ← place? stack expectation token
    build? stack expectation rest

/-- **The document that a text holds**, if it holds one and nothing else. -/
def read? (text : String) : Option Tree := do
  build? [] .value (← tokens? .between text.toList)

end QueryGate.Json
