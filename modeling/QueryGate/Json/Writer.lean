import QueryGate.Number.Shortest
import QueryGate.Row
import QueryGate.Text.Hexadecimal

/-!
# Writing JSON

The compact text of scalars and rows: no space anywhere, the columns of a row in order.

## Numbers

Integers are written in full. A finite floating-point number is written with the fewest digits that
read back: by position, and then with a point and at least one digit behind it, while its first
digit stands no more than sixteen places before and no more than five places behind the point;
with an exponent otherwise, always with a sign and without leading zeros. A number that is not
finite has no JSON form and is written as nothing.

## Texts

Only what the grammar demands is escaped: the quote, the backslash and the control characters, five
of which have a short form.
-/

namespace QueryGate.Json

/-- **How one character is written inside a text.** -/
def escape (c : Char) : List Char :=
  if c = '\x22' ∨ c = '\\' then ['\\', c]
  else if c.toNat = 8 then ['\\', 'b']
  else if c.toNat = 12 then ['\\', 'f']
  else if c = '\n' then ['\\', 'n']
  else if c = '\r' then ['\\', 'r']
  else if c = '\t' then ['\\', 't']
  else if c.toNat < 0x20 then
    ['\\', 'u', '0', '0', Hexadecimal.digit (c.toNat / 16), Hexadecimal.digit (c.toNat % 16)]
  else [c]

/-- The JSON form of a text. -/
def textJson (s : String) : String :=
  "\"" ++ String.ofList (s.toList.flatMap escape) ++ "\""

/-- **A positive decimal in JSON.** The point stands `position` digits behind the front of the
digits. -/
def decimalJson (s : Decimal.Scaled) : String :=
  let ds := Decimal.digits s.digits
  let position : Int := ds.length + s.exponent
  String.ofList <|
    if 0 ≤ s.exponent ∧ position ≤ 16 then
      ds ++ List.replicate s.exponent.toNat '0' ++ ['.', '0']
    else if 0 < position ∧ position ≤ 16 then
      ds.take position.toNat ++ '.' :: ds.drop position.toNat
    else if -5 < position ∧ position ≤ 0 then
      '0' :: '.' :: (List.replicate (-position).toNat '0' ++ ds)
    else
      ds.take 1 ++ (if ds.length = 1 then [] else '.' :: ds.drop 1) ++
        'e' :: (if position < 1 then '-' else '+') :: Decimal.digits (position - 1).natAbs

/-- The JSON form of a floating-point number. -/
def realJson (x : Binary64) : String :=
  if x.isFinite then
    (if x.negative then "-" else "") ++
      (if x.magnitude = 0 then "0.0" else decimalJson x.shortest)
  else "null"

/-- **The JSON form of a scalar.** Bytes are a sequence of numbers. -/
def scalarJson : Scalar → String
  | .null => "null"
  | .bool true => "true"
  | .bool false => "false"
  | .int n => Decimal.ofInt n.toInt
  | .uint n => Decimal.ofNat n.toNat
  | .float x => realJson x
  | .text s => textJson s
  | .blob bytes =>
    "[" ++ String.intercalate "," (bytes.map fun b => Decimal.ofNat b.toNat) ++ "]"

mutual

/-- **The JSON form of an attribute.** -/
def datumJson : Datum → String
  | .scalar s => scalarJson s
  | .object row => "\x7b" ++ String.intercalate "," (membersJson row) ++ "\x7d"
  | .list rows => "[" ++ String.intercalate "," (rowsJson rows) ++ "]"

/-- The JSON forms of the columns of a row. -/
def membersJson : List (String × Datum) → List String
  | [] => []
  | member :: rest => memberJson member :: membersJson rest

/-- The JSON form of a column. -/
def memberJson : String × Datum → String
  | (name, datum) => textJson name ++ ":" ++ datumJson datum

/-- The JSON forms of rows. -/
def rowsJson : List (List (String × Datum)) → List String
  | [] => []
  | row :: rest => ("\x7b" ++ String.intercalate "," (membersJson row) ++ "\x7d") :: rowsJson rest

end

/-- **The JSON form of a row.** -/
def rowJson (row : Row) : String := datumJson (.object row)

end QueryGate.Json
