import QueryGate.Number.FixedPoint

/-!
# Scalars and operands

The values that travel between a query string, a statement and a row. A scalar is one of the kinds
that a column may hold; an operand is what a condition compares its field with, one scalar or a
list of them.

## Two equalities

Two scalars are *the same* when they agree in kind and content; that is the equality of the type.
`QueryGate.Scalar.equals` is the equality that matching uses: it differs for floating-point numbers
only, where an undefined number equals nothing and the two zeros are equal. An integer and an
unsigned integer of the same value are different scalars in both senses.
-/

namespace QueryGate

/-- **A value of a column.** -/
inductive Scalar where
  /-- No value. -/
  | null
  /-- A truth value. -/
  | bool (b : Bool)
  /-- A signed integer of 64 bits. -/
  | int (n : Int64)
  /-- An unsigned integer of 64 bits. -/
  | uint (n : UInt64)
  /-- A floating-point number of 64 bits. -/
  | float (x : Binary64)
  /-- A text. -/
  | text (s : String)
  /-- A sequence of bytes. -/
  | blob (bytes : List UInt8)
  deriving DecidableEq, Repr

namespace Scalar

/-- Whether there is no value. -/
def isNull : Scalar → Bool
  | .null => true
  | _ => false

/-- The text of a textual scalar. -/
def asText? : Scalar → Option String
  | .text s => some s
  | _ => none

/-- **Equality as matching sees it.** -/
def equals : Scalar → Scalar → Bool
  | .float x, .float y => x.equals y
  | a, b => a == b

/-- **One form for the integers**: an unsigned integer that a signed one can express becomes that
signed one, so that a key matches whatever its signedness. -/
def normalized : Scalar → Scalar
  | .uint n => if n.toNat < Nat.pow 2 63 then .int n.toInt64 else .uint n
  | s => s

/-- A text with every single quote written twice. -/
def doubled (cs : List Char) : List Char :=
  cs.flatMap fun c => if c = '\x27' then [c, c] else [c]

/-- **The literal of a scalar in a statement.** A number that is not finite has no literal and is
written as no value; bytes have none either and are written as nothing. -/
def literal : Scalar → String
  | .null => "NULL"
  | .bool true => "TRUE"
  | .bool false => "FALSE"
  | .int n => Decimal.ofInt n.toInt
  | .uint n => Decimal.ofNat n.toNat
  | .float x => if x.isFinite then x.fixed 6 else "NULL"
  | .text s => "'" ++ String.ofList (doubled s.toList) ++ "'"
  | .blob _ => ""

end Scalar

/-! ### Values of the host as scalars -/

/-- A type whose values are scalars. -/
class ToScalar (α : Type) where
  /-- The scalar that a value is. -/
  toScalar : α → Scalar

export ToScalar (toScalar)

instance : ToScalar Scalar := ⟨id⟩
instance : ToScalar Bool := ⟨.bool⟩
instance : ToScalar Int64 := ⟨.int⟩
instance : ToScalar Int32 := ⟨fun n => .int n.toInt64⟩
instance : ToScalar Int16 := ⟨fun n => .int n.toInt64⟩
instance : ToScalar Int8 := ⟨fun n => .int n.toInt64⟩
instance : ToScalar UInt64 := ⟨.uint⟩
instance : ToScalar UInt32 := ⟨fun n => .uint n.toUInt64⟩
instance : ToScalar UInt16 := ⟨fun n => .uint n.toUInt64⟩
instance : ToScalar UInt8 := ⟨fun n => .uint n.toUInt64⟩
instance : ToScalar Binary64 := ⟨.float⟩
instance : ToScalar String := ⟨.text⟩
instance : ToScalar (List UInt8) := ⟨.blob⟩

/-- A missing value is no value. -/
instance {α : Type} [ToScalar α] : ToScalar (Option α) := ⟨fun
  | some a => toScalar a
  | none => .null⟩

/-! ### Operands -/

/-- **What a condition compares its field with.** -/
inductive Operand where
  /-- One scalar. -/
  | single (s : Scalar)
  /-- A list of scalars. -/
  | many (items : List Scalar)
  deriving DecidableEq, Repr

namespace Operand

/-- The operand that is one text. -/
def text (s : String) : Operand := .single (.text s)

/-- The operand that is a list of texts. -/
def texts (items : List String) : Operand := .many (items.map .text)

/-- The scalar of an operand that is one. -/
def asSingle? : Operand → Option Scalar
  | .single s => some s
  | .many _ => none

/-- The scalars of an operand that is a list. -/
def asMany? : Operand → Option (List Scalar)
  | .single _ => none
  | .many items => some items

end Operand

end QueryGate
