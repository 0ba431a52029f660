import QueryGate.Text.Hexadecimal
import QueryGate.Text.Utf8

/-!
# Form encoding

How a key or a value is spelt inside a query string. Three things are undone, in this order: a plus
sign is a space, a percent sign with two hexadecimal digits is a byte, and the bytes are UTF-8.

## The order is the rule

A plus sign that was *written* as `%2B` has to survive, so plus signs go first, while they are
still characters of the query string. A percent sign that is not followed by two digits stands for
itself: nothing in a query string is refused here.
-/

namespace QueryGate.Form

/-- The value of a hexadecimal digit that is given as a byte. -/
def hexValue? (b : UInt8) : Option Nat := Hexadecimal.value? (Char.ofNat b.toNat)

/-- A plus sign is read as a space. -/
def spaced (c : Char) : Char := if c = '+' then ' ' else c

/-- **Percent escapes are undone**; a percent sign without two digits is kept as it is. -/
def unescape : List UInt8 → List UInt8
  | [] => []
  | b :: h :: l :: rest =>
    if b = 37 then
      match hexValue? h, hexValue? l with
      | some high, some low => UInt8.ofNat (16 * high + low) :: unescape rest
      | _, _ => b :: unescape (h :: l :: rest)
    else b :: unescape (h :: l :: rest)
  | b :: rest => b :: unescape rest

/-- **The text that a piece of a query string spells.** -/
def decode (piece : List Char) : List Char :=
  Utf8.decode (unescape (Utf8.encode (piece.map spaced)))

end QueryGate.Form
