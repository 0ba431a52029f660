import QueryGate.Text.CharClass
import QueryGate.Text.Hexadecimal

/-!
# Quoted text

A text inside a message: between double quotes, with everything spelt out that a reader could not
see or could mistake. `QueryGate.Quoted.escape` decides for one character.

## What is spelt out

Five characters have a short form after a backslash, the two of the notation itself among them. A
character without a mark of its own (`QueryGate.CharClass.isUnseen`) is given by its code point in
hexadecimal. A single quote needs no escape between double quotes.
-/

namespace QueryGate.Quoted

/-- **How one character is written between the quotes.** -/
def escape (c : Char) : List Char :=
  if c.toNat = 0 then ['\\', '0']
  else if c = '\t' then ['\\', 't']
  else if c = '\r' then ['\\', 'r']
  else if c = '\n' then ['\\', 'n']
  else if c = '\\' ∨ c = '\x22' then ['\\', c]
  else if CharClass.isUnseen c then ['\\', 'u', '\x7b'] ++ Hexadecimal.digits c.toNat ++ ['\x7d']
  else [c]

/-- A text between double quotes. -/
def quote (text : String) : String :=
  "\"" ++ String.ofList (text.toList.flatMap escape) ++ "\""

end QueryGate.Quoted
