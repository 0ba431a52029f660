/-!
# JSON documents

A document as its grammar sees it. Two kinds of leaves are kept in the form in which they were
written, because whether they have a value is a question of its own: a number may be beyond every
format, and a text may name half of a surrogate pair.
-/

namespace QueryGate.Json

/-- **A number as it was written.** -/
structure Numeral where
  /-- Whether a minus sign leads. -/
  negative : Bool
  /-- The digits before the point. -/
  whole : List Char
  /-- The digits after the point, if there is one. -/
  fraction : Option (List Char)
  /-- The exponent, if there is one: whether a minus sign leads, and its digits. -/
  exponent : Option (Bool × List Char)
  deriving DecidableEq, Repr

/-- **A document.** A text is missing where its escapes name half of a surrogate pair. -/
inductive Tree where
  /-- Nothing. -/
  | null
  /-- A truth value. -/
  | bool (b : Bool)
  /-- A number. -/
  | number (n : Numeral)
  /-- A text. -/
  | text (s : Option String)
  /-- A sequence of documents. -/
  | array (items : List Tree)
  /-- Documents under names, in the order in which they were written. -/
  | object (members : List (Option String × Tree))

namespace Tree

mutual

/-- **How deep a document is nested**: no deeper than its deepest member, and one more. -/
def depth : Tree → Nat
  | .null => 0
  | .bool _ => 0
  | .number _ => 0
  | .text _ => 0
  | .array items => depthItems items + 1
  | .object members => depthMembers members + 1

/-- The depth of the deepest document of a list. -/
def depthItems : List Tree → Nat
  | [] => 0
  | item :: rest => max item.depth (depthItems rest)

/-- The depth of the deepest member. -/
def depthMembers : List (Option String × Tree) → Nat
  | [] => 0
  | member :: rest => max (depthMember member) (depthMembers rest)

/-- The depth of a member. -/
def depthMember : Option String × Tree → Nat
  | (_, tree) => tree.depth

end

end Tree

end QueryGate.Json
