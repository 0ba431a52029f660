import QueryGate.Json.Number

/-!
# Reading records out of documents

What the stored forms of this library have in common: an object with known names, of which each may
occur once and others are passed over, and values that are plain numbers or texts.
-/

namespace QueryGate.Json

/-- The members of an object, each with a proper name. -/
def members? (members : List (Option String × Tree)) : Option (List (String × Tree)) :=
  members.mapM fun member => member.1.map (·, member.2)

/-- **The document under a name**, if it is there; a name that occurs twice has none. -/
def member? (name : String) (members : List (String × Tree)) : Option (Option Tree) :=
  match members.filter (·.1 = name) with
  | [] => some none
  | [member] => some (some member.2)
  | _ => none

namespace Tree

/-- The natural number below a bound that a document is. -/
def nat? (bound : Nat) : Tree → Option Nat
  | .number n => n.nat? bound
  | _ => none

/-- The text that a document is. -/
def text? : Tree → Option String
  | .text s => s
  | _ => none

end Tree

end QueryGate.Json
