import QueryGate.Access
import QueryGate.Json.Reader
import QueryGate.Json.Record
import QueryGate.Json.Writer

/-!
# Stored roles and grants

The JSON forms of roles, kinds of access, grants and users. A role is a number; a kind of access is
its word, or an object with nothing under that word; a grant is an object with a role and levels,
or a sequence of the two.
-/

namespace QueryGate

namespace Role

/-- The role that a document is. -/
def ofTree? (tree : Json.Tree) : Option Role :=
  (tree.nat? (Nat.pow 2 16)).map fun n => ⟨UInt16.ofNat n⟩

/-- The role that a JSON text is. -/
def ofJson? (text : String) : Option Role := Json.read? text >>= ofTree?

/-- The JSON form of a role. -/
def json (role : Role) : String := role.text

end Role

namespace Access

/-- The kind of access with a given word. -/
def ofWord? (word : String) : Option Access :=
  if word = Access.read.word then some .read
  else if word = Access.write.word then some .write
  else none

/-- **The kind of access that a JSON text is.** -/
def ofJson? (text : String) : Option Access := do
  match ← Json.read? text with
  | .text (some word) => ofWord? word
  | .object [(some word, .null)] => ofWord? word
  | _ => none

/-- The JSON form of a kind of access. -/
def json (access : Access) : String := Json.textJson access.word

end Access

namespace Grant

/-- The levels that a document is. -/
def levels? (tree : Json.Tree) : Option UInt8 := (tree.nat? (Nat.pow 2 8)).map UInt8.ofNat

/-- **The grant that a JSON text is.** -/
def ofJson? (text : String) : Option Grant := do
  match ← Json.read? text with
  | .array [role, levels] => return ⟨← Role.ofTree? role, ← levels? levels⟩
  | .object members =>
    let members ← Json.members? members
    let role ← (← Json.member? "role" members)
    let levels ← (← Json.member? "levels" members)
    return ⟨← Role.ofTree? role, ← levels? levels⟩
  | _ => none

/-- The JSON form of a grant. -/
def json (grant : Grant) : String :=
  "\x7b\"role\":" ++ grant.role.json ++ ",\"levels\":" ++ Decimal.ofNat grant.levels.toNat ++ "\x7d"

end Grant

/-- The JSON form of a user. -/
def User.json (user : User) : String :=
  "\x7b\"id\":" ++ (user.id.map Json.scalarJson).getD "null" ++ ",\"role\":" ++ user.role.json ++
    "\x7d"

end QueryGate
