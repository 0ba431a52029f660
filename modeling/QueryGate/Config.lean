import QueryGate.Json.Reader
import QueryGate.Json.Record
import QueryGate.Number.Integer

/-!
# Configuration

Where the database is and how many connections to it may be open. Both have a value of their own
when nothing is said about them; a configuration comes from an environment, in which a value that
cannot be used counts as none, or from a JSON text, in which it is a mistake.
-/

namespace QueryGate

/-- **A configuration.** -/
structure Config where
  /-- Where the database is. -/
  databaseUrl : String := "sqlite::memory:"
  /-- How many connections may be open. -/
  maxConnections : UInt32 := 5
  deriving DecidableEq, Repr, Inhabited

namespace Config

/-- The variable that says where the database is. -/
def databaseUrlVariable : String := "DATABASE_URL"

/-- The variable that says how many connections may be open. -/
def maxConnectionsVariable : String := "OXIDE_REST_MAX_CONNECTIONS"

/-- The number of connections that a text spells. -/
def connections? (text : String) : Option UInt32 :=
  match (IntegerRange.unsigned 32).read text.toList with
  | .ok n => some (UInt32.ofNat n.toNat)
  | .error _ => none

/-- **The configuration of an environment.** -/
def ofEnvironment (lookup : String → Option String) : Config :=
  { databaseUrl := (lookup databaseUrlVariable).getD ({} : Config).databaseUrl
    maxConnections :=
      ((lookup maxConnectionsVariable).bind connections?).getD ({} : Config).maxConnections }

/-- The configuration of two documents, of which each may be missing. -/
def ofTrees? (url connections : Option Json.Tree) : Option Config := do
  let url ← match url with
    | none => some ({} : Config).databaseUrl
    | some tree => tree.text?
  let connections ← match connections with
    | none => some ({} : Config).maxConnections
    | some tree => (tree.nat? (Nat.pow 2 32)).map UInt32.ofNat
  return ⟨url, connections⟩

/-- **The configuration that a JSON text is**: an object, or a sequence of its values, of which
the last may be missing. -/
def ofJson? (text : String) : Option Config := do
  match ← Json.read? text with
  | .array [] => ofTrees? none none
  | .array [url] => ofTrees? url none
  | .array [url, connections] => ofTrees? url connections
  | .object members =>
    let members ← Json.members? members
    ofTrees? (← Json.member? "database_url" members) (← Json.member? "max_connections" members)
  | _ => none

end Config

end QueryGate
