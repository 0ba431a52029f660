import QueryGate.Scalar

/-!
# Roles and grants

Who may do what. A role is a number; a grant gives one role one or both of two kinds of access; a
field is as accessible as the grants on it say, and a role without a grant has no access at all.

## Levels as bits

The levels of a grant are a set, kept in one byte: reading is its first bit and writing its second.
A grant that was stored may carry further bits. They mean nothing here, but they are kept.
-/

namespace QueryGate

/-- **A role.** -/
structure Role where
  /-- The number of the role. -/
  number : UInt16
  deriving DecidableEq, Repr, Inhabited

namespace Role

/-- The role of everybody who has no other. -/
def default : Role := ⟨0⟩

/-- The text of a role. -/
def text (role : Role) : String := Decimal.ofNat role.number.toNat

end Role

/-- **A kind of access.** -/
inductive Access where
  /-- To see values. -/
  | read
  /-- To give values. -/
  | write
  deriving DecidableEq, Repr

namespace Access

/-- The bit of a kind of access. -/
def bit : Access → UInt8
  | .read => 1
  | .write => 2

/-- The word of a kind of access. -/
def word : Access → String
  | .read => "read"
  | .write => "write"

end Access

/-- **A grant**: kinds of access for a role. -/
structure Grant where
  /-- The role. -/
  role : Role
  /-- The kinds of access, as bits. -/
  levels : UInt8
  deriving DecidableEq, Repr

namespace Grant

/-- The grant of given kinds of access. -/
def of (role : Role) (kinds : List Access) : Grant :=
  ⟨role, kinds.foldl (fun levels access => levels ||| access.bit) 0⟩

/-- The grant to read. -/
def readOnly (role : Role) : Grant := of role [.read]

/-- The grant to write. -/
def writeOnly (role : Role) : Grant := of role [.write]

/-- The grant to read and to write. -/
def readWrite (role : Role) : Grant := of role [.read, .write]

/-- **Whether a grant covers a kind of access.** -/
def allows (grant : Grant) (access : Access) : Bool := grant.levels &&& access.bit ≠ 0

/-- Whether a grant covers every one of some kinds of access; of none at all, it covers nothing. -/
def allowsAll (grant : Grant) (kinds : List Access) : Bool :=
  !kinds.isEmpty && kinds.all grant.allows

end Grant

/-- **Who makes a request**: an identity, unless nobody is known, and a role. -/
structure User where
  /-- The identity. -/
  id : Option Scalar
  /-- The role. -/
  role : Role
  deriving DecidableEq, Repr

namespace User

/-- Nobody in particular. -/
def anonymous : User := ⟨none, .default⟩

/-- Whether nobody is known. -/
def isAnonymous (user : User) : Bool := user.id.isNone

end User

end QueryGate
