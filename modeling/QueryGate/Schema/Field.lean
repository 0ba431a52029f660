import QueryGate.Access
import QueryGate.Calendar.Writing
import QueryGate.Filter.AllowList

/-!
# Fields

A field of a model: a name, how a text becomes a value of it, which values it takes, and who may
read and write it. A reader belongs to the field, not to the place where the text came from, so a
filter and a payload see the same values.

## Kinds of fields

Each constructor below makes a field without grants and without a check. An integer of any width is
kept in 64 bits, a real number in 64 bits after it was rounded to its own format, a truth value has
a fixed set of spellings, and a moment is kept as the text its pattern gives it.
-/

namespace QueryGate

/-- **A field of a model.** -/
structure Field where
  /-- The name. -/
  name : String
  /-- How a text becomes a value. -/
  reader : Reader
  /-- Which values the field takes, if not all of them. -/
  check : Option (Scalar → Bool) := none
  /-- Who may do what. -/
  grants : List Grant := []

namespace Field

/-- The field with one grant more. -/
def grant (field : Field) (grant : Grant) : Field :=
  { field with grants := field.grants ++ [grant] }

/-- The value that a text is. -/
def parse (field : Field) (raw : String) : Except (Stop RejectedValue) Scalar := field.reader raw

/-- Whether the field takes a value. -/
def validates (field : Field) (value : Scalar) : Bool :=
  match field.check with
  | none => true
  | some check => check value

/-- **Whether a role has a kind of access to the field.** -/
def allows (field : Field) (role : Role) (access : Access) : Bool :=
  field.grants.any fun grant => grant.role = role && grant.allows access

/-- The roles of the grants that cover one of some kinds of access; of none at all, every grant
counts. -/
def roles (field : Field) (kinds : List Access) : List Role :=
  (field.grants.filter fun grant => kinds.isEmpty || kinds.any grant.allows).map Grant.role

/-! ### Kinds of fields -/

/-- The value that is read, or the refusal of the text with the fault. -/
def verdict {ε : Type} (fault : ε → ValueFault) (raw : String) (read : Except ε Scalar) :
    Except (Stop RejectedValue) Scalar :=
  match read with
  | .ok scalar => .ok scalar
  | .error e => .error (.refused ⟨raw, fault e⟩)

/-- A field of texts. -/
def text (name : String) : Field := { name, reader := fun raw => .ok (.text raw) }

/-- A field of signed integers of a width. -/
def signed (bits : Nat) (name : String) : Field :=
  { name
    reader := fun raw =>
      verdict .integer raw <|
        ((IntegerRange.signed bits).read raw.toList).map fun n => .int (Int64.ofInt n) }

/-- A field of unsigned integers of a width. -/
def unsigned (bits : Nat) (name : String) : Field :=
  { name
    reader := fun raw =>
      verdict .integer raw <|
        ((IntegerRange.unsigned bits).read raw.toList).map fun n => .uint (UInt64.ofNat n.toNat) }

/-- A field of real numbers of 32 bits. -/
def single (name : String) : Field :=
  { name, reader := fun raw => verdict .real raw ((Binary64.readSingle raw.toList).map .float) }

/-- A field of real numbers of 64 bits. -/
def double (name : String) : Field :=
  { name, reader := fun raw => verdict .real raw ((Binary64.readDouble raw.toList).map .float) }

/-- The truth value that a text is. -/
def truth? (raw : String) : Option Bool :=
  if raw ∈ ["1", "t", "T", "TRUE", "true", "True"] then some true
  else if raw ∈ ["0", "f", "F", "FALSE", "false", "False"] then some false
  else none

/-- A field of truth values. -/
def truth (name : String) : Field :=
  { name
    reader := fun raw =>
      match truth? raw with
      | some b => .ok (.bool b)
      | none => .error (.refused ⟨raw, .bool⟩) }

/-- **A field of moments**, spelt by a pattern. A moment that the pattern cannot be used to write is
the end of the run. -/
def moment (pattern name : String) : Field :=
  { name
    reader := fun raw =>
      match Calendar.canonical pattern raw with
      | .ok text => .ok (.text text)
      | .error stop => .error (stop.map fun fault => ⟨raw, .moment fault⟩) }

/-! ### The text of a field -/

/-- The text of a grant. -/
def grantText (grant : Grant) : String :=
  "Permission \x7b role: Role(" ++ grant.role.text ++ "), levels: " ++
    Decimal.ofNat grant.levels.toNat ++ " \x7d"

/-- **The text of a field for whoever looks into the program**: what can be said of a field without
applying its functions. -/
def debugText (field : Field) : String :=
  "Field \x7b name: " ++ Quoted.quote field.name ++ ", validator: " ++
    (if field.check.isSome then "true" else "false") ++ ", permissions: [" ++
    String.intercalate ", " (field.grants.map grantText) ++ "], .. \x7d"

end Field

end QueryGate
