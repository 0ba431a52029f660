import QueryGate.Fault
import QueryGate.Named
import QueryGate.Notice

/-!
# Allow-lists

A request may only touch fields that are on an allow-list, and only with values that the field
itself accepts. Screening clauses against the list drops every directive that breaks either rule,
whole, and leaves everything else as it stood.

## What becomes of an operand

A text is read by the field's reader, and what the reader makes of it takes its place. No value is
kept for the one operator that needs none, and refused everywhere else. A list is read text by
text, all or nothing. A scalar that is no text has been read before or comes from elsewhere, and is
never taken as it is.

## Readers that end the run

A reader may also end the run in which it is called, instead of refusing a text. What is screened
after that is of no consequence, so the clauses that are left and the notices stand for what is done
only as far as the run gets (`QueryGate.Noted.run`).
-/

namespace QueryGate

/-- **How a field reads a text**: a scalar, or why there is none. -/
abbrev Reader := String → Except (Stop RejectedValue) Scalar

/-- **The fields that a request may touch**, each with its reader. Of two entries under one name
the later counts. -/
structure AllowList where
  /-- The fields and their readers. -/
  entries : Named Reader

namespace AllowList

/-- The reader of a field. -/
def reader? (list : AllowList) (field : String) : Option Reader := Named.last? field list.entries

/-- Whether a field is on the list. -/
def allows (list : AllowList) (field : String) : Bool := (list.reader? field).isSome

/-- The names on the list, in ascending order and each of them once. -/
def names (list : AllowList) : List String := Named.names (Named.sorted list.entries)

/-- A list of texts read one by one. The first that there is no value for ends the reading. -/
def readAll (reader : Reader) : List Scalar → Except (Stop Unit) (List Scalar)
  | [] => .ok []
  | .text raw :: rest =>
    match reader raw with
    | .error stop => .error (stop.map fun _ => ())
    | .ok scalar => (readAll reader rest).map (scalar :: ·)
  | _ :: _ => .error (.refused ())

/-- **What becomes of a condition's operand** under the reader of its field. Why a text is refused
is not passed on. -/
def coerce (reader : Reader) (operator : Operator) : Operand → Except (Stop Unit) Operand
  | .single .null => if operator = .isNull then .ok (.single .null) else .error (.refused ())
  | .single (.text raw) =>
    match reader raw with
    | .ok scalar => .ok (.single scalar)
    | .error stop => .error (stop.map fun _ => ())
  | .single _ => .error (.refused ())
  | .many [] => .error (.refused ())
  | .many (item :: items) => (readAll reader (item :: items)).map .many

/-- **A condition as it passes the list**, or the notice that it does not. -/
def screen (list : AllowList) (condition : Condition) : Except (Stop Notice) Condition :=
  match list.reader? condition.field with
  | none => .error (.refused (.fieldNotAllowed condition.field))
  | some reader =>
    match coerce reader condition.operator condition.operand with
    | .ok operand => .ok { condition with operand }
    | .error stop =>
      .error (stop.map fun _ => .operandRejected condition.field condition.operator)

/-- An item with a field, if the field is on the list. -/
def pass {α : Type} (list : AllowList) (field : α → String) (item : α) : Except Notice α :=
  if list.allows (field item) then .ok item else .error (.fieldNotAllowed (field item))

end AllowList

/-- **Clauses screened against an allow-list**, with a notice for each item that is dropped and with
the places where a reader ends the run. -/
def Clauses.screened (clauses : Clauses) (list : AllowList) : Noted (Stop Notice) Clauses :=
  let filters := Noted.sift list.screen clauses.filters
  let groups := Noted.sift (list.pass id) clauses.groups
  let having := Noted.sift list.screen clauses.having
  let order := Noted.sift (list.pass SortKey.field) clauses.order
  { value :=
      { clauses with
        filters := filters.value
        groups := groups.value
        having := having.value
        order := order.value }
    notices :=
      filters.notices ++ groups.notices.map .refused ++ having.notices ++
        order.notices.map .refused }

end QueryGate
