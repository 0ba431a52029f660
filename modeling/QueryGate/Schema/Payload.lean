import QueryGate.Failure
import QueryGate.Json.Reader
import QueryGate.Json.Number
import QueryGate.Schema.Model

/-!
# Payloads

What a request wants to write: values under names of fields, visited in ascending order of the
names. A payload is accepted as a whole or refused at its first mistake.

## Two ways of giving a value

A text is given to the field's reader, like the text of a filter. A number, a truth value or the
absence of a value is taken as it is, without the reader. Either way the field's check has the last
word. A sequence or an object is no value of any field.

## Payloads as JSON

A payload is a JSON object. Of two members of one name the later counts. The whole document has to
make sense, also where no field would take it: no number may be too large, no text may hold half of
a surrogate pair, and nothing may be nested more than `QueryGate.Payload.greatestDepth` deep.
-/

namespace QueryGate

namespace Payload

/-- **What a payload gives for a field.** -/
inductive Item where
  /-- A value to be taken as it is. -/
  | plain (s : Scalar)
  /-- A text to be read. -/
  | text (s : String)
  /-- Something that is no value. -/
  | compound
  deriving DecidableEq, Repr

/-- How deep a document may be nested. -/
def greatestDepth : Nat := 127

mutual

/-- **Whether every part of a document has a value.** -/
def isSound : Json.Tree → Bool
  | .null => true
  | .bool _ => true
  | .number n => n.scalar?.isSome
  | .text s => s.isSome
  | .array items => areSound items
  | .object members => membersSound members

/-- Whether every document of a list has a value in every part. -/
def areSound : List Json.Tree → Bool
  | [] => true
  | item :: rest => isSound item && areSound rest

/-- Whether every member has a name and a value in every part. -/
def membersSound : List (Option String × Json.Tree) → Bool
  | [] => true
  | member :: rest => memberSound member && membersSound rest

/-- Whether a member has a name and a value in every part. -/
def memberSound : Option String × Json.Tree → Bool
  | (name, tree) => name.isSome && isSound tree

end

/-- What a document gives for a field. -/
def Item.ofTree : Json.Tree → Item
  | .null => .plain .null
  | .bool b => .plain (.bool b)
  | .number n => .plain (n.scalar?.getD .null)
  | .text s => .text (s.getD "")
  | .array _ => .compound
  | .object _ => .compound

end Payload

/-- **What a request wants to write.** -/
abbrev Payload := Named Payload.Item

/-- **The payload that a JSON text is.** -/
def Payload.ofJson? (text : String) : Option Payload := do
  let tree ← Json.read? text
  match tree with
  | .object members =>
    if isSound tree && tree.depth ≤ greatestDepth then
      some (Named.sorted (members.map fun (name, tree) => (name.getD "", Item.ofTree tree)))
    else none
  | _ => none

namespace Model

/-- The value that a payload's item is for a field, before the field's check. Why a text is refused
is not passed on. -/
def itemValue (field : Field) : Payload.Item → Except (Stop Unit) Scalar
  | .plain s => .ok s
  | .text raw =>
    match field.parse raw with
    | .ok scalar => .ok scalar
    | .error stop => .error (stop.map fun _ => ())
  | .compound => .error (.refused ())

/-- **The column that one entry of a payload writes.** -/
def writableColumn (model : Model) (role : Role) (name : String) (item : Payload.Item) :
    Except (Stop Failure) Column :=
  match model.field? name with
  | none => .error (.refused (.invalidField name))
  | some field =>
    if field.allows role .write then
      match itemValue field item with
      | .ok scalar =>
        if field.validates scalar then .ok { name, value := some scalar }
        else .error (.refused (.invalidField name))
      | .error stop => .error (stop.map fun _ => .invalidField name)
    else .error (.refused (.invalidField name))

/-- The columns that the entries of a payload write, up to the first mistake. -/
def writableColumns (model : Model) (role : Role) : Payload → Except (Stop Failure) (List Column)
  | [] => .ok []
  | (name, item) :: rest => do
    let column ← model.writableColumn role name item
    return column :: (← model.writableColumns role rest)

/-- **The columns that a payload writes.** A payload without entries is a mistake of its own, and a
role that may write nothing is told so before any entry is looked at. -/
def writablePayload (model : Model) (role : Role) (payload : Payload) :
    Except (Stop Failure) (List Column) :=
  if payload.isEmpty then .error (.refused .emptyPayload)
  else if (model.fieldsFor role .write).isEmpty then
    .error (.refused (.forbidden ("role " ++ role.text ++ " cannot write to " ++ model.table)))
  else model.writableColumns role payload

end Model

end QueryGate
