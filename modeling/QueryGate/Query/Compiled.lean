import QueryGate.Filter.Directive
import QueryGate.Query.Expansion

/-!
# Compiled queries

A request for rows, after it has passed the gate: the columns are the ones the role may read, and
every clause names one of them. Compiling needs no database; fetching is a dialogue with one.

## The gate

A role that may read no field of a model is refused before its filter is even read. Otherwise the
filter is read and screened against the readable fields, and what does not pass is dropped, so no
filter is ever a reason to refuse a request. Only a field's reader can still keep a request from
being compiled, and then not by a refusal: the run is abandoned in the middle of the screening.
-/

namespace QueryGate

/-- **A request that has passed the gate.** -/
structure CompiledQuery where
  /-- The model. -/
  model : Model
  /-- The role. -/
  role : Role
  /-- The columns. -/
  columns : List Column
  /-- The clauses. -/
  clauses : Clauses

namespace Model

/-- **A request for rows of a model, by a role, with parameters.** -/
def compile (model : Model) (role : Role) (params : Params) :
    Noted Notice (Except (Stop Failure) CompiledQuery) :=
  if (model.projection role).isEmpty then
    ⟨.error (.refused (.forbidden ("role " ++ role.text ++ " cannot read " ++ model.table))), []⟩
  else
    let asked := Clauses.ofParams params
    let screened := (asked.value.screened (model.allowList role .read)).run
    { value :=
        match screened.value with
        | some clauses => .ok ⟨model, role, model.projection role, clauses⟩
        | none => .error .abandoned
      notices := asked.notices ++ screened.notices }

/-- The request of a query string. -/
def compileString (model : Model) (role : Role) (raw : String) :
    Noted Notice (Except (Stop Failure) CompiledQuery) :=
  model.compile role (Params.ofQueryString raw)

end Model

namespace CompiledQuery

/-- What the query asks for. -/
def selection (query : CompiledQuery) : Selection :=
  ⟨query.model.table, query.columns, query.clauses⟩

/-- The text of the query. -/
def text (query : CompiledQuery) : String := (Statement.select query.selection).text

/-- **The rows of the query**, expanded. If the query itself fails, nothing else is asked. -/
def fetch (query : CompiledQuery) : Dialogue (Except Failure (List Row)) :=
  .ask query.selection fun
    | .error failure => .done (.error failure)
    | .ok rows => (query.model.expand query.role rows).map .ok

end CompiledQuery

end QueryGate
