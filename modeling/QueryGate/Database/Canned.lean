import QueryGate.Database.Dialogue

/-!
# Canned databases

A database that needs no tables: for each table it has been told which rows to answer with, and it
answers with them whatever the clauses of the request. A table can be made unavailable and
available again. New rows are only counted, and their identities are the count.
-/

namespace QueryGate

/-- **What a canned database has been told.** -/
structure Canned where
  /-- The rows to answer with, by table. -/
  answers : Named (List Row) := []
  /-- The tables that are unavailable. -/
  failing : List String := []
  /-- How many rows have been inserted. -/
  inserted : Nat := 0

namespace Canned

/-- The database that answers with given rows for a table. -/
def tell (canned : Canned) (table : String) (rows : List Row) : Canned :=
  { canned with answers := Named.insert table rows canned.answers }

/-- A table made unavailable. -/
def fail (canned : Canned) (table : String) : Canned :=
  { canned with failing := canned.failing.insert table }

/-- A table made available. -/
def heal (canned : Canned) (table : String) : Canned :=
  { canned with failing := canned.failing.filter (· ≠ table) }

/-- Whether a table is unavailable. -/
def isFailing (canned : Canned) (table : String) : Bool := canned.failing.contains table

/-- What happens on a table, if it is available. -/
def attempt {α : Type} (canned : Canned) (table : String) (act : Canned → α × Canned) :
    Except Failure α × Canned :=
  if canned.isFailing table then (.error (.driver (table ++ " is unavailable")), canned)
  else (.ok (act canned).1, (act canned).2)

/-- **The database that goes by what it has been told.** -/
def database : Database Canned where
  select selection canned :=
    canned.attempt selection.table fun canned =>
      ((Named.get? selection.table canned.answers).getD [], canned)
  insert table _ canned :=
    canned.attempt table fun canned =>
      (.id (.int (Int64.ofNat (canned.inserted + 1))),
        { canned with inserted := canned.inserted + 1 })
  update table _ _ canned := canned.attempt table fun canned => ((), canned)
  delete table _ canned := canned.attempt table fun canned => ((), canned)

end Canned

end QueryGate
