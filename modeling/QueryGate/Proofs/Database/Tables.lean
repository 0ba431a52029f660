import Mathlib.Data.List.Basic
import QueryGate.Proofs.Database.Answers
import QueryGate.Proofs.Sql.Label

/-!
# Databases that keep tables

What is expected of a database that answers requests for rows by lists of values. It keeps the rows
of each table in a fixed order (`QueryGate.Tables`), and of these it answers with the ones whose
value in each listed column is in the list there is for it, as far as the request's limit goes
(`QueryGate.Tables.given`).

## What is left open

How a row is shown under the columns of a request is settled only where the request settles it:
under a label that no other column bears stands the value of its column. What stands under a label
that several columns claim, and which other names a row carries, is left to the database. So is what
it answers to any other kind of request. A `QueryGate.Keeper` is a database as far as it is settled
here; `QueryGate.Tables.keeper` is one that puts the columns into the row one after another, so that
the later of two under one label stays.
-/

namespace QueryGate

/-- **A row as a table keeps it**: a value for each column, no value where there is no such
column. -/
abbrev Stored := String → Scalar

/-- **The tables of a database**, each with its rows in a fixed order. -/
abbrev Tables := String → List Stored

/-- **A request for rows by lists of values.** -/
structure Listing where
  /-- The table. -/
  table : String
  /-- The columns. -/
  columns : List Column
  /-- Columns, each with the values that it may have. -/
  lists : List (String × List Scalar)
  /-- The greatest number of rows. -/
  limit : Option UInt64

namespace Listing

/-- The request. -/
def selection (listing : Listing) : Selection :=
  { table := listing.table
    columns := listing.columns
    clauses :=
      { filters := listing.lists.map fun list => Condition.oneOf list.1 list.2
        limit := listing.limit } }

/-- **Whether a row is listed**: its value in each column is in the list for that column, an integer
whatever its signedness. -/
def admits (listing : Listing) (stored : Stored) : Bool :=
  listing.lists.all fun list => list.2.any (·.equals (stored list.1).normalized)

/-- The request by lists that a selection is, if it is one. -/
def ofSelection (selection : Selection) : Listing :=
  { table := selection.table
    columns := selection.columns
    lists := selection.clauses.filters.map fun condition =>
      (condition.field, condition.operand.asMany?.getD [])
    limit := selection.clauses.limit }

/-- A request by lists is read back from its selection. -/
@[simp] theorem ofSelection_selection (listing : Listing) :
    ofSelection listing.selection = listing := by
  simp [ofSelection, selection, Condition.oneOf, Operand.asMany?, Function.comp_def]

/-- A request by lists is known by its selection. -/
theorem selection_inj {listing other : Listing} :
    listing.selection = other.selection ↔ listing = other := by
  refine ⟨fun h => ?_, congrArg selection⟩
  rw [← ofSelection_selection listing, h, ofSelection_selection]

end Listing

namespace Tables

/-- The rows that are listed, however many there are. -/
def listed (tables : Tables) (listing : Listing) : List Stored :=
  (tables listing.table).filter listing.admits

/-- **The rows that a request is answered with**: the first of those that are listed, as many as the
limit allows. -/
def given (tables : Tables) (listing : Listing) : List Stored :=
  match listing.limit with
  | none => tables.listed listing
  | some count => (tables.listed listing).take count.toNat

/-- Whether the limit of a request leaves nothing out. -/
def Fits (tables : Tables) (listing : Listing) : Prop :=
  ∀ count, listing.limit = some count → (tables.listed listing).length ≤ count.toNat

/-- **That no limit cuts**: of some requests, none has a limit that leaves anything out. -/
def Uncut (tables : Tables) (requests : List Selection) : Prop :=
  ∀ listing : Listing, listing.selection ∈ requests → tables.Fits listing

/-- Where the limit leaves nothing out, all listed rows are given. -/
theorem given_of_fits {tables : Tables} {listing : Listing} (h : tables.Fits listing) :
    tables.given listing = tables.listed listing := by
  rw [given]
  split
  · rfl
  · next count hcount => exact List.take_of_length_le (h count hcount)

/-- A limit that leaves nothing out leaves nothing out of fewer rows. -/
theorem Fits.mono {tables : Tables} {listing listing' : Listing} (h : tables.Fits listing')
    (htable : listing.table = listing'.table) (hlimit : listing.limit = listing'.limit)
    (hadmits : ∀ stored, listing.admits stored = true → listing'.admits stored = true) :
    tables.Fits listing := by
  intro count hcount
  have hlength : (tables.listed listing).length ≤ (tables.listed listing').length := by
    rw [listed, listed, htable]
    exact (List.monotone_filter_right _ hadmits).length_le
  exact Nat.le_trans hlength (h count (hlimit ▸ hcount))

end Tables

/-- **A database that keeps tables**, by its answers. -/
structure Keeper (tables : Tables) where
  /-- What it answers. -/
  answer : Selection → Except Failure (List Row)
  /-- How it shows a row under the columns of a request. -/
  shown : List Column → Stored → Row
  /-- It answers a request by lists with the rows that are to be given. -/
  answer_selection : ∀ listing : Listing,
    answer listing.selection = .ok ((tables.given listing).map (shown listing.columns))
  /-- Under a label that no other column bears stands the value of its column. -/
  get?_shown : ∀ (columns : List Column) (stored : Stored), ∀ column ∈ columns,
    (∀ other ∈ columns, other.label = column.label → other = column) →
      Named.get? column.label (shown columns stored) = some (.scalar (stored column.source))

/-! ### A database that puts one column after another -/

/-- A row with the columns put into it one after another. -/
def Stored.shown (stored : Stored) (columns : List Column) : Row :=
  columns.foldl
    (fun row column => Named.insert column.label (.scalar (stored column.source)) row) []

/-- What stands under a label that only one column bears, once that column has been put there. -/
theorem Stored.get?_foldl_insert (stored : Stored) {column : Column} (columns : List Column)
    (row : Row) (alone : ∀ other ∈ columns, other.label = column.label → other = column)
    (h : column ∈ columns ∨ Named.get? column.label row = some (.scalar (stored column.source))) :
    Named.get? column.label
        (columns.foldl
          (fun row column => Named.insert column.label (.scalar (stored column.source)) row) row) =
      some (.scalar (stored column.source)) := by
  induction columns generalizing row with
  | nil => simpa using h
  | cons first rest ih =>
    refine ih _ (fun other hother => alone other (List.mem_cons_of_mem first hother)) ?_
    by_cases hlabel : first.label = column.label
    · obtain rfl : first = column := alone first List.mem_cons_self hlabel
      exact Or.inr (Named.get?_insert_self _ _ _)
    · have hne : column.label ≠ first.label := fun hlabel' => hlabel hlabel'.symm
      rcases h with h | h
      · rcases List.mem_cons.mp h with rfl | h
        · exact absurd rfl hlabel
        · exact Or.inl h
      · exact Or.inr ((Named.get?_insert_of_ne hne _ _).trans h)

/-- **A database that keeps given tables** and puts one column after another into its rows. -/
def Tables.keeper (tables : Tables) : Keeper tables where
  answer selection :=
    .ok ((tables.given (.ofSelection selection)).map (·.shown selection.columns))
  shown columns stored := stored.shown columns
  answer_selection listing := by
    rw [Listing.ofSelection_selection]
    rfl
  get?_shown columns stored column hcolumn alone :=
    stored.get?_foldl_insert columns [] alone (Or.inl hcolumn)

/-- A database that answers requests for rows as a keeper does, and changes nothing. -/
def Keeper.database {tables : Tables} (keeper : Keeper tables) : Database Unit where
  select selection state := (keeper.answer selection, state)
  insert _ _ state := (.ok (.id .null), state)
  update _ _ _ state := (.ok (), state)
  delete _ _ state := (.ok (), state)

theorem Keeper.database_answersBy {tables : Tables} (keeper : Keeper tables) :
    keeper.database.AnswersBy keeper.answer :=
  fun _ _ => rfl

end QueryGate
