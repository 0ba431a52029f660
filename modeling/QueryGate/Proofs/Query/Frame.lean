import Mathlib.Data.List.Forall2
import QueryGate.Proofs.Filter.Screening
import QueryGate.Proofs.Named
import QueryGate.Proofs.Query.Related

/-!
# What an expansion leaves alone

An expansion makes of each row one row in the same place, which has what the row had and, under the
name of each relation that the role sees, what that relation gives (`QueryGate.Relation.Frames`).
This holds with any database, in any state of it, and whatever becomes of the requests: a relation
that asks for nothing or gets no answer still gives its attribute, an empty one.

## Where the induction is

One relation puts one attribute into each row, so the frame of a list of relations is that of its
rest around a row with one attribute more (`QueryGate.Relation.Frames.cons`). Of two relations with
one name the later one replaces what the earlier one gave, which is why a frame goes by the *last*
relation of a name. What is known of each attribute by itself, its kind and how many rows are in it,
is carried along as a parameter.
-/

namespace QueryGate

variable {σ : Type}

/-! ### Attributes that relations give -/

namespace Datum

/-- **That an attribute is of the kind that a limit calls for**: one row where that is the limit, a
list of rows otherwise. -/
def Fits (limit : RowLimit) : Datum → Prop
  | .scalar _ => False
  | .object _ => limit = .rows 1
  | .list _ => limit ≠ .rows 1

/-- How many rows an attribute can hold: one, or as many as are in its list. -/
def rowCount : Datum → Nat
  | .scalar _ => 0
  | .object _ => 1
  | .list rows => rows.length

end Datum

/-- That an answer, if it is one, keeps to the limit of the request. -/
def Selection.BoundsAnswer (selection : Selection) (answer : Except Failure (List Row)) : Prop :=
  ∀ rows, answer = .ok rows → ∀ count ∈ selection.clauses.limit, rows.length ≤ count.toNat

/-- **That a database keeps to the limits of requests**, in every state, as far as it answers
them. -/
def Database.KeepsLimits (database : Database σ) : Prop :=
  ∀ (selection : Selection) (state : σ), selection.BoundsAnswer (database.select selection state).1

namespace Relation

/-- What a relation gives is of the kind that its limit calls for. -/
theorem fits_datum {M : Type} (relation : Relation M) (row : Row)
    (found : List (List Scalar × Row)) : (relation.datum row found).Fits relation.limit := by
  rw [datum]
  split
  · next hsingle =>
    rw [RowLimit.isSingle, decide_eq_true_eq] at hsingle
    exact hsingle
  · next hsingle =>
    rw [RowLimit.isSingle, decide_eq_true_eq] at hsingle
    exact hsingle

/-- What a relation with a limit gives has no more rows than were found, and no more than one where
one is the limit. -/
theorem rowCount_datum_le {M : Type} {relation : Relation M} {count : UInt64}
    (hlimit : relation.limit = .rows count) (row : Row) {found : List (List Scalar × Row)}
    (hfound : found.length ≤ count.toNat) :
    (relation.datum row found).rowCount ≤ count.toNat := by
  rw [datum]
  split
  · next hsingle =>
    have hone : relation.limit = .rows 1 := of_decide_eq_true hsingle
    obtain rfl : count = 1 := RowLimit.rows.inj (hlimit.symm.trans hone)
    exact Nat.le_refl 1
  · refine Nat.le_trans ?_ hfound
    rw [Datum.rowCount, matching]
    split
    · exact Nat.zero_le _
    · rw [List.length_map]
      exact List.length_filter_le _ _

/-- **A relation finds no more rows than its limit**, if the answers keep to it. -/
theorem ensures_length_related {role : Role} {relation : Relation Model} {count : UInt64}
    (hlimit : relation.limit = .rows count) (rows : List Row) :
    (related role relation rows).Ensures Selection.BoundsAnswer fun found =>
      found.length ≤ count.toNat := by
  rw [related_eq]
  by_cases hasks : relation.asks role rows
  · rw [request_of_asks hasks]
    intro answer hanswer
    cases answer with
    | error failure => exact Nat.zero_le _
    | ok answered =>
      have hlength : answered.length ≤ count.toNat :=
        hanswer answered rfl count (by rw [selection, hlimit]; rfl)
      refine .map (.of_forall (fun expanded => ?_) _)
      rw [List.length_zip, List.length_map]
      exact Nat.le_trans (Nat.min_le_left _ _)
        (Nat.le_trans (List.length_filterMap_le _ _) hlength)
  · rcases request_of_not_asks hasks with hrequest | hrequest <;> rw [hrequest] <;>
      exact Nat.zero_le _

/-- What a relation gives has no more rows than its limit allows, if the answers keep to it. -/
theorem ensures_rowCount_related {role : Role} (relation : Relation Model) (rows : List Row) :
    (related role relation rows).Ensures Selection.BoundsAnswer fun found =>
      ∀ row count, relation.limit = .rows count →
        (relation.datum row found).rowCount ≤ count.toNat := by
  cases hlimit : relation.limit with
  | unbounded => exact .of_forall (fun found row count h => absurd h (by simp)) _
  | rows count =>
    refine (ensures_length_related hlimit rows).mono fun found hfound row other h => ?_
    obtain rfl := RowLimit.rows.inj h
    exact rowCount_datum_le hlimit row hfound

/-! ### Frames -/

/-- **The last relation of a name** among some. -/
def lastNamed? (name : String) (relations : List (Relation Model)) : Option (Relation Model) :=
  Named.last? name (relations.map fun relation => (relation.name, relation))

/-- There is a last relation of a name if there is any. -/
theorem isSome_lastNamed? {name : String} {relations : List (Relation Model)} :
    (lastNamed? name relations).isSome = true ↔ ∃ relation ∈ relations, relation.name = name := by
  rw [lastNamed?, Named.isSome_last?, Named.names, List.map_map, List.mem_map]
  rfl

/-- A later relation of a name comes before an earlier one. -/
theorem lastNamed?_cons {name : String} {relation : Relation Model}
    {rest : List (Relation Model)} :
    lastNamed? name (relation :: rest) =
      (lastNamed? name rest).or (if relation.name = name then some relation else none) := by
  rw [lastNamed?, List.map_cons, Named.last?, ← lastNamed?]
  cases lastNamed? name rest <;> rfl

/-- **That a row is framed by relations in another form of it**: the form has the names of the row
and those of the relations; what does not stand under the name of a relation is as it was; and under
each such name stands what the last relation of that name gives. -/
structure Frames (Gives : Relation Model → Datum → Prop) (relations : List (Relation Model))
    (row form : Row) : Prop where
  /-- The names of both, and no other names. -/
  names : ∀ name, name ∈ Named.names form ↔
    name ∈ Named.names row ∨ ∃ relation ∈ relations, relation.name = name
  /-- The names stay in order, each of them once. -/
  ordered : Named.Ascending row → Named.Ascending form
  /-- What the row had. -/
  kept : ∀ name, (∀ relation ∈ relations, relation.name ≠ name) →
    Named.get? name form = Named.get? name row
  /-- What the relations give. -/
  given : ∀ name relation, lastNamed? name relations = some relation →
    ∃ datum, Named.get? name form = some datum ∧ Gives relation datum

variable {Gives : Relation Model → Datum → Prop}

/-- Without relations a row is its own frame. -/
theorem Frames.refl (row : Row) : Frames Gives [] row row where
  names name := by simp
  ordered h := h
  kept _ _ := rfl
  given _ _ h := absurd h (by simp [lastNamed?, Named.last?])

/-- **One relation more**: it puts its attribute into the row, and the others frame the row that
has it. -/
theorem Frames.cons {relation : Relation Model} {rest : List (Relation Model)} {row form : Row}
    {datum : Datum} (hgives : Gives relation datum)
    (h : Frames Gives rest (Named.insert relation.name datum row) form) :
    Frames Gives (relation :: rest) row form where
  names name := by
    rw [h.names, Named.mem_names_insert]
    simp only [List.exists_mem_cons_iff, eq_comm (a := name)]
    exact or_assoc.trans or_left_comm
  ordered hrow := h.ordered (hrow.insert _ _)
  kept name hname := by
    obtain ⟨hrelation, hrest⟩ := List.forall_mem_cons.mp hname
    rw [h.kept name hrest, Named.get?_insert_of_ne (Ne.symm hrelation)]
  given name other hother := by
    rw [lastNamed?_cons] at hother
    cases hlast : lastNamed? name rest with
    | some last =>
      rw [hlast] at hother
      obtain rfl := Option.some.inj hother
      exact h.given name last hlast
    | none =>
      -- the rest has no relation of this name, so what was put into the row is still there
      rw [hlast, Option.none_or, Option.ite_none_right_eq_some] at hother
      obtain ⟨rfl, hsame⟩ := hother
      obtain rfl := Option.some.inj hsame
      refine ⟨datum, ?_, hgives⟩
      rw [h.kept, Named.get?_insert_self]
      intro last hmem hname
      have hsome := isSome_lastNamed?.mpr ⟨last, hmem, hname⟩
      rw [hlast] at hsome
      exact absurd hsome (by simp)

/-- **Following relations frames each row in its place**, by whatever is known of what each relation
gives. -/
theorem ensures_frames_expandAll {role : Role}
    {Admissible : Selection → Except Failure (List Row) → Prop}
    (gives : ∀ relation rows, (related role relation rows).Ensures Admissible fun found =>
      ∀ row, Gives relation (relation.datum row found))
    (relations : List (Relation Model)) (rows : List Row) :
    (expandAll role relations rows).Ensures Admissible
      (List.Forall₂ (Frames Gives (relations.filter (·.visibleTo role))) rows) := by
  induction relations generalizing rows with
  | nil => exact List.forall₂_same.mpr fun row _ => .refl row
  | cons relation rest ih =>
    rw [expandAll, List.filter_cons]
    split
    · refine (gives relation rows).bind fun found hfound => (ih _).mono fun forms hforms => ?_
      rw [attach, List.forall₂_map_left_iff] at hforms
      exact hforms.imp fun row form hform => .cons (hfound row) hform
    · exact ih rows

/-- Each relation gives an attribute of the kind that its limit calls for, whatever is answered. -/
theorem ensures_fits_expandAll (role : Role) (relations : List (Relation Model))
    (rows : List Row) :
    (expandAll role relations rows).Ensures (fun _ _ => True)
      (List.Forall₂
        (Frames (fun relation datum => datum.Fits relation.limit)
          (relations.filter (·.visibleTo role)))
        rows) :=
  ensures_frames_expandAll
    (fun relation _ => .of_forall (fun found row => relation.fits_datum row found) _) relations rows

/-- Each relation gives no more rows than its limit allows, if the answers keep to limits. -/
theorem ensures_rowCount_expandAll (role : Role) (relations : List (Relation Model))
    (rows : List Row) :
    (expandAll role relations rows).Ensures Selection.BoundsAnswer
      (List.Forall₂
        (Frames
          (fun relation datum =>
            ∀ count, relation.limit = .rows count → datum.rowCount ≤ count.toNat)
          (relations.filter (·.visibleTo role)))
        rows) :=
  ensures_frames_expandAll ensures_rowCount_related relations rows

end Relation

/-- **An expansion frames every row in its place** by the relations that the role sees: each gives
its attribute, of the kind that its limit calls for. With a database that keeps to the limits of
requests, whichever relation has just been followed, there are no more rows in what it gave than its
limit allows. And where there are no rows to expand, nothing is asked. -/
theorem Model.frames_run_expand (database : Database σ) (state : σ) (role : Role) (model : Model)
    (rows : List Row) :
    List.Forall₂
        (Relation.Frames (fun relation datum => datum.Fits relation.limit)
          (model.relationsFor role))
        rows ((model.expand role rows).run database state).value ∧
      (database.KeepsLimits → ∀ before after, model.relations = before ++ after →
        ∀ form ∈ (({ model with relations := before }.expand role rows).run database state).value,
          ∀ name relation,
            Relation.lastNamed? name ({ model with relations := before }.relationsFor role) =
              some relation →
            ∀ count, relation.limit = .rows count →
              ∃ datum, Named.get? name form = some datum ∧ datum.rowCount ≤ count.toNat) ∧
      ((model.expand role []).run database state).asked = [] := by
  refine ⟨?_, fun keeps before after _ form hform name relation hlast count hlimit => ?_, ?_⟩
  · rw [expand_eq]
    exact (Relation.ensures_fits_expandAll role model.relations rows).run (fun _ _ => trivial) state
  · have hframes := (Relation.ensures_rowCount_expandAll role before rows).run keeps state
    rw [expand_eq] at hform
    obtain ⟨i, hi, rfl⟩ := List.mem_iff_getElem.mp hform
    obtain ⟨datum, hget, hcount⟩ :=
      (hframes.get (hframes.length_eq ▸ hi) hi).given name relation hlast
    exact ⟨datum, hget, hcount count hlimit⟩
  · rw [expand_nil]
    rfl

/-! ### Books on shelves -/

section Shelves

/-- A relation of a shelf to its books, of which everybody may read the title. -/
def Relation.books (limit : RowLimit) : Relation Model :=
  { name := "books"
    internal := ["number"]
    external := ["shelf"]
    target := { table := "books", fields := [(Field.text "title").grant (.readOnly .default)] }
    limit }

/-- Shelves with all their books and then, under the same name, with two of them; and with loans,
whose keys do not pair up. -/
def Model.shelves : Model :=
  { table := "shelves"
    fields := [(Field.signed 64 "number").grant (.readOnly .default)]
    relations :=
      [.books .unbounded, .books (.rows 2),
        { Relation.books .unbounded with name := "loans", external := [] }] }

/-- A shelf with a number, and one without. -/
def Row.shelves : List Row := [[("number", .scalar (.int 7))], [("number", .scalar .null)]]

/-- A book on the seventh shelf, as it is answered. -/
def Row.book (title : String) : Row :=
  [("__expand_key_0", .scalar (.int 7)), ("title", .scalar (.text title))]

/-- A database that answers every request with the first of some rows, as far as its limit goes. -/
def Database.handsOut (rows : List Row) : Database Unit where
  select selection state :=
    (.ok ((selection.clauses.limit.map fun count => rows.take count.toNat).getD rows), state)
  insert _ _ state := (.ok (.id .null), state)
  update _ _ _ state := (.ok (), state)
  delete _ _ state := (.ok (), state)

theorem Database.keepsLimits_handsOut (rows : List Row) :
    (Database.handsOut rows).KeepsLimits := by
  intro selection state answered hanswered count hcount
  obtain rfl := Except.ok.inj hanswered
  rw [Option.mem_def.mp hcount, Option.map_some, Option.getD_some]
  exact List.length_take_le _ _

/-- Of three books the seventh shelf gets two, since the later relation of the name has that limit;
the shelf without a number gets none, and nobody gets loans. -/
theorem Model.frames_run_expand_shelves :
    (Database.handsOut [.book "first", .book "second", .book "third"]).KeepsLimits ∧
      Relation.lastNamed? "books" (shelves.relationsFor .default) = some (.books (.rows 2)) ∧
      ((shelves.expand .default Row.shelves).run
          (Database.handsOut [.book "first", .book "second", .book "third"]) ()).value =
        [[("books", .list [[("title", .scalar (.text "first"))],
            [("title", .scalar (.text "second"))]]), ("loans", .list []),
          ("number", .scalar (.int 7))],
        [("books", .list []), ("loans", .list []), ("number", .scalar .null)]] ∧
      List.Forall₂
        (Relation.Frames (fun relation datum => datum.Fits relation.limit)
          (shelves.relationsFor .default))
        Row.shelves ((shelves.expand .default Row.shelves).run
          (Database.handsOut [.book "first", .book "second", .book "third"]) ()).value ∧
      ∀ form ∈ ((shelves.expand .default Row.shelves).run
          (Database.handsOut [.book "first", .book "second", .book "third"]) ()).value,
        ∃ datum, Named.get? "books" form = some datum ∧ datum.rowCount ≤ UInt64.toNat 2 := by
  have keeps := Database.keepsLimits_handsOut [.book "first", .book "second", .book "third"]
  have hlast : Relation.lastNamed? "books" (shelves.relationsFor .default) =
      some (.books (.rows 2)) := by
    with_unfolding_all rfl
  obtain ⟨hframes, hcounts, -⟩ := frames_run_expand
    (Database.handsOut [.book "first", .book "second", .book "third"]) () .default shelves
    Row.shelves
  refine ⟨keeps, hlast, by with_unfolding_all rfl, hframes, fun form hform => ?_⟩
  exact hcounts keeps shelves.relations [] (List.append_nil _).symm form hform "books" _ hlast 2 rfl

end Shelves

end QueryGate
