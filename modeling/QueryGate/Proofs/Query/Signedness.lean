import Mathlib.Data.List.Forall2
import QueryGate.Proofs.Query.Bounded
import QueryGate.Proofs.Query.Keys
import QueryGate.Proofs.Sql.Literal

/-!
# Keys of either signedness

Whether an integer is given with a sign or without one makes no difference to an expansion, neither
in the rows that are expanded nor under the labels of what is answered
(`QueryGate.Model.alike_of_expand`). The same is asked for, and the same is attached.

## What is compared

Two rows are alike if they have the same names and under each of them the same attribute, or
integers of one value (`QueryGate.Row.AlikeBut`). Of its owners a relation looks at the keys alone,
and alike rows have one key (`QueryGate.Row.AlikeBut.key?`); so from alike owners a relation is
followed by one and the same dialogue, with any database. Of an answer the labels are taken off once
the keys are made, which leaves one list of rows from two answers that differ under the labels
alone (`QueryGate.Relation.divided_congr`).

An unsigned integer that is too large for a sign stays what it is, and then belongs to the same one
only (`QueryGate.Relation.value?_eq_uint_iff`).
-/

namespace QueryGate

variable {σ σ' : Type}

/-- Lists whose members correspond leave the same, if members that correspond do. -/
theorem filterMap_eq_of_forall₂ {α β γ : Type} {R : α → β → Prop} {f : α → Option γ}
    {g : β → Option γ} {xs : List α} {ys : List β} (h : List.Forall₂ R xs ys)
    (hsame : ∀ x y, R x y → f x = g y) : xs.filterMap f = ys.filterMap g := by
  induction h with
  | nil => rfl
  | cons hxy _ ih => rw [List.filterMap_cons, List.filterMap_cons, hsame _ _ hxy, ih]

/-! ### Rows that are alike -/

/-- **That two attributes are alike**: they are the same, or integers of one value. -/
inductive Datum.Alike : Datum → Datum → Prop
  /-- They are the same. -/
  | same (d : Datum) : Alike d d
  /-- They are integers of one value. -/
  | integers {s t : Scalar} {n : Int} (hs : s.number? = some n) (ht : t.number? = some n) :
      Alike (.scalar s) (.scalar t)

/-- Attributes that are alike have one value, in one form. -/
theorem Datum.Alike.map_asValue? {d d' : Datum} (h : d.Alike d') :
    d.asValue?.map Scalar.normalized = d'.asValue?.map Scalar.normalized := by
  have hvalue : ∀ {s : Scalar} {n : Int}, s.number? = some n →
      (Datum.scalar s).asValue? = some s := by
    intro s n hs
    cases s with
    | null => cases hs
    | _ => rfl
  cases h with
  | same => rfl
  | integers hs ht =>
    rw [hvalue hs, hvalue ht, Option.map_some, Option.map_some,
      Scalar.normalized_eq_of_number? hs ht]

/-- **That two rows are alike**, and the same but under some names. -/
def Row.AlikeBut (varying : String → Prop) : Row → Row → Prop :=
  List.Forall₂ fun entry entry' =>
    entry.1 = entry'.1 ∧ entry.2.Alike entry'.2 ∧ (¬varying entry.1 → entry.2 = entry'.2)

namespace Row.AlikeBut

variable {varying : String → Prop} {row row' : Row}

/-- Rows that are alike have alike values under a name. -/
theorem map_value? (h : row.AlikeBut varying row') (column : String) :
    (row.value? column).map Scalar.normalized = (row'.value? column).map Scalar.normalized := by
  induction h with
  | nil => rfl
  | @cons entry entry' rest rest' hentry _ ih =>
    obtain ⟨name, datum⟩ := entry
    obtain ⟨name', datum'⟩ := entry'
    obtain ⟨hname, hdatum, -⟩ := hentry
    obtain rfl : name = name' := hname
    simp only [value?, Named.get?, List.lookup_cons] at ih ⊢
    cases column == name with
    | true => exact hdatum.map_asValue?
    | false => exact ih

/-- **Rows that are alike have one key.** -/
theorem key? (h : row.AlikeBut varying row') (columns : List String) :
    row.key? columns = row'.key? columns :=
  mapM_congr_map (List.map_congr_left fun column _ => h.map_value? column)

/-- Rows that are alike stay so when the same is put into both of them. -/
theorem insert (h : row.AlikeBut varying row') (name : String) (datum : Datum) :
    AlikeBut varying (Named.insert name datum row) (Named.insert name datum row') := by
  induction h with
  | nil => exact .cons ⟨rfl, .same datum, fun _ => rfl⟩ .nil
  | @cons entry entry' rest rest' hentry hrest ih =>
    obtain ⟨other, d⟩ := entry
    obtain ⟨other', d'⟩ := entry'
    obtain rfl : other = other' := hentry.1
    rw [Named.insert, Named.insert]
    split_ifs with hsame hbefore
    · exact .cons ⟨rfl, .same datum, fun _ => rfl⟩ hrest
    · exact .cons ⟨rfl, .same datum, fun _ => rfl⟩ (.cons hentry hrest)
    · exact .cons hentry ih

end Row.AlikeBut

/-! ### Answers that are alike -/

/-- The names under which a selection asks for the keys that its conditions are about. -/
def Selection.aliases (selection : Selection) : List String :=
  (List.range selection.clauses.filters.length).map Relation.keyName

/-- **That two answers to a selection are alike**: both are failures, or they have rows that are
alike, and the same but under the aliases. -/
inductive Selection.AlikeAnswers (selection : Selection) :
    Except Failure (List Row) → Except Failure (List Row) → Prop
  /-- Both are failures. -/
  | failed (failure failure' : Failure) : AlikeAnswers selection (.error failure) (.error failure')
  /-- Both have rows, of which each is like the one in its place. -/
  | answered {rows rows' : List Row}
      (h : List.Forall₂ (Row.AlikeBut (· ∈ selection.aliases)) rows rows') :
      AlikeAnswers selection (.ok rows) (.ok rows')

namespace Relation

variable {relation : Relation Model} {role : Role}

/-- Without the labels, rows that are alike but for them are the same. -/
theorem stripped_congr {row row' : Row} (h : row.AlikeBut (· ∈ relation.labels) row') :
    relation.stripped row = relation.stripped row' := by
  rw [stripped, stripped, ← List.filterMap_eq_filter]
  refine filterMap_eq_of_forall₂ h fun entry entry' ⟨hname, _, hdatum⟩ => ?_
  by_cases hlabel : entry.1 ∈ relation.labels
  · have hlabel' : entry'.1 ∈ relation.labels := hname ▸ hlabel
    simp [Option.guard, hlabel, hlabel']
  · obtain rfl : entry = entry' := Prod.ext hname (hdatum hlabel)
    rfl

/-- **Of answers that are alike, the same is found.** -/
theorem divided_congr {answered answered' : List Row}
    (h : List.Forall₂ (Row.AlikeBut (· ∈ relation.labels)) answered answered') :
    relation.divided answered = relation.divided answered' := by
  refine filterMap_eq_of_forall₂ h fun row row' hrow => ?_
  rw [detach?_eq, detach?_eq, hrow.key?, stripped_congr hrow]

/-- The aliases of a relation's request are its labels. -/
theorem aliases_selection (owners : List Row) :
    (relation.selection role owners).aliases = relation.labels := by
  have hlength : (relation.selection role owners).clauses.filters.length =
      relation.external.length :=
    List.length_mapIdx
  rw [Selection.aliases, hlength, labels]

end Relation

section Answers

variable {answer answer' : Selection → Except Failure (List Row)} {role : Role}
variable (alike : ∀ selection : Selection,
  selection.AlikeAnswers (answer selection) (answer' selection))

/-- **That a dialogue comes to the same** with either of two functions that answer it. -/
def Dialogue.SameUnder {α : Type} (answer answer' : Selection → Except Failure (List Row))
    (d : Dialogue α) : Prop :=
  d.result answer = d.result answer' ∧ d.requests answer = d.requests answer'

include alike

/-- Following a relation comes to the same with alike answers, if the expansion of what it finds
does. -/
theorem Relation.sameUnder_related {relation : Relation Model}
    (htarget : ∀ rows, (relation.target.expand role rows).SameUnder answer answer')
    (rows : List Row) : (related role relation rows).SameUnder answer answer' := by
  by_cases hasks : relation.asks role rows
  · have hanswers := alike (relation.selection role rows)
    rw [related_eq, request_of_asks hasks]
    simp only [Dialogue.SameUnder, Dialogue.result_ask, Dialogue.requests_ask]
    generalize answer (relation.selection role rows) = outcome at hanswers ⊢
    generalize answer' (relation.selection role rows) = outcome' at hanswers ⊢
    cases hanswers with
    | failed failure failure' => simp
    | @answered answered answered' hrows =>
      rw [aliases_selection] at hrows
      have hfound : answered.filterMap (detach? relation.external.length) =
          answered'.filterMap (detach? relation.external.length) :=
        divided_congr hrows
      obtain ⟨hresult, hrequests⟩ := htarget
        ((answered'.filterMap (detach? relation.external.length)).map Prod.snd)
      simp [hfound, hresult, hrequests]
  · obtain ⟨hresult, hrequests⟩ := related_of_not_asks hasks
    obtain ⟨hresult', hrequests'⟩ := related_of_not_asks hasks
    exact ⟨hresult.trans hresult'.symm, hrequests.trans hrequests'.symm⟩

theorem Relation.sameUnder_expandAll {relations : List (Relation Model)}
    (htarget : ∀ relation ∈ relations, ∀ rows,
      (relation.target.expand role rows).SameUnder answer answer')
    (rows : List Row) : (expandAll role relations rows).SameUnder answer answer' := by
  induction relations generalizing rows with
  | nil => exact ⟨rfl, rfl⟩
  | cons relation rest ih =>
    obtain ⟨hrelation, hrest⟩ := List.forall_mem_cons.mp htarget
    rw [expandAll]
    split
    · obtain ⟨hresult, hrequests⟩ := sameUnder_related alike hrelation rows
      obtain ⟨hresults, hrequestsRest⟩ :=
        ih hrest (relation.attach rows ((related role relation rows).result answer'))
      simp only [Dialogue.SameUnder, Dialogue.result_bind, Dialogue.requests_bind, hresult,
        hrequests, hresults, hrequestsRest]
      exact ⟨trivial, trivial⟩
    · exact ih hrest rows

/-- **An expansion comes to the same with alike answers.** -/
theorem Model.sameUnder_expand (model : Model) (rows : List Row) :
    (model.expand role rows).SameUnder answer answer' := by
  induction model using Model.induction generalizing rows with
  | step model ih =>
    rw [expand_eq]
    exact Relation.sameUnder_expandAll alike ih rows

end Answers

/-! ### Owners that are alike -/

/-- **That two rows are alike and the same under some names.** -/
def Row.AlikeAndSame (varying : String → Prop) (names : List String) (row row' : Row) : Prop :=
  row.AlikeBut varying row' ∧ ∀ name ∈ names, Named.get? name row = Named.get? name row'

namespace Relation

variable {relation : Relation Model} {role : Role} {varying : String → Prop}
variable {rows rows' : List Row}

/-- Rows that are alike have the same keys. -/
theorem keys_congr (h : List.Forall₂ (Row.AlikeBut varying) rows rows') :
    relation.keys rows = relation.keys rows' :=
  filterMap_eq_of_forall₂ h fun _ _ hrow => hrow.key? _

/-- What a row gets is the same for one that is like it. -/
theorem datum_congr_of_alikeBut {row row' : Row} (h : row.AlikeBut varying row')
    (found : List (List Scalar × Row)) : relation.datum row found = relation.datum row' found :=
  datum_congr (by rw [matching, matching, h.key?])

/-- What is attached to alike rows is the same. -/
theorem forall₂_attach {names : List String}
    (h : List.Forall₂ (Row.AlikeAndSame varying names) rows rows')
    (found : List (List Scalar × Row)) :
    List.Forall₂ (Row.AlikeAndSame varying (relation.name :: names)) (relation.attach rows found)
      (relation.attach rows' found) := by
  refine List.forall₂_map_left_iff.mpr (List.forall₂_map_right_iff.mpr (h.imp ?_))
  rintro row row' ⟨halike, hnames⟩
  rw [datum_congr_of_alikeBut halike found]
  refine ⟨halike.insert _ _, fun name hname => ?_⟩
  rw [Named.get?_insert, Named.get?_insert]
  split
  · rfl
  · next hne => exact hnames name (List.mem_of_ne_of_mem hne hname)

/-- **Alike rows are expanded alike**, with any database: the same is asked for, and they are the
same under the names of the relations. -/
theorem run_expandAll_of_alikeBut {relations : List (Relation Model)}
    (hseen : ∀ relation ∈ relations, relation.visibleTo role = true) {names : List String}
    (h : List.Forall₂ (Row.AlikeAndSame varying names) rows rows') (database : Database σ)
    (state : σ) :
    ((expandAll role relations rows).run database state).asked =
        ((expandAll role relations rows').run database state).asked ∧
      List.Forall₂ (Row.AlikeAndSame varying (relations.map Relation.name ++ names))
        ((expandAll role relations rows).run database state).value
        ((expandAll role relations rows').run database state).value := by
  induction relations generalizing rows rows' state names with
  | nil => exact ⟨rfl, h⟩
  | cons relation rest ih =>
    obtain ⟨hseen, hseenRest⟩ := List.forall_mem_cons.mp hseen
    have hrelated : related role relation rows = related role relation rows' :=
      related_congr (keys_congr (h.imp fun _ _ hrow => hrow.1))
    simp only [expandAll, if_pos hseen, Dialogue.run_bind, hrelated, Course.asked_andThen,
      Course.value_andThen]
    generalize (related role relation rows').run database state = course
    obtain ⟨hasked, hvalue⟩ := ih hseenRest (forall₂_attach h course.value) course.state
    refine ⟨congrArg (course.asked ++ ·) hasked, hvalue.imp ?_⟩
    rintro row row' ⟨halike, hnames⟩
    exact ⟨halike, fun name hname => hnames name (List.perm_middle.mem_iff.mpr hname)⟩

end Relation

/-! ### Integers that are too large for a sign -/

/-- **An unsigned integer that is too large for a sign equals itself alone**, in one form as
well. -/
theorem Scalar.equals_normalized_uint_iff {n : UInt64} (hn : Nat.pow 2 63 ≤ n.toNat) {s : Scalar} :
    (Scalar.uint n).normalized.equals s.normalized = true ↔ s = .uint n := by
  have hself : (Scalar.uint n).normalized = .uint n := if_neg (Nat.not_lt.mpr hn)
  rw [hself, equals_iff_eq (by simp)]
  cases s with
  | uint m =>
    rw [normalized]
    split
    · next hm =>
      refine iff_of_false (by simp) fun hequal => ?_
      obtain rfl := Scalar.uint.inj hequal
      exact Nat.not_lt.mpr hn hm
    · exact eq_comm
  | _ => simp [normalized]

/-- An unsigned integer that is too large for a sign stands in the one of two rows that belong
together if it stands in the other. -/
theorem Relation.value?_eq_uint_iff {M : Type} {relation : Relation M} {owner row : Row}
    (h : relation.joins owner row = true) {column label : String}
    (hpair : (column, label) ∈ relation.internal.zip relation.labels) {n : UInt64}
    (hn : Nat.pow 2 63 ≤ n.toNat) :
    owner.value? column = some (.uint n) ↔ row.value? label = some (.uint n) := by
  have hjoined := List.all_eq_true.mp h _ hpair
  cases hs : owner.value? column with
  | none => simp [hs] at hjoined
  | some s =>
    cases ht : row.value? label with
    | none => simp [hs, ht] at hjoined
    | some t =>
      have hequals : s.normalized.equals t.normalized = true := by simpa [hs, ht] using hjoined
      rw [Option.some.injEq, Option.some.injEq]
      constructor
      · rintro rfl
        exact (Scalar.equals_normalized_uint_iff hn).mp hequals
      · rintro rfl
        rw [Scalar.equals_comm] at hequals
        exact (Scalar.equals_normalized_uint_iff hn).mp hequals

-- the two integers have the same bits
example : Relation.parcels.joins (.house (.uint 9223372036854775808) "a")
    (.parcel (.int (-9223372036854775808)) "a" "first") = false := by
  decide +kernel

/-! ### Two expansions -/

/-- **Expansions of alike rows with alike answers are alike.** Where two databases answer by the
request alone, and alike, the same requests are made for alike rows; the rows stay alike, and each
has the same under the name of every relation that the role sees. An unsigned integer that is too
large for a sign belongs to the same one alone. -/
theorem Model.alike_of_expand {database : Database σ} {database' : Database σ'}
    {answer answer' : Selection → Except Failure (List Row)} (answers : database.AnswersBy answer)
    (answers' : database'.AnswersBy answer')
    (alike : ∀ selection : Selection, selection.AlikeAnswers (answer selection) (answer' selection))
    {varying : String → Prop} {rows rows' : List Row}
    (hrows : List.Forall₂ (Row.AlikeBut varying) rows rows') (role : Role) (model : Model)
    (state : σ) (state' : σ') :
    ((model.expand role rows).run database state).asked =
        ((model.expand role rows').run database' state').asked ∧
      List.Forall₂
        (fun row row' => Row.AlikeBut varying row row' ∧
          ∀ relation ∈ model.relationsFor role,
            Named.get? relation.name row = Named.get? relation.name row')
        ((model.expand role rows).run database state).value
        ((model.expand role rows').run database' state').value ∧
      ∀ (relation : Relation Model) (owner row : Row), relation.joins owner row = true →
        ∀ pair ∈ relation.internal.zip relation.labels, ∀ n : UInt64, Nat.pow 2 63 ≤ n.toNat →
          (owner.value? pair.1 = some (.uint n) ↔ row.value? pair.2 = some (.uint n)) := by
  have hsame : (model.expand role rows').SameUnder answer answer' :=
    sameUnder_expand alike model rows'
  obtain ⟨hresult, hrequests⟩ := hsame
  have hsettled : List.Forall₂ (Row.AlikeAndSame varying []) rows rows' :=
    hrows.imp fun row row' h => ⟨h, fun name hname => absurd hname List.not_mem_nil⟩
  have hseen : ∀ relation ∈ model.relationsFor role, relation.visibleTo role = true :=
    fun relation h => (mem_relationsFor.mp h).2
  obtain ⟨hasked, hvalue⟩ := Relation.run_expandAll_of_alikeBut hseen hsettled database state
  rw [← expand_eq_relationsFor, ← expand_eq_relationsFor] at hasked hvalue
  refine ⟨?_, ?_, fun relation owner row h pair hpair n hn => ?_⟩
  · rw [hasked, Dialogue.asked_run answers, Dialogue.asked_run answers', hrequests]
  · rw [Dialogue.value_run answers' _ state', ← hresult, ← Dialogue.value_run answers _ state]
    refine hvalue.imp fun row row' ⟨halike, hnames⟩ => ⟨halike, fun relation hrelation => ?_⟩
    exact hnames _ (by simpa using ⟨relation, hrelation, rfl⟩)
  · exact Relation.value?_eq_uint_iff h hpair hn

/-! ### Parcels for towns of either signedness -/

/-- A parcel for a house of a town, wherever two keys are asked for. -/
def Selection.parcel (town : Scalar) (selection : Selection) : Except Failure (List Row) :=
  .ok (if selection.clauses.filters.length = 2 then [.parcel town "a" "first"] else [])

/-- A database that answers with such a parcel, and changes nothing. -/
def Database.parcelFor (town : Scalar) : Database Unit where
  select selection state := (selection.parcel town, state)
  insert _ _ state := (.ok (.id .null), state)
  update _ _ _ state := (.ok (), state)
  delete _ _ state := (.ok (), state)

/-- A town with a sign is asked for like one without, and gets the parcel that is answered without a
sign or with one. -/
theorem Model.alike_of_expand_houses :
    (Database.parcelFor (.uint 1)).AnswersBy (Selection.parcel (.uint 1)) ∧
      (Database.parcelFor (.int 1)).AnswersBy (Selection.parcel (.int 1)) ∧
      (∀ selection : Selection, selection.AlikeAnswers (selection.parcel (.uint 1))
        (selection.parcel (.int 1))) ∧
      List.Forall₂ (Row.AlikeBut (· = "town")) [.house (.int 1) "a"] [.house (.uint 1) "a"] ∧
      ((houses.expand .default [.house (.int 1) "a"]).run (Database.parcelFor (.uint 1))
          ()).value.map (Named.get? "parcels") =
        [some (.list [[("sender", .scalar (.text "first"))]])] ∧
      ((houses.expand .default [.house (.int 1) "a"]).run (Database.parcelFor (.uint 1))
          ()).asked =
        ((houses.expand .default [.house (.uint 1) "a"]).run (Database.parcelFor (.int 1))
          ()).asked := by
  have halike : ∀ selection : Selection, selection.AlikeAnswers (selection.parcel (.uint 1))
      (selection.parcel (.int 1)) := by
    intro selection
    rw [Selection.parcel, Selection.parcel]
    refine .answered ?_
    split
    · next htwo =>
      have halias : "__expand_key_0" ∈ selection.aliases := by
        rw [Selection.aliases, htwo]
        decide +kernel
      refine .cons (.cons ⟨rfl, .integers rfl rfl, fun hnot => absurd halias hnot⟩ ?_) .nil
      exact .cons ⟨rfl, .same _, fun _ => rfl⟩ (.cons ⟨rfl, .same _, fun _ => rfl⟩ .nil)
    · exact .nil
  have hrows : List.Forall₂ (Row.AlikeBut (· = "town")) [.house (.int 1) "a"]
      [.house (.uint 1) "a"] := by
    refine .cons (.cons ⟨rfl, .same _, fun _ => rfl⟩ (.cons ?_ .nil)) .nil
    exact ⟨rfl, .integers rfl rfl, fun hnot => absurd rfl hnot⟩
  refine ⟨fun _ _ => rfl, fun _ _ => rfl, halike, hrows, by with_unfolding_all rfl, ?_⟩
  exact (alike_of_expand (fun _ _ => rfl) (fun _ _ => rfl) halike hrows .default houses () ()).1

end QueryGate
