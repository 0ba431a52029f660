import QueryGate.Proofs.Sql.Restriction

/-!
# One predicate for all statements

A selection shows the rows that a change with the same conditions would change. Both take the
conditions as a list and write what they can of it, so the rows are the same as long as the texts
are, and the texts are the same letter for letter (`QueryGate.Statement.states_of_remain`). The two
part only where nothing can be written: a selection is then without the line, and a change is
restricted to no rows.

## Where a condition stands

The text depends on a list of conditions through `QueryGate.Statement.written` alone, the conditions
that can be written with their connectives. So it makes no difference whether the others are there,
and the one that goes without its connective is the first that is written, not the first of the
list.
-/

namespace QueryGate

/-- **That conditions remain of others** when some are left out that cannot be written, wherever
they stand. -/
inductive Condition.Remain : List Condition → List Condition → Prop
  /-- Nothing remains of nothing. -/
  | nil : Remain [] []
  /-- A condition is left where it is. -/
  | keep (c : Condition) {conditions remaining : List Condition}
      (rest : Remain conditions remaining) : Remain (c :: conditions) (c :: remaining)
  /-- A condition that cannot be written is left out. -/
  | drop {c : Condition} (h : c.text? = none) {conditions remaining : List Condition}
      (rest : Remain conditions remaining) : Remain (c :: conditions) remaining

namespace Selection

/-- A selection with other conditions on rows. -/
def filteredBy (s : Selection) (conditions : List Condition) : Selection :=
  { s with clauses := { s.clauses with filters := conditions } }

/-- What a selection says before it comes to its conditions. -/
def opening (s : Selection) : String :=
  "SELECT " ++ (if s.columns.isEmpty then "*" else Statement.names s.columns) ++ "\nFROM " ++
    s.table

end Selection

namespace Statement

variable {conditions remaining : List Condition}

/-- **That conditions state a predicate**, in every statement that conditions can be given to. -/
structure States (conditions : List Condition) (predicate : Option String) : Prop where
  /-- A selection has the predicate in a line of its own, behind the table and before whatever it
  has without conditions; if there is no predicate, there is no line. -/
  selection : ∀ s : Selection, ∃ behind : String,
    (Statement.select (s.filteredBy [])).text = s.opening ++ behind ∧
      (Statement.select (s.filteredBy conditions)).text =
        s.opening ++ line (predicate.map fun text => "WHERE " ++ text) ++ behind
  /-- A change is restricted to what the predicate says; if there is none, to no rows. -/
  change : RestrictedTo conditions (predicate.getD "(false)")

/-- **What can be written is the same** without conditions that cannot. -/
theorem written_of_remain (h : Condition.Remain conditions remaining) :
    written remaining = written conditions := by
  induction h with
  | nil => rfl
  | keep c _ ih =>
    rw [written] at ih
    rw [written, written, List.filterMap_cons, List.filterMap_cons, ih, written]
  | drop hc _ ih =>
    rw [ih, written, written, List.filterMap_cons, hc]
    rfl

/-- Nothing is strung together if and only if there is nothing to write. -/
theorem strung_written_eq_none_iff :
    strung (written conditions) = none ↔ ∀ c ∈ conditions, c.text? = none := by
  have hnone : strung (written conditions) = none ↔ written conditions = [] := by
    cases written conditions <;> simp [strung]
  rw [hnone, written, List.filterMap_eq_nil_iff]
  exact forall₂_congr fun c _ => Option.map_eq_none_iff

/-- The conditions of a selection show in one line of its text. -/
theorem exists_text_filteredBy_eq (s : Selection) : ∃ behind : String, ∀ conditions,
    (Statement.select (s.filteredBy conditions)).text =
      s.opening ++ line (clause? "WHERE" conditions) ++ behind := by
  refine ⟨listLine "GROUP BY" s.clauses.groups ++ line (clause? "HAVING" s.clauses.having) ++
    listLine "ORDER BY" (s.clauses.order.map fun key => key.field ++ " " ++ key.direction.word) ++
    countLine "LIMIT" s.clauses.limit ++ countLine "OFFSET" s.clauses.offset ++ ";",
    fun conditions => ?_⟩
  rw [text]
  delta selectText Selection.opening
  simp only [Selection.filteredBy, String.append_assoc]
  rfl

/-- **Conditions state what can be written of them**, strung together. -/
theorem states_strung (conditions : List Condition) :
    States conditions (strung (written conditions)) where
  selection := by
    intro s
    obtain ⟨behind, htext⟩ := exists_text_filteredBy_eq s
    refine ⟨behind, ?_, ?_⟩
    · rw [htext, clause?, chain?, Option.map_none, line, String.append_empty]
    · have hword : (strung (written conditions)).map (fun text => "WHERE " ++ text) =
          clause? "WHERE" conditions := by
        rw [clause?, chain?_eq_strung]
        rfl
      rw [htext, hword]
  change := by
    rw [restrictedTo_iff, guarded, chain?_eq_strung]

/-- **All statements have one predicate for the same conditions**: the texts of those that can be
written, each behind its own connective but the first, which has none wherever it stood. There is no
predicate if none can be written, and the predicate is the same without those that cannot. -/
theorem states_of_remain (h : Condition.Remain conditions remaining) :
    States conditions (strung (written conditions)) ∧
      States remaining (strung (written conditions)) ∧
      (strung (written conditions) = none ↔ ∀ c ∈ conditions, c.text? = none) := by
  refine ⟨states_strung conditions, ?_, strung_written_eq_none_iff⟩
  rw [← written_of_remain h]
  exact states_strung remaining

/-- Conditions on a parcel: the first two and the last cannot be written. -/
def parcelAsked : List Condition :=
  [.oneOf "depot" [],
    { field := "weight", operand := .texts ["2"], operator := .between, connective := .or },
    { field := "street", operand := .text "O'Hara", operator := .like, connective := .or,
      negated := true },
    { field := "sent", operand := .single .null, operator := .isNull, connective := .or },
    { field := "paid", operand := .many [.bool true] }]

/-- The same conditions without the first and the last. -/
def parcelLeft : List Condition := (parcelAsked.drop 1).take 3

/-- The street goes without its connective, though it is the third condition. -/
theorem states_parcel :
    Condition.Remain parcelAsked parcelLeft ∧
      States parcelAsked (some "(NOT(street LIKE 'O''Hara')) OR (sent IS NULL)") ∧
      States parcelLeft (some "(NOT(street LIKE 'O''Hara')) OR (sent IS NULL)") := by
  have hremain : Condition.Remain parcelAsked parcelLeft :=
    .drop rfl <| .keep _ <| .keep _ <| .keep _ <| .drop rfl .nil
  have hstrung : strung (written parcelAsked) =
      some "(NOT(street LIKE 'O''Hara')) OR (sent IS NULL)" := by
    decide +kernel
  obtain ⟨hasked, hleft, -⟩ := states_of_remain hremain
  rw [hstrung] at hasked hleft
  exact ⟨hremain, hasked, hleft⟩

end Statement

end QueryGate
