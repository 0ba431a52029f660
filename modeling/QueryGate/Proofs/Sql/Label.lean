import QueryGate.Sql.Statement

/-!
# Under which name a column is answered

The name of a column is what stands in the text of a request. It may be an expression with a name of
its own after ` AS `, and then that name is the one under which the answer carries the value: the
*label* of the column. A name without ` AS ` is its own label. Where an expression itself contains
` AS `, the last one counts, so a name that is made by putting ` AS ` and a label without blanks
behind any expression has that label (`QueryGate.Column.label_alias`).
-/

namespace QueryGate.Column

/-- What stands between an expression and its label. -/
def aliasMark : List Char := [' ', 'A', 'S', ' ']

/-- The expression and the label of a name, if it has both. -/
def splitAlias? : List Char → Option (List Char × List Char)
  | [] => none
  | c :: cs =>
    match splitAlias? cs with
    | some (source, label) => some (c :: source, label)
    | none => if aliasMark.isPrefixOf (c :: cs) then some ([], (c :: cs).drop 4) else none

/-- **What a column is the value of.** -/
def source (column : Column) : String :=
  match splitAlias? column.name.toList with
  | some (source, _) => String.ofList source
  | none => column.name

/-- **The name under which a column is answered.** -/
def label (column : Column) : String :=
  match splitAlias? column.name.toList with
  | some (_, label) => String.ofList label
  | none => column.name

/-- The mark opens nowhere but before a blank. -/
theorem isPrefixOf_aliasMark {c : Char} {cs : List Char} (h : ' ' ∉ cs) :
    aliasMark.isPrefixOf (c :: cs) = false := by
  rw [Bool.eq_false_iff]
  intro hmark
  obtain ⟨rest, hrest⟩ := List.isPrefixOf_iff_prefix.mp hmark
  obtain ⟨-, rfl⟩ := List.cons_eq_cons.mp hrest
  exact h (by simp)

/-- A name without blanks, but perhaps for its first character, has no alias. -/
theorem splitAlias?_of_no_blank {cs : List Char} (h : ' ' ∉ cs.tail) : splitAlias? cs = none := by
  induction cs with
  | nil => rfl
  | cons c cs ih =>
    have hcs : ' ' ∉ cs := h
    have hrest : splitAlias? cs = none := ih fun hmem => hcs (List.mem_of_mem_tail hmem)
    simp [splitAlias?, hrest, isPrefixOf_aliasMark hcs]

/-- **An expression, the mark and a label without blanks are told apart**, whatever the
expression. -/
theorem splitAlias?_append (source : List Char) {label : List Char} (h : ' ' ∉ label) :
    splitAlias? (source ++ (aliasMark ++ label)) = some (source, label) := by
  induction source with
  | nil =>
    -- the last blank of the mark opens no other one, since no blank follows it
    have hblank : splitAlias? (' ' :: label) = none := splitAlias?_of_no_blank h
    have hS : splitAlias? ('S' :: ' ' :: label) = none := by
      rw [splitAlias?, hblank]
      rfl
    have hA : splitAlias? ('A' :: 'S' :: ' ' :: label) = none := by
      rw [splitAlias?, hS]
      rfl
    change splitAlias? (' ' :: 'A' :: 'S' :: ' ' :: label) = some ([], label)
    rw [splitAlias?, hA]
    rfl
  | cons c cs ih => rw [List.cons_append, splitAlias?, ih]

/-- **The label of a column with an alias** without blanks is that alias. -/
theorem label_alias (source : String) {label : String} (h : ' ' ∉ label.toList)
    (value : Option Scalar) :
    Column.label { name := source ++ " AS " ++ label, value } = label := by
  have hsplit := splitAlias?_append source.toList h
  simp only [Column.label, String.toList_append, List.append_assoc]
  rw [show " AS ".toList = aliasMark from rfl, hsplit]
  exact String.ofList_toList

/-- **The expression of a column with an alias** without blanks. -/
theorem source_alias (source : String) {label : String} (h : ' ' ∉ label.toList)
    (value : Option Scalar) :
    Column.source { name := source ++ " AS " ++ label, value } = source := by
  have hsplit := splitAlias?_append source.toList h
  simp only [Column.source, String.toList_append, List.append_assoc]
  rw [show " AS ".toList = aliasMark from rfl, hsplit]
  exact String.ofList_toList

end QueryGate.Column
