import QueryGate.Proofs.Number.Numeral
import QueryGate.Proofs.Sql.Chain

/-!
# How statements are laid out

The words and values that each statement is made of, in order (`QueryGate.Statement.pieces`). They
spell its text (`QueryGate.Statement.spell_pieces`), each value has a word behind it
(`QueryGate.Statement.closed_pieces`), and which values they are can be told from the statement
without its text (`QueryGate.Statement.values_pieces`): those of the columns that are given values
and those of the conditions that can be written, in the order in which they stand in the statement.
A statement with other values has the same words (`QueryGate.Statement.pieces_mapValues`).
-/

namespace QueryGate

namespace Statement

/-! ### Statements -/

/-- The pieces of a line that lists something. -/
def listPieces (keyword : String) : List String → List Piece
  | [] => []
  | item :: items => .word ("\n" ++ keyword ++ " ") :: Piece.listed (item :: items)

/-- The pieces of the columns of a selection. -/
def columnPieces (columns : List Column) : List Piece :=
  if columns.isEmpty then [.word "*"] else Piece.listed (columns.map Column.name)

/-- **The pieces of a statement.** -/
def pieces : Statement → List Piece
  | .select s =>
    .word "SELECT " ::
      (columnPieces s.columns ++
        .word "\nFROM " :: .word s.table ::
          (clausePieces "\nWHERE " "" s.clauses.filters ++
            (listPieces "GROUP BY" s.clauses.groups ++
              (clausePieces "\nHAVING " "" s.clauses.having ++
                (listPieces "ORDER BY"
                    (s.clauses.order.map fun key => key.field ++ " " ++ key.direction.word) ++
                  [.word (countLine "LIMIT" s.clauses.limit),
                    .word (countLine "OFFSET" s.clauses.offset), .word ";"])))))
  | .insert table columns =>
    .word "INSERT INTO " :: .word table :: .word " (" ::
      (Piece.listed (columns.map Column.name) ++
        .word ")\nVALUES (" ::
          (Piece.joined (columns.map fun c => [.value (c.value.getD .null)]) ++ [.word ");"]))
  | .update table columns conditions =>
    .word "UPDATE " :: .word table :: .word "\nSET " ::
      (Piece.joined (columns.map fun c =>
          [.word c.name, .word " = ", .value (c.value.getD .null)]) ++
        .word "\nWHERE " :: (clausePieces "" "(false)" conditions ++ [.word ";"]))
  | .delete table conditions =>
    .word "DELETE FROM " :: .word table :: .word "\nWHERE " ::
      (clausePieces "" "(false)" conditions ++ [.word ";"])

/-- The values that a statement is written with: those of its columns, if it gives any, and those of
its conditions. -/
def values : Statement → List Scalar
  | .select s =>
    s.clauses.filters.flatMap Condition.values ++ s.clauses.having.flatMap Condition.values
  | .insert _ columns => columns.map fun c => c.value.getD .null
  | .update _ columns conditions =>
    (columns.map fun c => c.value.getD .null) ++ conditions.flatMap Condition.values
  | .delete _ conditions => conditions.flatMap Condition.values

/-- The names in a statement: of the table, of columns and of fields. -/
def identifiers : Statement → List String
  | .select s =>
    s.table :: (s.columns.map Column.name ++ s.clauses.filters.map Condition.field ++
      s.clauses.groups ++ s.clauses.having.map Condition.field ++ s.clauses.order.map SortKey.field)
  | .insert table columns => table :: columns.map Column.name
  | .update table columns conditions =>
    table :: (columns.map Column.name ++ conditions.map Condition.field)
  | .delete table conditions => table :: conditions.map Condition.field

@[simp] theorem spell_listPieces (keyword : String) (items : List String) :
    Piece.spell (listPieces keyword items) = listLine keyword items := by
  cases items <;> simp [listPieces, listLine, String.append_assoc]

@[simp] theorem spell_columnPieces (columns : List Column) :
    Piece.spell (columnPieces columns) = if columns.isEmpty then "*" else names columns := by
  rw [columnPieces]
  split <;> simp [names]

/-- **The text of a statement is spelt by its pieces.** -/
theorem spell_pieces (s : Statement) : Piece.spell s.pieces = s.text := by
  -- the texts are opened with `delta`, since the equation of so long a text is slow to make
  cases s with
  | select s =>
    have hfilters : line (clause? "WHERE" s.clauses.filters) =
        Piece.spell (clausePieces "\nWHERE " "" s.clauses.filters) :=
      line_clause?_eq "WHERE" _
    have hhaving : line (clause? "HAVING" s.clauses.having) =
        Piece.spell (clausePieces "\nHAVING " "" s.clauses.having) :=
      line_clause?_eq "HAVING" _
    rw [text]
    delta selectText
    simp only [pieces, hfilters, hhaving, Piece.spell_cons, Piece.spell_append, Piece.spell_nil,
      Piece.text_word, spell_columnPieces, spell_listPieces, String.append_assoc,
      String.append_empty]
  | insert table columns =>
    have hvalue : valueText = fun column => (column.value.getD .null).literal := rfl
    rw [text]
    delta insertText
    simp [pieces, names, hvalue, Function.comp_def, String.append_assoc]
  | update table columns conditions =>
    rw [text]
    delta updateText
    simp [pieces, guarded_eq, valueText, Function.comp_def, String.append_assoc]
  | delete table conditions =>
    rw [text]
    delta deleteText
    simp [pieces, guarded_eq, String.append_assoc]

/-! ### What is true of all pieces -/

theorem values_listPieces (keyword : String) (items : List String) :
    Piece.values (listPieces keyword items) = [] := by
  cases items <;> simp [listPieces]

theorem values_columnPieces (columns : List Column) : Piece.values (columnPieces columns) = [] := by
  rw [columnPieces]
  split <;> simp

/-- **Each value of a statement is followed by a word.** -/
theorem closed_pieces (s : Statement) : Piece.Closed s.pieces := by
  cases s with
  | select s =>
    have hlist : ∀ keyword items, Piece.Closed (listPieces keyword items) := fun keyword items =>
      Piece.closed_of_values_eq_nil (values_listPieces keyword items)
    refine (Piece.closed_of_values_eq_nil (values_columnPieces _)).append ?_
    refine (closed_clausePieces _ _ _).append ((hlist _ _).append ?_)
    exact (closed_clausePieces _ _ _).append ((hlist _ _).append Piece.closed_nil)
  | insert table columns =>
    refine (Piece.closed_of_values_eq_nil (Piece.values_listed _)).append ?_
    refine Piece.Closable.closed_append (Piece.closable_joined fun part hpart => ?_) (by decide)
    obtain ⟨column, -, rfl⟩ := List.mem_map.mp hpart
    exact Piece.closable_value _
  | update table columns conditions =>
    have hcolumns : Piece.Closable (Piece.joined (columns.map fun c =>
        [.word c.name, .word " = ", .value (c.value.getD .null)])) := by
      refine Piece.closable_joined fun part hpart => ?_
      obtain ⟨column, -, rfl⟩ := List.mem_map.mp hpart
      exact ((Piece.closable_value _).cons_word _).cons_word _
    exact hcolumns _ _ (by decide) ((closed_clausePieces _ _ _).append Piece.closed_nil)
  | delete table conditions => exact (closed_clausePieces _ _ _).append Piece.closed_nil

/-- **The values among the pieces of a statement** are those it is written with. -/
theorem values_pieces (s : Statement) : Piece.values s.pieces = s.values := by
  cases s with
  | select s =>
    simp [pieces, values, values_columnPieces, values_listPieces, values_clausePieces]
  | insert table columns =>
    simp [pieces, values, List.flatMap_map, ← List.map_eq_flatMap]
  | update table columns conditions =>
    simp [pieces, values, values_clausePieces, List.flatMap_map, ← List.map_eq_flatMap]
  | delete table conditions => simp [pieces, values, values_clausePieces]

/-- **That no name in a statement has a quote in it.** -/
def QuoteFree (s : Statement) : Prop := ∀ name ∈ s.identifiers, '\x27' ∉ name.toList

instance (s : Statement) : Decidable s.QuoteFree :=
  inferInstanceAs (Decidable (∀ name ∈ s.identifiers, '\x27' ∉ name.toList))

/-- A line with a number has no quotes. -/
theorem quote_not_mem_countLine {keyword : String} (h : '\x27' ∉ keyword.toList)
    (count : Option UInt64) : '\x27' ∉ (countLine keyword count).toList := by
  cases count with
  | none => exact List.not_mem_nil
  | some n =>
    have hdigits : '\x27' ∉ Decimal.digits n.toNat := Decimal.not_mem_digits (by decide) _
    simp [countLine, Decimal.ofNat, h, hdigits]

theorem unquoted_listPieces {keyword : String} (h : '\x27' ∉ keyword.toList)
    {items : List String} (hitems : ∀ item ∈ items, '\x27' ∉ item.toList) :
    Piece.Unquoted (listPieces keyword items) := by
  cases items with
  | nil => exact Piece.unquoted_nil
  | cons item items =>
    have hopening : '\x27' ∉ ("\n" ++ keyword ++ " ").toList := by
      simp [h]
    exact .word hopening (Piece.unquoted_listed hitems)

theorem unquoted_columnPieces {columns : List Column}
    (h : ∀ column ∈ columns, '\x27' ∉ column.name.toList) :
    Piece.Unquoted (columnPieces columns) := by
  rw [columnPieces]
  split
  · exact .word (by decide) Piece.unquoted_nil
  · exact Piece.unquoted_listed (List.forall_mem_map.mpr h)

/-- **The words of a statement have quotes only if its names have.** -/
theorem unquoted_pieces {s : Statement} (h : s.QuoteFree) : Piece.Unquoted s.pieces := by
  cases s with
  | select s =>
    simp only [QuoteFree, identifiers, List.forall_mem_cons, List.forall_mem_append,
      List.forall_mem_map] at h
    obtain ⟨htable, ⟨⟨⟨hcolumns, hfilters⟩, hgroups⟩, hhaving⟩, horder⟩ := h
    have hkeys : Piece.Unquoted (listPieces "ORDER BY"
        (s.clauses.order.map fun key => key.field ++ " " ++ key.direction.word)) := by
      refine unquoted_listPieces (by decide) (List.forall_mem_map.mpr fun key hkey => ?_)
      have hword : '\x27' ∉ key.direction.word.toList := by
        cases key.direction <;> decide
      simp [horder key hkey, hword]
    have hcounts : Piece.Unquoted
        [.word (countLine "LIMIT" s.clauses.limit), .word (countLine "OFFSET" s.clauses.offset),
          .word ";"] :=
      .word (quote_not_mem_countLine (by decide) _) <|
        .word (quote_not_mem_countLine (by decide) _) <| .word (by decide) Piece.unquoted_nil
    refine .word (by decide) <| .append (unquoted_columnPieces hcolumns) ?_
    refine .word (by decide) <| .word htable ?_
    refine .append (unquoted_clausePieces (by decide) (by decide) hfilters) ?_
    refine .append (unquoted_listPieces (by decide) hgroups) ?_
    exact .append (unquoted_clausePieces (by decide) (by decide) hhaving) (hkeys.append hcounts)
  | insert table columns =>
    simp only [QuoteFree, identifiers, List.forall_mem_cons, List.forall_mem_map] at h
    have hvalues : Piece.Unquoted
        (Piece.joined (columns.map fun c => [.value (c.value.getD .null)])) := by
      refine Piece.unquoted_joined (List.forall_mem_map.mpr fun column _ => ?_)
      exact Piece.unquoted_cons_value.mpr Piece.unquoted_nil
    refine .word (by decide) <| .word h.1 <| .word (by decide) ?_
    refine .append (Piece.unquoted_listed (List.forall_mem_map.mpr h.2)) <| .word (by decide) ?_
    exact hvalues.append (.word (by decide) Piece.unquoted_nil)
  | update table columns conditions =>
    simp only [QuoteFree, identifiers, List.forall_mem_cons, List.forall_mem_append,
      List.forall_mem_map] at h
    obtain ⟨htable, hcolumns, hconditions⟩ := h
    have hassignments : Piece.Unquoted (Piece.joined (columns.map fun c =>
        [.word c.name, .word " = ", .value (c.value.getD .null)])) := by
      refine Piece.unquoted_joined (List.forall_mem_map.mpr fun column hcolumn => ?_)
      exact .word (hcolumns column hcolumn) <| .word (by decide) <|
        Piece.unquoted_cons_value.mpr Piece.unquoted_nil
    refine .word (by decide) <| .word htable <| .word (by decide) <| .append hassignments ?_
    refine .word (by decide) ?_
    refine .append (unquoted_clausePieces (by decide) (by decide) hconditions) ?_
    exact .word (by decide) Piece.unquoted_nil
  | delete table conditions =>
    simp only [QuoteFree, identifiers, List.forall_mem_cons, List.forall_mem_map] at h
    refine .word (by decide) <| .word h.1 <| .word (by decide) ?_
    refine .append (unquoted_clausePieces (by decide) (by decide) h.2) ?_
    exact .word (by decide) Piece.unquoted_nil

/-! ### Other values -/

/-- **A statement with other scalars in the place of its own**, wherever it has any. -/
def mapValues (f : Scalar → Scalar) : Statement → Statement
  | .select s => .select ⟨s.table, s.columns.map (Column.mapValue f), s.clauses.mapValues f⟩
  | .insert table columns => .insert table (columns.map (Column.mapValue f))
  | .update table columns conditions =>
    .update table (columns.map (Column.mapValue f)) (conditions.map (Condition.mapValues f))
  | .delete table conditions => .delete table (conditions.map (Condition.mapValues f))

/-- Other scalars leave the names as they are. -/
@[simp] theorem identifiers_mapValues (f : Scalar → Scalar) (s : Statement) :
    (s.mapValues f).identifiers = s.identifiers := by
  cases s <;>
    simp [mapValues, identifiers, Column.mapValue, Clauses.mapValues, Condition.mapValues,
      Function.comp_def]

/-- **With other scalars, a statement has the same pieces with other values**, if what stands for no
value stays. -/
theorem pieces_mapValues {f : Scalar → Scalar} (hf : f .null = .null) (s : Statement) :
    (s.mapValues f).pieces = s.pieces.map (Piece.mapValue f) := by
  have hvalue : ∀ value : Option Scalar, (value.map f).getD .null = f (value.getD .null) := by
    rintro (_ | s)
    · exact hf.symm
    · rfl
  have hlist : ∀ keyword items, (listPieces keyword items).map (Piece.mapValue f) =
      listPieces keyword items := by
    rintro keyword (_ | ⟨item, items⟩) <;> simp [listPieces]
  cases s with
  | select s =>
    have hcolumns : (columnPieces s.columns).map (Piece.mapValue f) =
        columnPieces (s.columns.map (Column.mapValue f)) := by
      rw [columnPieces, columnPieces, List.isEmpty_map]
      split <;> simp [Column.mapValue, Function.comp_def]
    simp [mapValues, Clauses.mapValues, pieces, hcolumns, hlist, clausePieces_map_mapValues]
  | insert table columns => simp [mapValues, pieces, Column.mapValue, hvalue, Function.comp_def]
  | update table columns conditions =>
    simp [mapValues, pieces, Column.mapValue, hvalue, clausePieces_map_mapValues, Function.comp_def]
  | delete table conditions => simp [mapValues, pieces, clausePieces_map_mapValues]

end Statement

end QueryGate
