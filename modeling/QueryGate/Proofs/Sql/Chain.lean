import Mathlib.Data.List.Basic
import QueryGate.Proofs.Sql.Piece

/-!
# How conditions are laid out

The words and values that a condition is made of (`QueryGate.Condition.pieces?`), and those of a
clause of conditions (`QueryGate.Statement.clausePieces`). They spell the text, and it can be told
from a condition without its text which values they are (`QueryGate.Condition.values_eq`).

## Shapes

A condition that can be written has one of five shapes (`QueryGate.Condition.Laid`), and whatever is
to hold of the pieces of a condition is shown of these.

## Chains

A condition that can be written is a *link*, and what is written of a list of conditions is made of
its links alone (`QueryGate.Statement.chain?_eq`). A condition that cannot be written leaves no
trace.
-/

namespace QueryGate

/-! ### Other values -/

/-- A column with another value, if it has one. -/
def Column.mapValue (f : Scalar → Scalar) (column : Column) : Column :=
  { column with value := column.value.map f }

/-- An operand with other scalars in the place of its own. -/
def Operand.mapValues (f : Scalar → Scalar) : Operand → Operand
  | .single s => .single (f s)
  | .many items => .many (items.map f)

/-- A condition with other scalars in the place of its own. -/
def Condition.mapValues (f : Scalar → Scalar) (c : Condition) : Condition :=
  { c with operand := c.operand.mapValues f }

/-- Clauses with other scalars in their conditions. -/
def Clauses.mapValues (f : Scalar → Scalar) (clauses : Clauses) : Clauses :=
  { clauses with
    filters := clauses.filters.map (Condition.mapValues f)
    having := clauses.having.map (Condition.mapValues f) }

/-! ### Conditions -/

/-- The word between a field and a single operand, for the operators that are negated from
outside. -/
def Operator.comparison? : Operator → Option String
  | .like => some " LIKE "
  | .less => some " < "
  | .lessOrEqual => some " <= "
  | .greater => some " > "
  | .greaterOrEqual => some " >= "
  | _ => none

/-- Such a word is no place for a quote. -/
theorem Operator.quote_not_mem_comparison? {operator : Operator} {w : String}
    (h : operator.comparison? = some w) : '\x27' ∉ w.toList := by
  cases operator <;> cases h <;> decide

/-- The scalars of an operand. -/
def Operand.scalars : Operand → List Scalar
  | .single s => [s]
  | .many items => items

namespace Condition

/-- **The scalars that a condition is written with**: those of its operand, if it can be written and
does not just ask for the absence of a value. -/
def values (c : Condition) : List Scalar :=
  if c.text?.isSome ∧ c.operator ≠ .isNull then c.operand.scalars else []

/-- The pieces of a condition before its negation, for the operators that are negated from
outside. -/
def barePieces? (field : String) : Operator → Operand → Option (List Piece)
  | .between, .many [low, high] =>
    some [.word field, .word " BETWEEN ", .value low, .word " AND ", .value high]
  | .oneOf, .many (item :: items) =>
    some (.word field :: .word " IN (" ::
      (Piece.joined ((item :: items).map fun s => [.value s]) ++ [.word ")"]))
  | operator, .single s =>
    operator.comparison?.map fun comparison => [.word field, .word comparison, .value s]
  | _, _ => none

/-- **The pieces of a condition**, if it can be written. -/
def pieces? (c : Condition) : Option (List Piece) :=
  match c.operator, c.operand with
  | .equal, .single s | .group, .single s =>
    some [.word c.field, .word (if c.negated then " <> " else " = "), .value s]
  | .isNull, _ =>
    some [.word c.field, .word (if c.negated then " IS NOT NULL" else " IS NULL")]
  | operator, operand =>
    (barePieces? c.field operator operand).map fun pieces =>
      if c.negated then .word "NOT(" :: (pieces ++ [.word ")"]) else pieces

/-- What a condition says of its field, before its negation, is spelt by its pieces. -/
theorem bare_eq (field : String) (operator : Operator) (operand : Operand) :
    bare field operator operand = (barePieces? field operator operand).map Piece.spell := by
  -- lists are told apart as far as a range tells them apart: of no, one, two and more scalars
  rcases operand with s | (_ | ⟨low, _ | ⟨high, _ | ⟨third, rest⟩⟩⟩) <;> cases operator <;>
    simp [bare, barePieces?, Operator.comparison?, Function.comp_def, String.append_assoc]

/-- **The text of a condition is spelt by its pieces**, and there is one if there are pieces. -/
theorem text?_eq (c : Condition) : c.text? = c.pieces?.map Piece.spell := by
  obtain ⟨field, operand, operator, connective, negated⟩ := c
  cases negated <;> cases operator <;> cases operand <;>
    simp [text?, pieces?, bare_eq, Function.comp_def, String.append_assoc]

/-- With other scalars, a condition has the same pieces with other values. -/
theorem pieces?_mapValues (f : Scalar → Scalar) (c : Condition) :
    (c.mapValues f).pieces? = c.pieces?.map (List.map (Piece.mapValue f)) := by
  have hbare : barePieces? c.field c.operator (c.operand.mapValues f) =
      (barePieces? c.field c.operator c.operand).map (List.map (Piece.mapValue f)) := by
    rcases c.operand with s | (_ | ⟨low, _ | ⟨high, _ | ⟨third, rest⟩⟩⟩) <;> cases c.operator <;>
      simp [barePieces?, Operand.mapValues, Operator.comparison?, Function.comp_def]
  obtain ⟨field, operand, operator, connective, negated⟩ := c
  cases negated <;> cases operator <;> cases operand <;>
    simp_all [mapValues, pieces?, Operand.mapValues, Function.comp_def]

/-- **The shapes of a condition**, by its field, its operator and its operand. -/
inductive Laid (field : String) : Operator → Operand → List Piece → Prop
  /-- The absence of a value. -/
  | absence (operand : Operand) {w : String} (unquoted : '\x27' ∉ w.toList) :
      Laid field .isNull operand [.word field, .word w]
  /-- A comparison with one scalar. -/
  | comparison {operator : Operator} (h : operator ≠ .isNull) (s : Scalar) {w : String}
      (unquoted : '\x27' ∉ w.toList) :
      Laid field operator (.single s) [.word field, .word w, .value s]
  /-- A range. -/
  | range {operator : Operator} (h : operator ≠ .isNull) (low high : Scalar) :
      Laid field operator (.many [low, high])
        [.word field, .word " BETWEEN ", .value low, .word " AND ", .value high]
  /-- A list of alternatives. -/
  | alternatives {operator : Operator} (h : operator ≠ .isNull) (items : List Scalar) :
      Laid field operator (.many items)
        (.word field :: .word " IN (" ::
          (Piece.joined (items.map fun s => [.value s]) ++ [.word ")"]))
  /-- The denial of another shape. -/
  | denial {operator : Operator} (h : operator ≠ .isNull) {operand : Operand}
      {pieces : List Piece} (laid : Laid field operator operand pieces) :
      Laid field operator operand (.word "NOT(" :: (pieces ++ [.word ")"]))

/-- Before its negation a condition has one of these shapes. -/
theorem laid_of_barePieces? {field : String} {operator : Operator} (hoperator : operator ≠ .isNull)
    {operand : Operand} {pieces : List Piece}
    (h : barePieces? field operator operand = some pieces) :
    Laid field operator operand pieces := by
  rw [barePieces?.eq_def] at h
  split at h
  · obtain rfl := Option.some.inj h
    exact .range hoperator _ _
  · obtain rfl := Option.some.inj h
    exact .alternatives hoperator _
  · obtain ⟨comparison, hcomparison, rfl⟩ := Option.map_eq_some_iff.mp h
    exact .comparison hoperator _ (Operator.quote_not_mem_comparison? hcomparison)
  · exact absurd h (by simp)

/-- **A condition that can be written has one of these shapes.** -/
theorem laid_of_pieces? {c : Condition} {pieces : List Piece} (h : c.pieces? = some pieces) :
    Laid c.field c.operator c.operand pieces := by
  -- the cases are those of the definition: equality, a group, absence, and what is left
  rw [pieces?] at h
  split at h
  · next s hoperator hoperand =>
    obtain rfl := Option.some.inj h
    rw [hoperand]
    refine .comparison (by simp [hoperator]) s ?_
    split <;> decide
  · next s hoperator hoperand =>
    obtain rfl := Option.some.inj h
    rw [hoperand]
    refine .comparison (by simp [hoperator]) s ?_
    split <;> decide
  · next hoperator =>
    obtain rfl := Option.some.inj h
    rw [hoperator]
    refine .absence c.operand ?_
    split <;> decide
  · next hoperator _ _ =>
    obtain ⟨inner, hinner, rfl⟩ := Option.map_eq_some_iff.mp h
    have hlaid := laid_of_barePieces? hoperator hinner
    split
    · exact .denial hoperator hlaid
    · exact hlaid

namespace Laid

variable {field : String} {operator : Operator} {operand : Operand} {pieces : List Piece}

/-- A condition may end with a value, but that is closed by whatever word comes next. -/
theorem closable (h : Laid field operator operand pieces) : Piece.Closable pieces := by
  induction h with
  | absence operand unquoted => exact (Piece.closable_nil.cons_word _).cons_word field
  | comparison hoperator s unquoted =>
    exact ((Piece.closable_value s).cons_word _).cons_word field
  | range hoperator low high =>
    refine Piece.Closable.cons_word (Piece.Closable.cons_word ?_ _) field
    exact (Piece.closable_value low).append_word (by decide) (Piece.closable_value high)
  | alternatives hoperator items =>
    refine Piece.Closable.cons_word (Piece.Closable.cons_word ?_ _) field
    refine (Piece.closable_joined fun part hpart => ?_).append_word (by decide) Piece.closable_nil
    obtain ⟨s, -, rfl⟩ := List.mem_map.mp hpart
    exact Piece.closable_value s
  | denial hoperator laid ih =>
    exact Piece.Closable.cons_word (ih.append_word (by decide) Piece.closable_nil) _

/-- The words of a condition have quotes only if its field has. -/
theorem unquoted (h : Laid field operator operand pieces) (hfield : '\x27' ∉ field.toList) :
    Piece.Unquoted pieces := by
  induction h with
  | absence operand unquoted => simp [hfield, unquoted]
  | comparison hoperator s unquoted => simp [hfield, unquoted]
  | range hoperator low high => simp [hfield]
  | alternatives hoperator items =>
    have hitems : Piece.Unquoted (Piece.joined (items.map fun s => [Piece.value s])) := by
      refine Piece.unquoted_joined fun part hpart => ?_
      obtain ⟨s, -, rfl⟩ := List.mem_map.mp hpart
      simp
    simp [hfield, hitems]
  | denial hoperator laid ih => simp [ih]

/-- The values of a condition are the scalars of its operand. -/
theorem values (h : Laid field operator operand pieces) :
    Piece.values pieces = if operator ≠ .isNull then operand.scalars else [] := by
  induction h with
  | absence operand unquoted => simp
  | comparison hoperator s unquoted => simp [hoperator, Operand.scalars]
  | range hoperator low high => simp [hoperator, Operand.scalars]
  | alternatives hoperator items => simp [hoperator, Operand.scalars, List.flatMap_map]
  | denial hoperator laid ih => simp [ih]

end Laid

/-- **The values of a condition that can be written** are the scalars it is written with. -/
theorem values_eq {c : Condition} {pieces : List Piece} (h : c.pieces? = some pieces) :
    c.values = Piece.values pieces := by
  rw [(laid_of_pieces? h).values, values, text?_eq, h]
  simp

/-- A condition that cannot be written is written with nothing. -/
theorem values_eq_nil {c : Condition} (h : c.pieces? = none) : c.values = [] := by
  rw [values, text?_eq, h]
  simp

/-- **The pieces of a condition** with the connective by which it joins those before it, if it can
be written. -/
def link? (c : Condition) : Option (Connective × List Piece) :=
  c.pieces?.map fun pieces => (c.connective, pieces)

/-- The links that some conditions make. -/
def links (conditions : List Condition) : List (Connective × List Piece) :=
  conditions.filterMap link?

/-- A link is made of the pieces of a condition. -/
theorem exists_of_mem_links {conditions : List Condition} {link : Connective × List Piece}
    (h : link ∈ links conditions) : ∃ c ∈ conditions, c.pieces? = some link.2 := by
  obtain ⟨c, hc, hlink⟩ := List.mem_filterMap.mp h
  obtain ⟨pieces, hpieces, rfl⟩ := Option.map_eq_some_iff.mp hlink
  exact ⟨c, hc, hpieces⟩

/-- **The values of links** are the scalars that the conditions are written with. -/
theorem values_links (conditions : List Condition) :
    ((links conditions).flatMap fun link => Piece.values link.2) = conditions.flatMap values := by
  induction conditions with
  | nil => rfl
  | cons c rest ih =>
    cases hc : c.pieces? with
    | none => simpa [links, link?, hc, values_eq_nil hc] using ih
    | some pieces => simpa [links, link?, hc, values_eq hc] using ih

/-- With other scalars, conditions make the same links with other values. -/
theorem links_map_mapValues (f : Scalar → Scalar) (conditions : List Condition) :
    links (conditions.map (mapValues f)) =
      (links conditions).map fun link => (link.1, link.2.map (Piece.mapValue f)) := by
  rw [links, links, List.filterMap_map, List.map_filterMap]
  refine List.filterMap_congr fun c _ => ?_
  rw [Function.comp_apply, link?, pieces?_mapValues, link?, Option.map_map, Option.map_map]
  rfl

end Condition

/-! ### Chains -/

namespace Statement

/-- A condition in parentheses behind others. -/
def joint (link : Connective × List Piece) : List Piece :=
  .word (" " ++ link.1.word ++ " (") :: (link.2 ++ [.word ")"])

/-- **The pieces of a chain**, if there is anything in it. -/
def chained : List (Connective × List Piece) → Option (List Piece)
  | [] => none
  | first :: rest => some (.word "(" :: (first.2 ++ .word ")" :: rest.flatMap joint))

/-- A chain goes on with the links of its further conditions. -/
theorem chainAfter_eq (text : String) (conditions : List Condition) :
    chainAfter text conditions =
      text ++ Piece.spell ((Condition.links conditions).flatMap joint) := by
  induction conditions generalizing text with
  | nil => simp [chainAfter, Condition.links]
  | cons c rest ih =>
    rw [chainAfter, Condition.text?_eq]
    cases hc : c.pieces? with
    | none => simp [Condition.links, Condition.link?, hc, ih]
    | some pieces => simp [Condition.links, Condition.link?, hc, ih, joint, String.append_assoc]

/-- **The text of a chain is spelt by its links.** -/
theorem chain?_eq (conditions : List Condition) :
    chain? conditions = (chained (Condition.links conditions)).map Piece.spell := by
  induction conditions with
  | nil => rfl
  | cons c rest ih =>
    rw [chain?, Condition.text?_eq]
    cases hc : c.pieces? with
    | none => simp [Condition.links, Condition.link?, hc, ih]
    | some pieces =>
      simp [Condition.links, Condition.link?, hc, chained, chainAfter_eq, String.append_assoc]

section Chained

variable {links : List (Connective × List Piece)} {pieces : List Piece}

/-- Links that are closed by a word make a closed chain. -/
theorem closed_of_chained (h : chained links = some pieces)
    (hlinks : ∀ link ∈ links, Piece.Closable link.2) : Piece.Closed pieces := by
  cases links with
  | nil => exact absurd h (by simp [chained])
  | cons first rest =>
    obtain rfl := Option.some.inj h
    obtain ⟨hfirst, hrest⟩ := List.forall_mem_cons.mp hlinks
    refine hfirst ")" _ (by decide) (Piece.closed_flatMap fun link hlink => ?_)
    exact (hrest link hlink).closed_append (by decide)

/-- Links without quotes make a chain without quotes. -/
theorem unquoted_of_chained (h : chained links = some pieces)
    (hlinks : ∀ link ∈ links, Piece.Unquoted link.2) : Piece.Unquoted pieces := by
  cases links with
  | nil => exact absurd h (by simp [chained])
  | cons first rest =>
    obtain rfl := Option.some.inj h
    obtain ⟨hfirst, hrest⟩ := List.forall_mem_cons.mp hlinks
    have hjoints : Piece.Unquoted (rest.flatMap joint) := by
      refine Piece.unquoted_flatMap fun link hlink => ?_
      have hword : '\x27' ∉ link.1.word.toList := by
        cases link.1 <;> decide
      simp [joint, hword, hrest link hlink]
    simp [hfirst, hjoints]

/-- The values of a chain are those of its links. -/
theorem values_of_chained (h : chained links = some pieces) :
    Piece.values pieces = links.flatMap fun link => Piece.values link.2 := by
  cases links with
  | nil => exact absurd h (by simp [chained])
  | cons first rest =>
    obtain rfl := Option.some.inj h
    simp [joint, Piece.values_flatMap]

/-- A chain of the same links with other values is the same chain with other values. -/
theorem chained_map (f : Scalar → Scalar) :
    chained (links.map fun link => (link.1, link.2.map (Piece.mapValue f))) =
      (chained links).map (List.map (Piece.mapValue f)) := by
  cases links with
  | nil => rfl
  | cons first rest => simp [chained, joint, List.map_flatMap, List.flatMap_map]

end Chained

/-! ### Clauses -/

/-- **The pieces of a clause of conditions**: an opening and the chain, or something else if there
is no chain. -/
def clausePieces (opening otherwise : String) (conditions : List Condition) : List Piece :=
  match chained (Condition.links conditions) with
  | none => [.word otherwise]
  | some pieces => .word opening :: pieces

section Clause

variable (opening otherwise : String) {conditions : List Condition}

/-- A clause of a selection is left out if there is no chain. -/
theorem line_clause?_eq (keyword : String) (conditions : List Condition) :
    line (clause? keyword conditions) =
      Piece.spell (clausePieces ("\n" ++ keyword ++ " ") "" conditions) := by
  rw [clause?, chain?_eq, clausePieces]
  cases chained (Condition.links conditions) <;> simp [line, String.append_assoc]

/-- A change without a chain changes nothing. -/
theorem guarded_eq (conditions : List Condition) :
    guarded conditions = Piece.spell (clausePieces "" "(false)" conditions) := by
  rw [guarded, chain?_eq, clausePieces]
  cases chained (Condition.links conditions) <;> simp

theorem closed_clausePieces (conditions : List Condition) :
    Piece.Closed (clausePieces opening otherwise conditions) := by
  rw [clausePieces]
  split
  · exact Piece.closed_nil
  · next hchained =>
    refine (Piece.closed_cons_word _ _).mpr (closed_of_chained hchained fun link hlink => ?_)
    obtain ⟨c, -, hc⟩ := Condition.exists_of_mem_links hlink
    exact (Condition.laid_of_pieces? hc).closable

theorem unquoted_clausePieces {opening otherwise : String} (hopening : '\x27' ∉ opening.toList)
    (hotherwise : '\x27' ∉ otherwise.toList)
    (h : ∀ c ∈ conditions, '\x27' ∉ c.field.toList) :
    Piece.Unquoted (clausePieces opening otherwise conditions) := by
  rw [clausePieces]
  split
  · exact .word hotherwise Piece.unquoted_nil
  · next hchained =>
    refine .word hopening (unquoted_of_chained hchained fun link hlink => ?_)
    obtain ⟨c, hc, hpieces⟩ := Condition.exists_of_mem_links hlink
    exact (Condition.laid_of_pieces? hpieces).unquoted (h c hc)

/-- The values of a clause are those of its conditions. -/
theorem values_clausePieces (conditions : List Condition) :
    Piece.values (clausePieces opening otherwise conditions) =
      conditions.flatMap Condition.values := by
  rw [clausePieces, ← Condition.values_links]
  cases hlinks : Condition.links conditions with
  | nil => rfl
  | cons first rest =>
    have hchained : chained (first :: rest) = some _ := rfl
    have hvalues := values_of_chained hchained
    exact hvalues

theorem clausePieces_map_mapValues (f : Scalar → Scalar) (conditions : List Condition) :
    clausePieces opening otherwise (conditions.map (Condition.mapValues f)) =
      (clausePieces opening otherwise conditions).map (Piece.mapValue f) := by
  rw [clausePieces, clausePieces, Condition.links_map_mapValues, chained_map]
  cases chained (Condition.links conditions) <;> rfl

end Clause

end Statement

end QueryGate
