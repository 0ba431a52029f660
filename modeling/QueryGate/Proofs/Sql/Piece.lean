import QueryGate.Sql.Statement

/-!
# Texts of words and values

The text of a statement is a string, but it is put together from two kinds of things: words, which
are written as they are, and values, which are written as literals. What is to be known of such a
text can be shown of the list of its pieces, and this module says what there is to know of lists of
them.

## Where values stand

In a statement no two values stand side by side, and none stands at the end: each is followed by a
word that is not empty (`QueryGate.Piece.Closed`). The parts of a statement need not be like that by
themselves, since a condition may end with a value; it is enough that they are once a word follows
(`QueryGate.Piece.Closable`).
-/

namespace QueryGate

/-- **A piece of a statement.** -/
inductive Piece where
  /-- Something that is written as it is. -/
  | word (text : String)
  /-- A value, which is written as a literal. -/
  | value (s : Scalar)
  deriving DecidableEq, Repr

namespace Piece

/-- The text of a piece. -/
def text : Piece → String
  | .word w => w
  | .value s => s.literal

/-- **The text of some pieces**, one after another. -/
def spell : List Piece → String
  | [] => ""
  | piece :: rest => piece.text ++ spell rest

/-- The values among some pieces. -/
def values (pieces : List Piece) : List Scalar :=
  pieces.filterMap fun
    | .word _ => none
    | .value s => some s

/-- Parts with commas between them. -/
def joined : List (List Piece) → List Piece
  | [] => []
  | [part] => part
  | part :: next :: rest => part ++ .word ", " :: joined (next :: rest)

/-- Names with commas between them. -/
def listed (names : List String) : List Piece := joined (names.map fun name => [word name])

/-- A piece with another value in the place of its value. -/
def mapValue (f : Scalar → Scalar) : Piece → Piece
  | .word w => .word w
  | .value s => .value (f s)

/-- **That each value is followed by a word** that is not empty. -/
def Closed : List Piece → Prop
  | [] => True
  | .word _ :: rest => Closed rest
  | .value _ :: .word w :: rest => w ≠ "" ∧ Closed rest
  | .value _ :: _ => False

/-- That some pieces are closed once a word follows them. -/
def Closable (pieces : List Piece) : Prop :=
  ∀ (w : String) (rest : List Piece), w ≠ "" → Closed rest → Closed (pieces ++ .word w :: rest)

/-- That there are no quotes in the words. -/
def Unquoted (pieces : List Piece) : Prop := ∀ w, word w ∈ pieces → '\x27' ∉ w.toList

/-! ### Text -/

@[simp] theorem spell_nil : spell [] = "" := rfl

@[simp] theorem spell_cons (piece : Piece) (rest : List Piece) :
    spell (piece :: rest) = piece.text ++ spell rest := rfl

@[simp] theorem text_word (w : String) : (word w).text = w := rfl

@[simp] theorem text_value (s : Scalar) : (value s).text = s.literal := rfl

@[simp] theorem spell_append (pieces further : List Piece) :
    spell (pieces ++ further) = spell pieces ++ spell further := by
  induction pieces with
  | nil => simp
  | cons piece rest ih => simp [ih, String.append_assoc]

/-- Parts with commas between them are spelt one by one. -/
@[simp] theorem spell_joined (parts : List (List Piece)) :
    spell (joined parts) = String.intercalate ", " (parts.map spell) := by
  induction parts using joined.induct with
  | case1 => rfl
  | case2 part => simp [joined]
  | case3 part next rest ih =>
    simp [joined, ih, String.intercalate_cons_cons, String.append_assoc]

/-- Names with commas between them are spelt one by one. -/
@[simp] theorem spell_listed (names : List String) :
    spell (listed names) = String.intercalate ", " names := by
  simp [listed, Function.comp_def]

/-! ### Values -/

@[simp] theorem values_nil : values [] = [] := rfl

@[simp] theorem values_cons_word (w : String) (rest : List Piece) :
    values (.word w :: rest) = values rest := rfl

@[simp] theorem values_cons_value (s : Scalar) (rest : List Piece) :
    values (.value s :: rest) = s :: values rest := rfl

@[simp] theorem values_append (pieces further : List Piece) :
    values (pieces ++ further) = values pieces ++ values further :=
  List.filterMap_append

/-- The values of parts one behind the other are those of each. -/
theorem values_flatMap {α : Type} (as : List α) (f : α → List Piece) :
    values (as.flatMap f) = as.flatMap fun a => values (f a) :=
  List.filterMap_flatMap

/-- The commas add no values. -/
@[simp] theorem values_joined (parts : List (List Piece)) :
    values (joined parts) = parts.flatMap values := by
  induction parts using joined.induct with
  | case1 => rfl
  | case2 part => simp [joined]
  | case3 part next rest ih => simp [joined, ih]

/-- Names are no values. -/
@[simp] theorem values_listed (names : List String) : values (listed names) = [] := by
  simp [listed]

@[simp] theorem mapValue_word (f : Scalar → Scalar) (w : String) :
    (word w).mapValue f = word w := rfl

@[simp] theorem mapValue_value (f : Scalar → Scalar) (s : Scalar) :
    (value s).mapValue f = value (f s) := rfl

/-- The commas stay. -/
@[simp] theorem map_mapValue_joined (f : Scalar → Scalar) (parts : List (List Piece)) :
    (joined parts).map (mapValue f) = joined (parts.map (List.map (mapValue f))) := by
  induction parts using joined.induct with
  | case1 => rfl
  | case2 part => rfl
  | case3 part next rest ih => simp [joined, ih]

/-- Names stay. -/
@[simp] theorem map_mapValue_listed (f : Scalar → Scalar) (names : List String) :
    (listed names).map (mapValue f) = listed names := by
  simp [listed, Function.comp_def]

/-! ### Closed pieces -/

@[simp] theorem closed_nil : Closed [] := trivial

@[simp] theorem closed_cons_word (w : String) (rest : List Piece) :
    Closed (.word w :: rest) ↔ Closed rest := Iff.rfl

/-- Closed pieces with closed pieces behind them are closed. -/
theorem Closed.append {pieces further : List Piece} (h : Closed pieces)
    (hfurther : Closed further) : Closed (pieces ++ further) := by
  -- along the definition: a value goes together with the word behind it
  induction pieces using Closed.induct with
  | case1 => exact hfurther
  | case2 w rest ih => exact ih h
  | case3 s w rest ih => exact ⟨h.1, ih h.2⟩
  | case4 s rest hrest => cases rest <;> simp_all [Closed]

/-- Where there are no values, none needs to be followed by anything. -/
theorem closed_of_values_eq_nil {pieces : List Piece} (h : values pieces = []) : Closed pieces := by
  induction pieces with
  | nil => exact closed_nil
  | cons piece rest ih =>
    cases piece with
    | word w => exact ih h
    | value s => exact absurd h (List.cons_ne_nil _ _)

/-- Closed parts one behind the other are closed. -/
theorem closed_flatMap {α : Type} {as : List α} {f : α → List Piece}
    (h : ∀ a ∈ as, Closed (f a)) : Closed (as.flatMap f) := by
  induction as with
  | nil => exact closed_nil
  | cons a rest ih =>
    obtain ⟨ha, hrest⟩ := List.forall_mem_cons.mp h
    exact ha.append (ih hrest)

/-- Where there is nothing, nothing needs to be closed. -/
theorem closable_nil : Closable [] :=
  fun _ _ _ hrest => hrest

/-- A word in front of closable pieces. -/
theorem Closable.cons_word {pieces : List Piece} (h : Closable pieces) (w : String) :
    Closable (.word w :: pieces) :=
  h

/-- A value by itself is closable. -/
theorem closable_value (s : Scalar) : Closable [.value s] :=
  fun _ _ hw hrest => ⟨hw, hrest⟩

/-- Closable pieces with a word and closable pieces behind them are closable. -/
theorem Closable.append_word {pieces further : List Piece} (h : Closable pieces) {w : String}
    (hw : w ≠ "") (hfurther : Closable further) : Closable (pieces ++ .word w :: further) := by
  intro v rest hv hrest
  rw [List.append_assoc, List.cons_append]
  exact h w _ hw (hfurther v rest hv hrest)

/-- Closable parts with commas between them are closable. -/
theorem closable_joined {parts : List (List Piece)} (h : ∀ part ∈ parts, Closable part) :
    Closable (joined parts) := by
  induction parts using joined.induct with
  | case1 => exact closable_nil
  | case2 part => exact h part List.mem_cons_self
  | case3 part next rest ih =>
    obtain ⟨hpart, hrest⟩ := List.forall_mem_cons.mp h
    exact hpart.append_word (by decide) (ih hrest)

/-- Closable pieces with a word at the end are closed. -/
theorem Closable.closed_append {pieces : List Piece} (h : Closable pieces) {w : String}
    (hw : w ≠ "") : Closed (pieces ++ [.word w]) :=
  h w [] hw trivial

/-! ### Words without quotes -/

@[simp] theorem unquoted_nil : Unquoted [] := fun _ h => absurd h List.not_mem_nil

@[simp] theorem unquoted_cons_word {w : String} {rest : List Piece} :
    Unquoted (.word w :: rest) ↔ '\x27' ∉ w.toList ∧ Unquoted rest := by
  simp [Unquoted, or_imp, forall_and]

@[simp] theorem unquoted_cons_value {s : Scalar} {rest : List Piece} :
    Unquoted (.value s :: rest) ↔ Unquoted rest := by
  simp [Unquoted]

@[simp] theorem unquoted_append {pieces further : List Piece} :
    Unquoted (pieces ++ further) ↔ Unquoted pieces ∧ Unquoted further := by
  simp [Unquoted, or_imp, forall_and]

/-- A word without quotes in front of pieces without quotes. -/
theorem Unquoted.word {w : String} {rest : List Piece} (hw : '\x27' ∉ w.toList)
    (h : Unquoted rest) : Unquoted (.word w :: rest) :=
  unquoted_cons_word.mpr ⟨hw, h⟩

/-- Pieces without quotes behind each other. -/
theorem Unquoted.append {pieces further : List Piece} (h : Unquoted pieces)
    (hfurther : Unquoted further) : Unquoted (pieces ++ further) :=
  unquoted_append.mpr ⟨h, hfurther⟩

/-- Parts without quotes stay so one behind the other. -/
theorem unquoted_flatMap {α : Type} {as : List α} {f : α → List Piece}
    (h : ∀ a ∈ as, Unquoted (f a)) : Unquoted (as.flatMap f) := by
  intro w hw
  obtain ⟨a, ha, hmem⟩ := List.mem_flatMap.mp hw
  exact h a ha w hmem

/-- The commas are not quotes. -/
theorem unquoted_joined {parts : List (List Piece)} (h : ∀ part ∈ parts, Unquoted part) :
    Unquoted (joined parts) := by
  induction parts using joined.induct with
  | case1 => exact unquoted_nil
  | case2 part => exact h part List.mem_cons_self
  | case3 part next rest ih =>
    obtain ⟨hpart, hrest⟩ := List.forall_mem_cons.mp h
    exact hpart.append (.word (by decide) (ih hrest))

/-- Names without quotes stay so with commas between them. -/
theorem unquoted_listed {names : List String} (h : ∀ name ∈ names, '\x27' ∉ name.toList) :
    Unquoted (listed names) := by
  refine unquoted_joined fun part hpart => ?_
  obtain ⟨name, hname, rfl⟩ := List.mem_map.mp hpart
  simp [h name hname]

end Piece

end QueryGate
