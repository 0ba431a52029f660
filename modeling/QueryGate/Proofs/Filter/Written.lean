import QueryGate.Proofs.Filter.Key
import QueryGate.Proofs.Filter.Origin

/-!
# Directives that are written

How a directive is written: the key that asks for it under one of its names
(`QueryGate.Directive.key`), and the values that go with the key (`QueryGate.Directive.values`). A
directive can be written if its field can stand between brackets and its operand is one that the
values of its operator make (`QueryGate.Directive.Expressible`). Such a directive is read from what
it was written as (`QueryGate.Directive.of?_key`), whatever its number and its name.
-/

namespace QueryGate

/-! ### Operands -/

/-- The operators that compare a field with one text. -/
def Operator.comparisons : List Operator := [.like, .less, .lessOrEqual, .greater, .greaterOrEqual]

/-- **The operands that an operator can be given** by the values of a directive. -/
inductive Operator.Takes : Operator → Operand → Prop
  /-- A range has two bounds. -/
  | between (low high : String) : Takes .between (.texts [low, high])
  /-- There is at least one alternative. -/
  | oneOf {items : List String} (h : items ≠ []) : Takes .oneOf (.texts items)
  /-- Absence has no value. -/
  | isNull : Takes .isNull (.single .null)
  /-- A comparison has one text. -/
  | comparison {operator : Operator} (h : operator ∈ comparisons) (s : String) :
      Takes operator (.text s)

/-- **The names of an operator** in a directive. -/
def Operator.names : Operator → List String
  | .equal | .group => []
  | .between => ["between"]
  | .oneOf => ["in"]
  | .like => ["like"]
  | .isNull => ["is_null"]
  | .less => ["<", "cmp_l"]
  | .lessOrEqual => ["<=", "cmp_le"]
  | .greater => [">", "cmp_b"]
  | .greaterOrEqual => [">=", "cmp_be"]

/-- The value that is written for a scalar: its text, or nothing. -/
def Scalar.valueText (s : Scalar) : String := s.asText?.getD ""

/-- The values that are written for an operand. -/
def Operand.valueTexts : Operand → List String
  | .single s => [s.valueText]
  | .many items => items.map Scalar.valueText

/-- The values of texts are these texts. -/
@[simp] theorem Operand.valueTexts_texts (items : List String) :
    (Operand.texts items).valueTexts = items := by
  simp [texts, valueTexts, Function.comp_def, Scalar.valueText, Scalar.asText?]

/-- **The values of an operand make that operand** again. -/
theorem Directive.operand?_valueTexts {operator : Operator} {operand : Operand}
    (h : operator.Takes operand) : operand? operator operand.valueTexts = some operand := by
  cases h with
  | between low high => rfl
  | oneOf hne =>
    rw [Operand.valueTexts_texts]
    exact if_neg (by simpa using hne)
  | isNull => rfl
  | comparison hoperator s =>
    simp only [Operator.comparisons, List.mem_cons, List.not_mem_nil, or_false] at hoperator
    rcases hoperator with rfl | rfl | rfl | rfl | rfl <;> rfl

/-- There is always a value. -/
theorem Operator.Takes.valueTexts_ne_nil {operator : Operator} {operand : Operand}
    (h : operator.Takes operand) : operand.valueTexts ≠ [] := by
  cases h with
  | between low high => exact List.cons_ne_nil _ _
  | oneOf hne => rwa [Operand.valueTexts_texts]
  | isNull => exact List.cons_ne_nil _ _
  | comparison hoperator s => exact List.cons_ne_nil _ _

/-! ### Directives -/

/-- **A name that can stand between brackets** as that of a field. -/
structure Key.IsField (field : String) : Prop where
  /-- There is a name. -/
  nonempty : field ≠ ""
  /-- There are no brackets in it. -/
  unbracketed : '[' ∉ field.toList ∧ ']' ∉ field.toList

namespace Directive

/-- The names by which a directive can be asked for. -/
def names : Directive → List String
  | .filter condition => condition.operator.names
  | .group .. => ["group", "group-by"]
  | .order _ => ["sort", "order", "order-by"]
  | .limit _ => ["limit"]
  | .offset _ => ["offset"]

/-- The condition of a directive, if it has one. -/
def condition? : Directive → Option Condition
  | .filter condition | .group _ condition => some condition
  | _ => none

/-- What stands between the brackets of a directive's key: its field, and nothing once more if it
has a list of values. -/
def brackets : Directive → List String
  | .filter condition =>
    match condition.operand with
    | .single _ => [condition.field]
    | .many _ => [condition.field, ""]
  | .group field _ => [field]
  | .order key => [key.field]
  | .limit _ | .offset _ => []

/-- **The key that asks for a directive** with a number, by one of its names. -/
def key (number : UInt64) (name : String) (directive : Directive) : Key :=
  { number := some number
    named := true
    negated := (directive.condition?.map Condition.negated).getD false
    connective := (directive.condition?.map Condition.connective).getD .and
    name
    brackets := directive.brackets }

/-- **The values that go with the key.** -/
def values : Directive → List String
  | .filter condition | .group _ condition => condition.operand.valueTexts
  | .order key => [key.direction.word]
  | .limit count | .offset count => [Decimal.ofNat count.toNat]

/-- **That a directive can be written.** -/
def Expressible : Directive → Prop
  | .filter condition => Key.IsField condition.field ∧ condition.operator.Takes condition.operand
  | .group field having =>
    Key.IsField field ∧ having.field = field ∧ having.operator = .group ∧
      (having.operand = .single .null ∨ ∃ s, s ≠ "" ∧ having.operand = .text s)
  | .order key => Key.IsField key.field
  | .limit count | .offset count => count.toNat < Nat.pow 2 63

@[simp] theorem key_name (number : UInt64) (name : String) (directive : Directive) :
    (directive.key number name).name = name := rfl

variable {directive : Directive} {name : String}

/-- Names are made of characters of names, and in lower case. -/
theorem isNameChar_of_mem_names (h : name ∈ directive.names) :
    name ≠ "" ∧ name.toList.all Key.isNameChar = true ∧
      String.ofList (name.toList.map CharClass.lower) = name := by
  have hoperator : ∀ operator : Operator, ∀ name ∈ operator.names,
      name ≠ "" ∧ name.toList.all Key.isNameChar = true ∧
        String.ofList (name.toList.map CharClass.lower) = name := by
    rintro (_ | _ | _ | _ | _ | _ | _ | _ | _ | _) <;> decide
  have hothers : ∀ name ∈ ["group", "group-by", "sort", "order", "order-by", "limit", "offset"],
      name ≠ "" ∧ name.toList.all Key.isNameChar = true ∧
        String.ofList (name.toList.map CharClass.lower) = name := by
    decide
  have hmem : ∀ names ⊆ ["group", "group-by", "sort", "order", "order-by", "limit", "offset"],
      name ∈ names → name ≠ "" ∧ name.toList.all Key.isNameChar = true ∧
        String.ofList (name.toList.map CharClass.lower) = name := fun names hsubset hname =>
    hothers name (hsubset hname)
  cases directive with
  | filter condition => exact hoperator _ _ h
  | group field having => exact hmem ["group", "group-by"] (by decide) h
  | order key => exact hmem ["sort", "order", "order-by"] (by decide) h
  | limit count => exact hmem ["limit"] (by decide) h
  | offset count => exact hmem ["offset"] (by decide) h

/-- **The key of a directive can be written.** -/
theorem wellFormed_key (h : directive.Expressible) (hname : name ∈ directive.names)
    (number : UInt64) : (directive.key number name).WellFormed where
  named := fun _ => rfl
  nonempty := (isNameChar_of_mem_names hname).1
  name := List.all_eq_true.mp (isNameChar_of_mem_names hname).2.1
  brackets := by
    cases directive with
    | filter condition =>
      have hfield := h.1.unbracketed
      intro group hgroup
      simp only [key, brackets] at hgroup
      split at hgroup
      · rw [List.mem_singleton.mp hgroup]
        exact hfield
      · rcases List.mem_cons.mp hgroup with rfl | hgroup
        · exact hfield
        · rw [List.mem_singleton.mp hgroup]
          decide
    | group field having => exact List.forall_mem_singleton.mpr h.1.unbracketed
    | order sortKey => exact List.forall_mem_singleton.mpr h.unbracketed
    | limit count => exact fun group hgroup => absurd hgroup List.not_mem_nil
    | offset count => exact fun group hgroup => absurd hgroup List.not_mem_nil

/-- The field of a directive is found between its brackets. -/
theorem field?_of_brackets {key : Key} {field : String} (h : Key.IsField field)
    {rest : List String} (hbrackets : key.brackets = field :: rest) : key.field? = some field := by
  rw [Key.field?, hbrackets]
  exact if_neg (by simpa using h.nonempty)

/-- **An operator is found by each of its names.** -/
theorem ofName?_of_mem_names {operator : Operator} (h : name ∈ operator.names) :
    Operator.ofName? name = some operator := by
  have hall : ∀ name ∈ operator.names, Operator.ofName? name = some operator := by
    cases operator <;> decide
  exact hall name h

/-- A count that a signed word can hold is read from its numeral. -/
theorem rowCount?_ofNat {count : UInt64} (h : count.toNat < Nat.pow 2 63) :
    rowCount? [Decimal.ofNat count.toNat] = some count := by
  have hpow : Nat.pow 2 63 = 9223372036854775808 := by
    decide
  refine rowCount?_eq_some_iff.mpr ⟨_, _, rfl, ?_, by omega⟩
  rw [Decimal.ofNat, String.toList_ofList]
  exact Decimal.spells_digits _

/-- The value of a group is read from what is written for it. -/
theorem groupValue_valueTexts {operand : Operand}
    (h : operand = .single .null ∨ ∃ s, s ≠ "" ∧ operand = .text s) :
    .single (groupValue operand.valueTexts) = operand := by
  rcases h with rfl | ⟨s, hs, rfl⟩
  · rfl
  · have hkept : (!s.isEmpty) = true := by
      simpa using hs
    simp [Operand.text, Operand.valueTexts, Scalar.valueText, Scalar.asText?, groupValue, hkept]

/-- A directive that can be written has a name. -/
theorem headD_mem_names (h : directive.Expressible) :
    directive.names.headD "" ∈ directive.names := by
  have hoperator : ∀ (operator : Operator) (operand : Operand), operator.Takes operand →
      operator.names.headD "" ∈ operator.names := by
    intro operator operand htakes
    cases htakes with
    | between low high => decide
    | oneOf hne => decide
    | isNull => decide
    | comparison hoperator s =>
      have hall : ∀ operator ∈ Operator.comparisons,
          operator.names.headD "" ∈ operator.names := by
        decide
      exact hall operator hoperator
  cases directive with
  | filter condition => exact hoperator _ _ h.2
  | _ => exact List.mem_cons_self

/-- A directive that can be written has a value to go with its key. -/
theorem values_ne_nil (h : directive.Expressible) : directive.values ≠ [] := by
  cases directive with
  | filter condition => exact h.2.valueTexts_ne_nil
  | group field having =>
    obtain ⟨-, -, -, hnull | ⟨s, -, htext⟩⟩ := h
    · rw [values, hnull]
      exact List.cons_ne_nil _ _
    · rw [values, htext]
      exact List.cons_ne_nil _ _
  | order key => exact List.cons_ne_nil _ _
  | limit count => exact List.cons_ne_nil _ _
  | offset count => exact List.cons_ne_nil _ _

/-- **A directive comes from the key and the values that it is written as.** -/
theorem origin_key (h : directive.Expressible) (hname : name ∈ directive.names)
    (number : UInt64) : Origin (directive.key number name) directive.values directive := by
  have hword : (directive.key number name).word = name := (isNameChar_of_mem_names hname).2.2
  cases directive with
  | filter condition =>
    obtain ⟨hfield, htakes⟩ := h
    have hbrackets : ∃ rest, ((filter condition).key number name).brackets =
        condition.field :: rest := by
      simp only [key, brackets]
      split <;> exact ⟨_, rfl⟩
    obtain ⟨rest, hbrackets⟩ := hbrackets
    have hoperator : Operator.ofName? ((filter condition).key number name).word =
        some condition.operator := by
      rw [hword]
      exact ofName?_of_mem_names hname
    exact .condition rfl hoperator (field?_of_brackets hfield hbrackets)
      (operand?_valueTexts htakes)
  | group field having =>
    obtain ⟨hfield, rfl, hoperator, hoperand⟩ := h
    have hfound : ((group having.field having).key number name).field? = some having.field :=
      field?_of_brackets hfield rfl
    have hcondition : flagged ((group having.field having).key number name) having.field .group
        (.single (groupValue (group having.field having).values)) = having := by
      simp only [flagged, key, condition?, values, groupValue_valueTexts hoperand, ← hoperator,
        Option.map_some, Option.getD_some]
    have hasks : ((group having.field having).key number name).word ∈ ["group", "group-by"] := by
      rw [hword]
      exact hname
    have horigin : Origin _ (group having.field having).values _ := .group rfl hasks hfound
    rwa [hcondition] at horigin
  | order sortKey =>
    have hfound : ((order sortKey).key number name).field? = some sortKey.field :=
      field?_of_brackets h rfl
    have hdirection : ((order sortKey).values.head?.map Direction.ofText).getD .ascending =
        sortKey.direction := by
      cases hdirection : sortKey.direction <;> simp [values, hdirection] <;> decide
    have hasks : ((order sortKey).key number name).word ∈ ["sort", "order", "order-by"] := by
      rw [hword]
      exact hname
    have horigin : Origin _ (order sortKey).values _ := .order rfl hasks hfound
    rwa [hdirection] at horigin
  | limit count =>
    exact .limit rfl (hword.trans (List.mem_singleton.mp hname)) (rowCount?_ofNat h)
  | offset count =>
    exact .offset rfl (hword.trans (List.mem_singleton.mp hname)) (rowCount?_ofNat h)

/-- **A directive is read from what it is written as.** -/
theorem of?_key (h : directive.Expressible) (hname : name ∈ directive.names) (number : UInt64) :
    of? (directive.key number name) directive.values = some directive :=
  of?_eq_some_iff.mpr (origin_key h hname number)

end Directive

end QueryGate
