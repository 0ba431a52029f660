import QueryGate.Proofs.Filter.Fitting
import QueryGate.Proofs.Query.Gate
import QueryGate.Proofs.Schema.Instant
import QueryGate.Proofs.Sql.Layout

/-!
# Values in filters are of the kinds of their fields

The values in a query string are texts, and what is compared in a statement are scalars. Between the
two stands the reader of a field, and nothing gets past it: a scalar in a screened condition was
read by the reader on the list, or it is the absence of a value in a condition that asks for just
that (`QueryGate.AllowList.Reads.makes_or_absent`). So it is of the kind of a field that the role
may read (`QueryGate.Model.typed_compileString`), for every query string.

The literals of such scalars say something: none of them is empty, as those of bytes are, and none
is `NULL`, as those of infinite numbers are (`QueryGate.Field.Kind.Takes.literal_ne`).
-/

namespace QueryGate

/-! ### Literals -/

/-- A numeral with something behind it begins with a digit, or with the sign if it has one. -/
theorem Decimal.exists_signed_eq_cons (negative : Bool) (n : Nat) (rest : String) :
    ∃ c cs, ((if negative then "-" else "") ++ ofNat n ++ rest).toList = c :: cs ∧
      (c.isDigit = true ∨ c = '-') := by
  cases negative with
  | true => exact ⟨'-', (ofNat n).toList ++ rest.toList, by simp, Or.inr rfl⟩
  | false =>
    obtain ⟨c, cs, hchars, hc⟩ := exists_ofNat_eq_cons n
    exact ⟨c, cs ++ rest.toList, by simp [hchars], Or.inl hc⟩

/-- A number with fixed places begins with a digit or the sign. -/
theorem Binary64.exists_fixed_eq_cons (places : Nat) (x : Binary64) :
    ∃ c cs, (x.fixed places).toList = c :: cs ∧ (c.isDigit = true ∨ c = '-') := by
  rw [fixed, String.append_assoc]
  exact Decimal.exists_signed_eq_cons _ _ _

/-- What begins with another letter is neither nothing nor the word for no value. -/
theorem Scalar.literal_ne_of_cons {s : Scalar} {c : Char} {cs : List Char}
    (h : s.literal.toList = c :: cs) (hc : c ≠ 'N') : s.literal ≠ "" ∧ s.literal ≠ "NULL" := by
  constructor
  · intro hempty
    rw [hempty] at h
    cases h
  · intro hnull
    rw [hnull] at h
    exact hc (List.cons.inj h).1.symm

/-- **Values of a kind have literals that say something**: they begin with a digit, a sign or a
quote, or are the words for the truth values. -/
theorem Field.Kind.Takes.literal_ne {kind : Kind} {s : Scalar} (h : kind.Takes s) :
    s.literal ≠ "" ∧ s.literal ≠ "NULL" := by
  have hdigit : ∀ c : Char, c.isDigit = true ∨ c = '-' → c ≠ 'N' := by
    rintro c hc rfl
    revert hc
    decide
  have htext : ∀ content, (Scalar.text content).literal ≠ "" ∧
      (Scalar.text content).literal ≠ "NULL" := by
    intro content
    have hchars : (Scalar.text content).literal.toList =
        '\x27' :: (Scalar.doubled content.toList ++ ['\x27']) := by
      simp [Scalar.literal]
    exact Scalar.literal_ne_of_cons hchars (by decide)
  have hfloat : ∀ {x : Binary64}, x.isFinite = true →
      (Scalar.float x).literal ≠ "" ∧ (Scalar.float x).literal ≠ "NULL" := by
    intro x hx
    obtain ⟨c, cs, hchars, hc⟩ := Binary64.exists_fixed_eq_cons 6 x
    have hliteral : (Scalar.float x).literal.toList = c :: cs := by
      rw [Scalar.literal, if_pos hx, hchars]
    exact Scalar.literal_ne_of_cons hliteral (hdigit c hc)
  cases h with
  | text content => exact htext content
  | signed hn =>
    obtain ⟨c, cs, hchars, hc⟩ := Decimal.exists_ofInt_eq_cons _
    exact Scalar.literal_ne_of_cons hchars (hdigit c hc)
  | unsigned hn =>
    obtain ⟨c, cs, hchars, hc⟩ := Decimal.exists_ofNat_eq_cons _
    exact Scalar.literal_ne_of_cons hchars (hdigit c (Or.inl hc))
  | single hx => exact hfloat hx
  | double hx => exact hfloat hx
  | truth b => cases b <;> decide
  | moment content => exact htext content

/-! ### Typed conditions -/

/-- **That a condition keeps to a kind**: what it compares with are values of the kind, but for the
absence of a value in a condition that asks for just that. -/
def Condition.KeepsTo (c : Condition) (kind : Field.Kind) : Prop :=
  ∀ s ∈ c.operand.scalars, if s = .null then c.operator = .isNull else kind.Takes s

namespace Model

variable {model : Model} {role : Role}

/-- **A condition that has passed the list of a role** keeps to the kind of a field that the role
has access to and that has its name. -/
theorem keepsTo_of_screen {access : Access}
    (hkinds : ∀ field ∈ model.fields, ∃ kind, Field.IsOf field kind) {condition passed : Condition}
    (h : (model.allowList role access).screen condition = .ok passed) :
    ∃ field ∈ model.fieldsFor role access, field.name = passed.field ∧
      ∃ kind, field.IsOf kind ∧ passed.KeepsTo kind := by
  obtain ⟨reader, hreader, operand, hreads, rfl⟩ := AllowList.screen_eq_ok_iff.mp h
  obtain ⟨field, hfield, hname, rfl⟩ := exists_of_reader? hreader
  obtain ⟨kind, hkind⟩ := hkinds field (List.mem_of_mem_filter hfield)
  refine ⟨field, hfield, hname, kind, hkind, fun s hs => ?_⟩
  rcases hreads.makes_or_absent hs with ⟨_, _, raw, _, hraw⟩ | ⟨rfl, habsent⟩
  · have htakes := hkind.takes_of_reader hraw
    rw [if_neg (by rintro rfl; cases htakes)]
    exact htakes
  · rw [if_pos rfl]
    exact habsent

/-- **Filters are typed.** If the fields of a model were made by the constructors, then whatever the
query string, each condition that is left of it keeps to the kind of a field that the role may read
and that has its name; and no literal in the statement is empty or `NULL`. -/
theorem typed_compileString {raw : String} {query : CompiledQuery}
    (hkinds : ∀ field ∈ model.fields, ∃ kind, Field.IsOf field kind)
    (h : (model.compileString role raw).value = .ok query) :
    (∀ c ∈ query.clauses.conditions, ∃ field ∈ model.fieldsFor role .read, field.name = c.field ∧
      ∃ kind, field.IsOf kind ∧ c.KeepsTo kind) ∧
    ∀ s ∈ (Statement.select query.selection).values, s.literal ≠ "" ∧ s.literal ≠ "NULL" := by
  obtain ⟨-, rfl⟩ := eq_of_compile h
  have htyped : ∀ c ∈ Clauses.conditions (((Clauses.ofQueryString raw).value.screened
      (model.allowList role .read)).value), ∃ field ∈ model.fieldsFor role .read,
      field.name = c.field ∧ ∃ kind, field.IsOf kind ∧ c.KeepsTo kind := by
    intro c hc
    rcases List.mem_append.mp hc with hc | hc
    all_goals
      obtain ⟨condition, -, hscreen⟩ := Noted.mem_value_sift.mp hc
      exact keepsTo_of_screen hkinds hscreen
  refine ⟨htyped, fun s hs => ?_⟩
  rw [Statement.values, ← List.flatMap_append] at hs
  obtain ⟨c, hc, hs⟩ := List.mem_flatMap.mp hs
  obtain ⟨field, -, -, kind, -, hkeeps⟩ := htyped c hc
  rw [Condition.values] at hs
  split at hs
  · next hwritten =>
    have hkind := hkeeps s hs
    rw [if_neg fun hnull => hwritten.2 (by rwa [if_pos hnull] at hkind)] at hkind
    exact hkind.literal_ne
  · exact absurd hs List.not_mem_nil

/-- Readings of an instrument, which everybody may read. -/
def readings : Model :=
  { table := "readings"
    fields :=
      [("note", .text), ("level", .signed .eight), ("count", .unsigned .sixteen),
        ("weight", .single), ("size", .double), ("valid", .truth),
        ("at", .moment "%Y-%m-%d")].map fun (name, kind) =>
          (Field.Kind.field name kind).grant (.readOnly .default) }

/-- A query string with a level that the field takes, a count that it does not take, an infinite
weight, a list of truth values, and conditions on the absence of a note and on the groups of a
level. -/
def readingsAsked : String :=
  "level=-7&count=70000&weight=inf&valid[]=T&valid[]=0&:is_null[note]=x&:group[level]=3"

/-- What is left of it is typed. -/
theorem typed_compileString_readings :
    (∀ field ∈ readings.fields, ∃ kind, Field.IsOf field kind) ∧
    ∃ query, (readings.compileString .default readingsAsked).value = .ok query ∧
      (∀ c ∈ query.clauses.conditions, ∃ field ∈ readings.fieldsFor .default .read,
        field.name = c.field ∧ ∃ kind, field.IsOf kind ∧ c.KeepsTo kind) ∧
      ∀ s ∈ (Statement.select query.selection).values, s.literal ≠ "" ∧ s.literal ≠ "NULL" := by
  have hkinds : ∀ field ∈ readings.fields, ∃ kind, Field.IsOf field kind := by
    intro field hfield
    obtain ⟨⟨name, kind⟩, -, rfl⟩ := List.mem_map.mp hfield
    exact ⟨kind, by cases kind <;> rfl⟩
  have hparts : ∀ part ∈ Calendar.parts "%Y-%m-%d".toList, part.isWritable = true := by
    decide +kernel
  have hruns : ∀ field ∈ readings.fields, ∀ raw, field.parse raw ≠ .error .abandoned := by
    intro field hfield raw
    obtain ⟨⟨name, kind⟩, hkind, rfl⟩ := List.mem_map.mp hfield
    refine Field.Kind.parse_ne_abandoned kind (fun pattern hpattern => ?_) name raw
    subst hpattern
    obtain ⟨rfl, rfl⟩ : name = "at" ∧ pattern = "%Y-%m-%d" := by
      simpa using hkind
    exact hparts
  have hreadable : readings.fieldsFor .default .read ≠ [] := List.cons_ne_nil _ _
  have hcompile : (readings.compileString .default readingsAsked).value = .ok _ :=
    compile_of_runs hreadable hruns
  exact ⟨hkinds, _, hcompile, typed_compileString hkinds hcompile⟩

/-- The count and the weight have gone, and everything else is written. -/
example : ((readings.compileString .default readingsAsked).value.toOption.map fun query =>
    (Statement.select query.selection).values.map Scalar.literal) =
      some ["-7", "TRUE", "FALSE", "3"] := by
  cbv

end Model

end QueryGate
