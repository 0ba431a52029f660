import QueryGate.Proofs.Schema.Outcome
import QueryGate.Proofs.Sql.Literal

/-!
# Two spellings of an integer

A payload may give an integer as a number or as the text of that number. The number is taken as it
is and the text goes through the reader of the field, so they come by different ways, and this
module says where they meet again (`QueryGate.Model.accepts_spellings_iff`). Both become words of
the value that was written, and words of one value have one literal, so whatever is accepted in both
spellings is written in the same way (`QueryGate.Model.spelled_eq_of_literal_eq`).

## Two kinds of words

They need not become words of one kind. A number is a signed word wherever that can hold it
(`QueryGate.Scalar.ofInteger`), and a field of unsigned integers reads a text as an unsigned word
(`QueryGate.Field.Kind.kept`). A check sees the word and not the integer, so it may take the one and
refuse the other; a check that does so is the only reason for which a field of integers accepts one
spelling alone (`QueryGate.Field.Kind.apply_ofInteger_eq_iff`).

All of this is said of the first field of its name. An entry never gets to another one
(`QueryGate.Model.spellings_differ`).
-/

namespace QueryGate

/-! ### Integers of fields and of documents -/

namespace Field.Kind

/-- The integers that a field of a kind takes, if it is a field of integers. -/
def range? : Kind → Option IntegerRange
  | .signed width => some (.signed width.bits)
  | .unsigned width => some (.unsigned width.bits)
  | _ => none

/-- **The scalar that a field of integers keeps an integer as**: of the signedness of the field. -/
def kept : Kind → Int → Scalar
  | .unsigned _, n => .uint (UInt64.ofNat n.toNat)
  | _, n => .int (Int64.ofInt n)

variable {kind : Kind} {range : IntegerRange} {n : Int}

/-- **The text of an integer is read as the scalar that it is kept as.** -/
theorem reader_ofInt (hrange : kind.range? = some range) (hn : range.Holds n) (name : String) :
    (kind.field name).reader (Decimal.ofInt n) = .ok (kind.kept n) := by
  cases kind with
  | signed width =>
    obtain rfl := Option.some.inj hrange
    have hread := IntegerRange.read_ofInt (by cases width <;> decide) hn
    simp [field, Field.signed, verdict, hread, Except.map, kept]
  | unsigned width =>
    obtain rfl := Option.some.inj hrange
    have hread := IntegerRange.read_ofInt (by cases width <;> decide) hn
    simp [field, Field.unsigned, verdict, hread, Except.map, kept]
  | _ => cases hrange

/-- An integer keeps its value. -/
theorem number?_kept (hrange : kind.range? = some range) (hn : range.Holds n) :
    (kind.kept n).number? = some n := by
  cases kind with
  | signed width =>
    obtain rfl := Option.some.inj hrange
    exact congrArg some (Width.toInt_ofInt hn)
  | unsigned width =>
    obtain rfl := Option.some.inj hrange
    exact congrArg some (Width.toNat_ofNat hn)
  | _ => cases hrange

/-- The integers of a field fit into a word of 64 bits, and those of a signed one into a signed
word. -/
theorem holds_of_range? (hrange : kind.range? = some range) (hn : range.Holds n) :
    (IntegerRange.signed 64).Holds n ∨
      (IntegerRange.unsigned 64).Holds n ∧ ∃ width, kind = .unsigned width := by
  obtain ⟨hleast, hgreatest⟩ := hn
  cases kind with
  | signed width =>
    obtain rfl := Option.some.inj hrange
    have hwidest : (IntegerRange.signed 64).least ≤ (IntegerRange.signed width.bits).least ∧
        (IntegerRange.signed width.bits).greatest ≤ (IntegerRange.signed 64).greatest := by
      cases width <;> decide
    exact Or.inl ⟨Int.le_trans hwidest.1 hleast, Int.le_trans hgreatest hwidest.2⟩
  | unsigned width =>
    obtain rfl := Option.some.inj hrange
    have hwidest : (IntegerRange.unsigned width.bits).greatest ≤
        (IntegerRange.unsigned 64).greatest := by
      cases width <;> decide
    exact Or.inr ⟨⟨hleast, Int.le_trans hgreatest hwidest⟩, width, rfl⟩
  | _ => cases hrange

end Field.Kind

/-- **The scalar that an integer in a document is**: signed if a signed word can hold it. -/
def Scalar.ofInteger (n : Int) : Scalar :=
  if (IntegerRange.signed 64).Holds n then .int (Int64.ofInt n) else .uint (UInt64.ofNat n.toNat)

namespace Scalar

variable {n : Int}

/-- An integer keeps its value, if a word of 64 bits can hold it. -/
theorem number?_ofInteger
    (h : (IntegerRange.signed 64).Holds n ∨ (IntegerRange.unsigned 64).Holds n) :
    (ofInteger n).number? = some n := by
  rw [ofInteger]
  split
  · next hsigned => exact congrArg some (@Field.Width.toInt_ofInt .sixtyFour n hsigned)
  · next hsigned =>
    have hunsigned := h.resolve_left hsigned
    exact congrArg some (@Field.Width.toNat_ofNat .sixtyFour n hunsigned)

end Scalar

namespace Field

variable {kind : Kind} {range : IntegerRange} {n : Int}

/-- A field of a kind reads the text of an integer as the scalar that the kind keeps it as. -/
theorem IsOf.reader_ofInt {field : Field} (h : field.IsOf kind) (hrange : kind.range? = some range)
    (hn : range.Holds n) : field.parse (Decimal.ofInt n) = .ok (kind.kept n) := by
  rw [IsOf] at h
  rw [parse, h]
  exact Kind.reader_ofInt hrange hn field.name

/-- **What depends on the scalar of an integer** is the same for the scalar of a document and for
that of a field, unless the field is unsigned and the document is not. -/
theorem Kind.apply_ofInteger_eq_iff {α : Type} (hrange : kind.range? = some range)
    (hn : range.Holds n) (f : Scalar → α) :
    f (Scalar.ofInteger n) = f (kind.kept n) ↔
      ∀ width, kind = .unsigned width → (IntegerRange.signed 64).Holds n →
        f (.int (Int64.ofInt n)) = f (.uint (UInt64.ofNat n.toNat)) := by
  rw [Scalar.ofInteger]
  rcases holds_of_range? hrange hn with hsigned | ⟨-, width, rfl⟩
  · rw [if_pos hsigned]
    cases kind with
    | unsigned width => simp [kept, hsigned]
    | _ => simp [kept]
  · split
    · next hsigned => simp [kept, hsigned]
    · next hsigned => simp [kept, hsigned]

end Field

namespace Payload.Item

/-- **The item that an integer is if it is written as a number.** -/
def asNumber (n : Int) : Item := .ofTree (.number (.ofInt n))

/-- **The item that an integer is if it is written as a text.** -/
def asText (n : Int) : Item := .ofTree (.text (some (Decimal.ofInt n)))

/-- A number is the scalar that the integer is. -/
theorem asNumber_eq {n : Int}
    (h : (IntegerRange.signed 64).Holds n ∨ (IntegerRange.unsigned 64).Holds n) :
    asNumber n = .plain (Scalar.ofInteger n) := by
  rw [asNumber, ofTree, Json.Numeral.scalar?_of_integer? (Json.Numeral.integer?_ofInt n),
    Scalar.ofInteger]
  split
  · rfl
  · next hsigned =>
    rw [if_pos (h.resolve_left hsigned)]
    rfl

end Payload.Item

/-! ### What is written -/

/-- The name of a column and the literal of its value. -/
def Column.spelled (column : Column) : String × String := (column.name, Statement.valueText column)

/-- **Names and literals make the text of what is written.** -/
theorem Statement.text_congr {columns others : List Column}
    (h : columns.map Column.spelled = others.map Column.spelled) (table : String) :
    (Statement.insert table columns).text = (Statement.insert table others).text ∧
      ∀ conditions, (Statement.update table columns conditions).text =
        (Statement.update table others conditions).text := by
  have hparts : ∀ f : String × String → String,
      columns.map (f ∘ Column.spelled) = others.map (f ∘ Column.spelled) := by
    intro f
    rw [← List.map_map, h, List.map_map]
  have hnames : columns.map Column.name = others.map Column.name := hparts Prod.fst
  have hvalues : columns.map valueText = others.map valueText := hparts Prod.snd
  have hchanges : (columns.map fun c => c.name ++ " = " ++ valueText c) =
      others.map fun c => c.name ++ " = " ++ valueText c :=
    hparts fun part => part.1 ++ " = " ++ part.2
  constructor
  -- the texts are opened with `delta`, since the equation of so long a text is slow to make
  · rw [text, text]
    delta insertText
    rw [names, names, hnames, hvalues]
  · intro conditions
    rw [text, text]
    delta updateText
    rw [hchanges]

/-- What is related to alike things is alike. -/
theorem map_eq_map_of_forall₂ {α β γ : Type} {R : α → β → Prop} {f : β → γ} {xs ys : List α}
    {cs ds : List β} (hcs : List.Forall₂ R xs cs) (hds : List.Forall₂ R ys ds)
    (h : List.Forall₂ (fun x y => ∀ c d, R x c → R y d → f c = f d) xs ys) :
    cs.map f = ds.map f := by
  induction h generalizing cs ds with
  | nil => rw [List.forall₂_nil_left_iff.mp hcs, List.forall₂_nil_left_iff.mp hds]
  | cons hfirst _ ih =>
    obtain ⟨c, cs, hc, hcs', rfl⟩ := List.forall₂_cons_left_iff.mp hcs
    obtain ⟨d, ds, hd, hds', rfl⟩ := List.forall₂_cons_left_iff.mp hds
    rw [List.map_cons, List.map_cons, hfirst c d hc hd, ih hcs' hds']

namespace Model

variable {model : Model} {role : Role} {field : Field} {name : String}

/-- **That a payload is accepted.** -/
def Accepts (model : Model) (role : Role) (payload : Payload) : Prop :=
  ∃ columns, model.writablePayload role payload = .ok columns

/-- **A payload is accepted if the gate stops at none of its entries**, once there is an entry and a
field that the role may write. -/
theorem accepts_iff {payload : Payload} (hne : payload ≠ [])
    (hwrites : ∃ field ∈ model.fields, field.allows role .write = true) :
    model.Accepts role payload ↔ ∀ entry ∈ payload, ∀ stop, ¬model.Stops role entry stop := by
  rw [Accepts, writablePayload_of_writes hne hwrites]
  constructor
  · rintro ⟨columns, h⟩
    exact (writableColumns_eq_ok_iff.mp h).1
  · intro hright
    cases h : model.writableColumns role payload with
    | ok columns => exact ⟨columns, rfl⟩
    | error failure =>
      obtain ⟨before, entry, behind, stop, rfl, -, hstops, -⟩ :=
        writableColumns_eq_error_iff.mp h
      exact absurd hstops (hright entry (by simp) stop)

/-- The columns that a payload writes carry its entries. -/
theorem carries_of_writablePayload {payload : Payload} {columns : List Column}
    (h : model.writablePayload role payload = .ok columns) :
    List.Forall₂ model.Carries payload columns := by
  cases writablePayload_eq_iff.mp h with
  | accepted _ _ _ hcolumns => exact hcolumns

section Replacing

variable {item other : Payload.Item} {s t : Scalar} (hfield : model.field? name = some field)

include hfield

/-- The gate stops at an item with a value unless the field's check takes the value. -/
theorem not_stops_iff (hallowed : field.allows role .write = true) (hs : field.Takes item s) :
    (∀ stop, ¬model.Stops role (name, item) stop) ↔ field.validates s = true := by
  constructor
  · intro hright
    by_contra hrefused
    exact hright _ (.refused hfield hs (Bool.eq_false_iff.mpr hrefused))
  · intro hvalid
    have hcolumn : model.writableColumn role name item = .ok { name, value := some s } := by
      simp [writableColumn, hfield, hallowed, itemValue_eq_ok_iff.mpr hs, hvalid]
    exact ((@writableColumn_eq_ok_iff model role (name, item) _).mp hcolumn).1

/-- **A payload with a value for a field** is accepted if the gate stops at none of its other
entries and the field's check takes the value. -/
theorem accepts_around_iff (hallowed : field.allows role .write = true) (hs : field.Takes item s)
    (before behind : Payload) :
    model.Accepts role (before ++ (name, item) :: behind) ↔
      (∀ entry ∈ before ++ behind, ∀ stop, ¬model.Stops role entry stop) ∧
        field.validates s = true := by
  have hwrites : ∃ field ∈ model.fields, field.allows role .write = true :=
    ⟨field, (mem_of_field? hfield).1, hallowed⟩
  rw [accepts_iff (by simp) hwrites, List.forall_mem_append, List.forall_mem_cons,
    not_stops_iff hfield hallowed hs, List.forall_mem_append]
  tauto

/-- **Values with one literal** are written in the same way. -/
theorem spelled_eq_of_literal_eq (hs : field.Takes item s) (ht : field.Takes other t)
    (h : s.literal = t.literal) {before behind : Payload} {columns columns' : List Column}
    (hcolumns : model.writablePayload role (before ++ (name, item) :: behind) = .ok columns)
    (hcolumns' : model.writablePayload role (before ++ (name, other) :: behind) = .ok columns') :
    columns.map Column.spelled = columns'.map Column.spelled := by
  have hsame : ∀ entries : Payload, List.Forall₂ (fun a b => ∀ c d, model.Carries a c →
      model.Carries b d → c.spelled = d.spelled) entries entries :=
    fun entries => List.forall₂_same.mpr fun entry _ c d hc hd => congrArg _ (hc.unique hd)
  have hreplaced : ∀ c d, model.Carries (name, item) c → model.Carries (name, other) d →
      c.spelled = d.spelled := by
    intro c d hc hd
    rw [hc.unique ⟨field, s, hfield, hs, rfl⟩, hd.unique ⟨field, t, hfield, ht, rfl⟩]
    exact congrArg (Prod.mk name) h
  exact map_eq_map_of_forall₂ (carries_of_writablePayload hcolumns)
    (carries_of_writablePayload hcolumns')
    (List.rel_append (hsame before) (.cons hreplaced (hsame behind)))

end Replacing

/-- **That one item is accepted wherever another one is**, under a name. -/
def AcceptedAlike (model : Model) (role : Role) (name : String) (item other : Payload.Item) :
    Prop :=
  ∀ before behind : Payload, model.Accepts role (before ++ (name, item) :: behind) ↔
    model.Accepts role (before ++ (name, other) :: behind)

/-- **Items are accepted alike** if the field's check judges their values alike. -/
theorem acceptedAlike_iff {item other : Payload.Item} {s t : Scalar}
    (hfield : model.field? name = some field) (hallowed : field.allows role .write = true)
    (hs : field.Takes item s) (ht : field.Takes other t) :
    model.AcceptedAlike role name item other ↔ field.validates s = field.validates t := by
  simp only [AcceptedAlike, accepts_around_iff hfield hallowed hs,
    accepts_around_iff hfield hallowed ht]
  constructor
  · intro h
    have halone := h [] []
    exact Bool.eq_iff_iff.mpr (by simpa using halone)
  · intro h before behind
    rw [h]

/-! ### The two spellings -/

/-- **Where the two spellings of an integer part ways.** The number and the text are accepted in the
same payloads just if the check of the field does not tell the signed word from the unsigned one,
and this is asked of a field of unsigned integers alone, for an integer that both kinds of word
hold. Where both spellings are accepted, the statements have one text. -/
theorem accepts_spellings_iff {kind : Field.Kind} {range : IntegerRange} {n : Int}
    (hfield : model.field? name = some field) (hallowed : field.allows role .write = true)
    (hkind : field.IsOf kind) (hrange : kind.range? = some range) (hn : range.Holds n) :
    Json.read? (Decimal.ofInt n) = some (.number (.ofInt n)) ∧
    (model.AcceptedAlike role name (.asNumber n) (.asText n) ↔
      ∀ width, kind = .unsigned width → (IntegerRange.signed 64).Holds n →
        field.validates (.int (Int64.ofInt n)) = field.validates (.uint (UInt64.ofNat n.toNat))) ∧
    ∀ before behind columns columns',
      model.writablePayload role (before ++ (name, .asNumber n) :: behind) = .ok columns →
      model.writablePayload role (before ++ (name, .asText n) :: behind) = .ok columns' →
      ∀ table, (Statement.insert table columns).text = (Statement.insert table columns').text ∧
        ∀ conditions, (Statement.update table columns conditions).text =
          (Statement.update table columns' conditions).text := by
  have hword : (IntegerRange.signed 64).Holds n ∨ (IntegerRange.unsigned 64).Holds n :=
    (Field.Kind.holds_of_range? hrange hn).imp id And.left
  have hnumber : field.Takes (.asNumber n) (Scalar.ofInteger n) := by
    rw [Payload.Item.asNumber_eq hword]
    exact .plain _
  have htext : field.Takes (.asText n) (kind.kept n) :=
    .text (hkind.reader_ofInt hrange hn)
  refine ⟨Json.read?_ofInt n, ?_, ?_⟩
  · rw [acceptedAlike_iff hfield hallowed hnumber htext]
    exact Field.Kind.apply_ofInteger_eq_iff hrange hn field.validates
  · intro before behind columns columns' hcolumns hcolumns' table
    have hliteral : (Scalar.ofInteger n).literal = (kind.kept n).literal := by
      rw [Scalar.literal_of_number? (Scalar.number?_ofInteger hword),
        Scalar.literal_of_number? (Field.Kind.number?_kept hrange hn)]
    exact Statement.text_congr
      (spelled_eq_of_literal_eq hfield hnumber htext hliteral hcolumns hcolumns') table

/-! ### A check that tells words apart, and a name that is declared twice -/

/-- A table of counts up to 255 with a check. -/
def stock (check : Scalar → Bool) : Model :=
  { table := "stock"
    fields := [{ Field.unsigned 8 "count" with check := some check, grants := [.readWrite ⟨1⟩] }] }

/-- A check that does not look at the kind of word lets both spellings in. -/
theorem acceptedAlike_stock :
    (IntegerRange.unsigned 8).Holds 5 ∧
      (stock (· ≠ .null)).AcceptedAlike ⟨1⟩ "count" (.asNumber 5) (.asText 5) :=
  ⟨by decide, (@accepts_spellings_iff (stock (· ≠ .null)) ⟨1⟩ _ "count" (.unsigned .eight)
    (.unsigned 8) 5 rfl rfl rfl rfl (by decide)).2.1.mpr fun _ _ _ => rfl⟩

/-- Whether a scalar is a signed integer that is not negative. -/
def isSignedNatural : Scalar → Bool
  | .int n => 0 ≤ n.toInt
  | _ => false

/-- A table with a column that is declared twice, as a text and then as an integer. -/
def retyped : Model :=
  { table := "dup"
    fields :=
      [{ Field.text "a" with grants := [.readWrite ⟨1⟩] },
        { Field.signed 64 "a" with grants := [.readWrite ⟨1⟩] }] }

/-- **The spellings may part ways**: if the check asks for a signed word, or if the name is that of
another field as well, which comes first and is no field of integers. -/
theorem spellings_differ :
    ((∃ field, (stock isSignedNatural).field? "count" = some field ∧
        field.allows ⟨1⟩ .write = true ∧ field.IsOf (.unsigned .eight)) ∧
      (stock isSignedNatural).writablePayload ⟨1⟩ [("count", .asNumber 5)] =
        .ok [{ name := "count", value := some (.int 5) }] ∧
      (stock isSignedNatural).writablePayload ⟨1⟩ [("count", .asText 5)] =
        .error (.refused (.invalidField "count"))) ∧
    (∃ field ∈ retyped.fields, field.name = "a" ∧ field.allows ⟨1⟩ .write = true ∧
        field.IsOf (.signed .sixtyFour)) ∧
      retyped.writablePayload ⟨1⟩ [("a", .asNumber 5)] =
        .ok [{ name := "a", value := some (.int 5) }] ∧
      retyped.writablePayload ⟨1⟩ [("a", .asText 5)] =
        .ok [{ name := "a", value := some (.text "5") }] ∧
      (Statement.insert "dup" [{ name := "a", value := some (.int 5) }]).text ≠
        (Statement.insert "dup" [{ name := "a", value := some (.text "5") }]).text := by
  have hnumber : Payload.Item.asNumber 5 = .plain (.int 5) :=
    Payload.Item.asNumber_eq (.inl (by decide))
  have htext : Payload.Item.asText 5 = .text "5" := by decide +kernel
  have hretyped : { Field.signed 64 "a" with grants := [.readWrite ⟨1⟩] } ∈ retyped.fields :=
    List.mem_cons_of_mem _ List.mem_cons_self
  rw [hnumber, htext]
  refine ⟨⟨⟨_, rfl, rfl, rfl⟩, rfl, ?_⟩, ⟨_, hretyped, rfl, rfl, rfl⟩, rfl, rfl, ?_⟩
  · decide +kernel
  · decide +kernel

end Model

end QueryGate
