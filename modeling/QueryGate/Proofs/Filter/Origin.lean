import QueryGate.Filter.Directive
import QueryGate.Proofs.Number.Integer

/-!
# Where directives come from

A key with its values makes a directive in one of seven ways, two for a key that is the name of a
field and five for a key that names a directive (`QueryGate.Directive.Origin`). There are no others,
and none of them is passed over for another one (`QueryGate.Directive.of?_eq_some_iff`): the words
by which groups, orders, limits and offsets are asked for are no names of operators.

What is to be known of all directives is known from here case by case, without another look at how
they are read.
-/

namespace QueryGate

/-- The word by which a key names a directive, in lower case. -/
def Key.word (key : Key) : String := String.ofList (key.name.toList.map CharClass.lower)

namespace Directive

/-- **That a directive comes from a key with its values.** -/
inductive Origin (key : Key) (values : List String) : Directive → Prop
  /-- The key is a field, which is to have the first value. -/
  | equal {first : String} {rest : List String} (hplain : key.named = false)
      (hvalues : values = first :: rest) (hbrackets : key.brackets.head? ≠ some "") :
      Origin key values (.filter (flagged key key.name .equal (.text first)))
  /-- The key is a field with an empty pair of brackets, which is to have one of the values. -/
  | oneOf (hplain : key.named = false) (hvalues : values ≠ [])
      (hbrackets : key.brackets.head? = some "") :
      Origin key values (.filter (flagged key key.name .oneOf (.texts values)))
  /-- The key names an operator, and the values make an operand for it. -/
  | condition {operator : Operator} {field : String} {operand : Operand}
      (hnamed : key.named = true) (hoperator : Operator.ofName? key.word = some operator)
      (hfield : key.field? = some field) (hoperand : operand? operator values = some operand) :
      Origin key values (.filter (flagged key field operator operand))
  /-- The key asks for groups. -/
  | group {field : String} (hnamed : key.named = true) (hword : key.word ∈ ["group", "group-by"])
      (hfield : key.field? = some field) :
      Origin key values (.group field (flagged key field .group (.single (groupValue values))))
  /-- The key asks for an order. -/
  | order {field : String} (hnamed : key.named = true)
      (hword : key.word ∈ ["sort", "order", "order-by"]) (hfield : key.field? = some field) :
      Origin key values
        (.order ⟨field, (values.head?.map Direction.ofText).getD .ascending⟩)
  /-- The key asks for a limit. -/
  | limit {count : UInt64} (hnamed : key.named = true) (hword : key.word = "limit")
      (hcount : rowCount? values = some count) : Origin key values (.limit count)
  /-- The key asks for an offset. -/
  | offset {count : UInt64} (hnamed : key.named = true) (hword : key.word = "offset")
      (hcount : rowCount? values = some count) : Origin key values (.offset count)

variable {key : Key} {values : List String} {directive : Directive}

/-! ### Directives and their origins -/

/-- What a key makes that names a directive comes from that key. -/
theorem origin_of_ofNamed? (hnamed : key.named = true)
    (h : ofNamed? key values = some directive) : Origin key values directive := by
  rw [ofNamed?] at h
  split at h
  case h_1 hword | h_2 hword =>
    obtain ⟨field, hfield, rfl⟩ := Option.map_eq_some_iff.mp h
    exact .group hnamed (by simp [Key.word, hword]) hfield
  case h_3 hword | h_4 hword | h_5 hword =>
    obtain ⟨field, hfield, rfl⟩ := Option.map_eq_some_iff.mp h
    exact .order hnamed (by simp [Key.word, hword]) hfield
  case h_6 hword =>
    obtain ⟨count, hcount, rfl⟩ := Option.map_eq_some_iff.mp h
    exact .limit hnamed hword hcount
  case h_7 hword =>
    obtain ⟨count, hcount, rfl⟩ := Option.map_eq_some_iff.mp h
    exact .offset hnamed hword hcount
  case h_8 =>
    obtain ⟨operator, hoperator, h⟩ := Option.bind_eq_some_iff.mp h
    obtain ⟨field, hfield, h⟩ := Option.bind_eq_some_iff.mp h
    obtain ⟨operand, hoperand, h⟩ := Option.bind_eq_some_iff.mp h
    obtain rfl := Option.some.inj h
    exact .condition hnamed hoperator hfield hoperand

/-- What a key makes that is a field comes from that key. -/
theorem origin_of_ofPlain? (hplain : key.named = false)
    (h : ofPlain? key values = some directive) : Origin key values directive := by
  cases values with
  | nil => cases h
  | cons first rest =>
    simp only [ofPlain?] at h
    split at h
    · next hbrackets =>
      obtain rfl := Option.some.inj h
      exact .oneOf hplain (List.cons_ne_nil _ _) (by rw [hbrackets]; rfl)
    · next hbrackets =>
      obtain rfl := Option.some.inj h
      refine .equal hplain rfl fun hhead => ?_
      obtain ⟨others, hothers⟩ := List.head?_eq_some_iff.mp hhead
      exact hbrackets others hothers

/-- A word that asks for anything but a condition is no name of an operator. -/
theorem ofName?_eq_none {word : String}
    (h : word ∈ ["group", "group-by", "sort", "order", "order-by", "limit", "offset"]) :
    Operator.ofName? word = none := by
  have hall : ∀ word ∈ ["group", "group-by", "sort", "order", "order-by", "limit", "offset"],
      Operator.ofName? word = none := by
    decide
  exact hall word h

/-- What comes from a key that names a directive is made by it. -/
theorem Origin.ofNamed?_eq (h : Origin key values directive) (hnamed : key.named = true) :
    ofNamed? key values = some directive := by
  cases h with
  | equal hplain | oneOf hplain =>
    rw [hnamed] at hplain
    cases hplain
  | condition _ hoperator hfield hoperand =>
    have hother : key.word ∉
        ["group", "group-by", "sort", "order", "order-by", "limit", "offset"] := fun hword => by
      rw [ofName?_eq_none hword] at hoperator
      cases hoperator
    simp only [List.mem_cons, List.not_mem_nil, or_false, not_or, Key.word] at hother hoperator
    rw [ofNamed?]
    simp [hother, hoperator, hfield, hoperand]
  | group _ hword hfield =>
    simp only [List.mem_cons, List.not_mem_nil, or_false, Key.word] at hword
    rw [ofNamed?]
    rcases hword with hword | hword <;> simp [hword, hfield]
  | order _ hword hfield =>
    simp only [List.mem_cons, List.not_mem_nil, or_false, Key.word] at hword
    rw [ofNamed?]
    rcases hword with hword | hword | hword <;> simp [hword, hfield]
  | limit _ hword hcount | offset _ hword hcount =>
    rw [Key.word] at hword
    rw [ofNamed?, hword]
    simp [hcount]

/-- What comes from a key that is a field is made by it. -/
theorem Origin.ofPlain?_eq (h : Origin key values directive) (hplain : key.named = false) :
    ofPlain? key values = some directive := by
  cases h with
  | equal _ hvalues hbrackets =>
    subst hvalues
    simp only [ofPlain?]
    split
    · next others hothers =>
      rw [hothers] at hbrackets
      exact absurd rfl hbrackets
    · rfl
  | oneOf _ hvalues hbrackets =>
    obtain ⟨first, rest, rfl⟩ := List.exists_cons_of_ne_nil hvalues
    obtain ⟨others, hothers⟩ := List.head?_eq_some_iff.mp hbrackets
    simp only [ofPlain?, hothers]
  | condition hnamed | group hnamed | order hnamed | limit hnamed | offset hnamed =>
    rw [hplain] at hnamed
    cases hnamed

/-- **A key with its values makes a directive if the directive comes from them.** -/
theorem of?_eq_some_iff : of? key values = some directive ↔ Origin key values directive := by
  rw [of?]
  split
  · next hnamed => exact ⟨origin_of_ofNamed? hnamed, fun h => h.ofNamed?_eq hnamed⟩
  · next hnamed =>
    have hplain : key.named = false := Bool.eq_false_iff.mpr hnamed
    exact ⟨origin_of_ofPlain? hplain, fun h => h.ofPlain?_eq hplain⟩

/-! ### What is known of some of them -/

/-- **A number of rows is what the first value spells**, if a signed word of 64 bits can hold it and
it is not negative. Further values do not matter. -/
theorem rowCount?_eq_some_iff {count : UInt64} :
    rowCount? values = some count ↔
      ∃ first rest, values = first :: rest ∧ Decimal.Spells first.toList count.toNat ∧
        count.toNat ≤ 9223372036854775807 := by
  have hgreatest : (IntegerRange.signed 64).greatest = 9223372036854775807 := by
    decide
  have hleast : (IntegerRange.signed 64).least ≤ 0 := by
    decide
  cases values with
  | nil => exact iff_of_false (fun h => nomatch h) fun ⟨_, _, h, _⟩ => nomatch h
  | cons first rest =>
    rw [rowCount?]
    constructor
    · intro h
      split at h
      · next n hread =>
        obtain ⟨hspells, ⟨-, hle⟩, -⟩ := (IntegerRange.read_eq_ok_iff (by decide)).mp hread
        rw [hgreatest] at hle
        split at h
        · next hnonneg =>
          have hlt : n.toNat < UInt64.size := (Int.toNat_lt hnonneg).mpr (by
            rw [UInt64.size]
            omega)
          obtain rfl := Option.some.inj h
          rw [UInt64.toNat_ofNat_of_lt' hlt, Int.toNat_of_nonneg hnonneg]
          exact ⟨first, rest, rfl, hspells, Int.toNat_le.mpr hle⟩
        · cases h
      · cases h
    · rintro ⟨_, _, hvalues, hspells, hle⟩
      obtain ⟨rfl, rfl⟩ := List.cons.inj hvalues
      have hread : (IntegerRange.signed 64).read first.toList = .ok count.toNat := by
        refine (IntegerRange.read_eq_ok_iff (by decide)).mpr ⟨hspells, ⟨?_, ?_⟩, fun _ => by decide⟩
        · exact Int.le_trans hleast (Int.natCast_nonneg _)
        · rw [hgreatest]
          omega
      simp [hread]

/-- A group comes with a condition on the groups of its field. -/
theorem Origin.of_group {field : String} {having : Condition}
    (h : Origin key values (.group field having)) :
    having.field = field ∧ having.operator = .group := by
  cases h with
  | group => exact ⟨rfl, rfl⟩

/-- **A parameter makes the directive that its key makes of its values**, ranked by the number of
the key. -/
theorem ofEntry_eq_ok_iff {text : String} {ranked : Ranked} :
    ofEntry (text, values) = .ok ranked ↔
      ∃ key, Key.parse? text = some key ∧ of? key values = some ranked.directive ∧
        ranked.number = key.number := by
  rw [ofEntry]
  cases hkey : Key.parse? text with
  | none => simp
  | some key =>
    cases hdirective : of? key values with
    | none => simp [hdirective]
    | some directive =>
      obtain ⟨number, directive'⟩ := ranked
      simp [hdirective, eq_comm, and_comm]

end Directive

end QueryGate
