import QueryGate.Proofs.Filter.Origin
import QueryGate.Proofs.Filter.Ranking
import QueryGate.Proofs.Filter.Screening
import QueryGate.Proofs.Filter.Written
import QueryGate.Sql.Statement

/-!
# Conditions that fit

A condition whose operand does not fit its operator cannot be written and leaves no trace in a
statement. No condition of a query string is lost that way (`QueryGate.Clauses.writesAll_screened`):
what is read of a query string fits (`QueryGate.Operator.Suits`), and so does what an allow-list
makes of it, whatever its readers make of the texts.

## Where operands get their shape

A directive gets its operand from the values of its key, in one way if an operator is named and in
others if the key is just a field, and each looks at how many values there are
(`QueryGate.Directive.Origin.suits`). Screening then replaces texts by scalars, one by one, so it
changes neither the shape of an operand nor the number of its scalars.
-/

namespace QueryGate

/-! ### Operators and operands -/

/-- **That an operand has the shape that an operator needs**: two bounds, at least one alternative,
or one scalar. -/
inductive Operator.Suits : Operator → Operand → Prop
  /-- A range has two bounds. -/
  | between (low high : Scalar) : Suits .between (.many [low, high])
  /-- There is at least one alternative. -/
  | oneOf (first : Scalar) (rest : List Scalar) : Suits .oneOf (.many (first :: rest))
  /-- Every other operator has one scalar. -/
  | single {operator : Operator} (hrange : operator ≠ .between) (hlist : operator ≠ .oneOf)
      (s : Scalar) : Suits operator (.single s)

theorem Operator.Suits.equal (s : Scalar) : Suits .equal (.single s) :=
  .single (by decide) (by decide) s

theorem Operator.Suits.group (s : Scalar) : Suits .group (.single s) :=
  .single (by decide) (by decide) s

/-- **A condition that fits can be written.** -/
theorem Condition.isSome_text? {c : Condition} (h : c.operator.Suits c.operand) :
    c.text?.isSome = true := by
  obtain ⟨field, operand, operator, connective, negated⟩ := c
  cases h with
  | between low high => rfl
  | oneOf first rest => rfl
  | single hrange hlist s =>
    cases operator with
    | between => exact absurd rfl hrange
    | oneOf => exact absurd rfl hlist
    | _ => rfl

/-! ### What is read -/

namespace Directive

variable {key : Key} {values : List String} {directive : Directive} {c : Condition}

/-- **What values make for an operator suits it.** -/
theorem suits_of_operand? {operator : Operator} {operand : Operand}
    (h : operand? operator values = some operand) : operator.Suits operand := by
  cases operator with
  | between =>
    rcases values with _ | ⟨first, _ | ⟨second, rest⟩⟩
    · cases h
    · cases h
    · obtain rfl := Option.some.inj h
      exact .between _ _
  | oneOf =>
    cases values with
    | nil => cases h
    | cons first rest =>
      obtain rfl := Option.some.inj h
      exact .oneOf _ _
  | isNull =>
    obtain rfl := Option.some.inj h
    exact .single (by decide) (by decide) _
  | equal | group => cases h
  | like | less | lessOrEqual | greater | greaterOrEqual =>
    obtain ⟨first, -, rfl⟩ := Option.map_eq_some_iff.mp h
    exact .single (by decide) (by decide) _

/-- **The condition of a directive fits**, wherever the directive comes from. -/
theorem Origin.suits (h : Origin key values directive) (hc : directive.condition? = some c) :
    c.operator.Suits c.operand := by
  cases h with
  | equal =>
    obtain rfl := Option.some.inj hc
    exact .equal _
  | oneOf _ hvalues =>
    obtain ⟨first, rest, rfl⟩ := List.exists_cons_of_ne_nil hvalues
    obtain rfl := Option.some.inj hc
    exact .oneOf _ _
  | condition _ _ _ hoperand =>
    obtain rfl := Option.some.inj hc
    exact suits_of_operand? hoperand
  | group =>
    obtain rfl := Option.some.inj hc
    exact Operator.Suits.group _
  | order | limit | offset => cases hc

/-- The condition of a parameter's directive fits. -/
theorem suits_of_ofEntry {entry : String × List String} {ranked : Ranked}
    (h : ofEntry entry = .ok ranked) (hc : ranked.directive.condition? = some c) :
    c.operator.Suits c.operand := by
  obtain ⟨key, -, hdirective, -⟩ := ofEntry_eq_ok_iff.mp h
  exact (of?_eq_some_iff.mp hdirective).suits hc

end Directive

namespace Clauses

/-- **The conditions that directives make are the conditions of the directives.** -/
theorem mem_conditions_ofDirectives {directives : List Directive} {c : Condition} :
    c ∈ (ofDirectives directives).conditions ↔
      ∃ directive ∈ directives, directive.condition? = some c := by
  simp only [ofDirectives, foldl_add, conditions, List.nil_append, List.mem_append,
    List.mem_filterMap, List.mem_map]
  constructor
  · rintro (⟨directive, hdirective, hfilter⟩ | ⟨group, ⟨directive, hdirective, hgroup⟩, rfl⟩)
    · cases directive <;> cases hfilter
      exact ⟨_, hdirective, rfl⟩
    · cases directive <;> cases hgroup
      exact ⟨_, hdirective, rfl⟩
  · rintro ⟨directive, hdirective, hc⟩
    cases directive with
    | filter condition => exact Or.inl ⟨_, hdirective, hc⟩
    | group field having =>
      exact Or.inr ⟨(field, having), ⟨_, hdirective, rfl⟩, Option.some.inj hc⟩
    | order key => cases hc
    | limit count => cases hc
    | offset count => cases hc

/-- **The conditions that parameters ask for fit.** -/
theorem suits_of_ofParams {params : Params} {c : Condition}
    (h : c ∈ (ofParams params).value.conditions) : c.operator.Suits c.operand := by
  obtain ⟨directive, hdirective, hc⟩ := mem_conditions_ofDirectives.mp h
  obtain ⟨ranked, hranked, rfl⟩ := List.mem_map.mp hdirective
  obtain ⟨entry, -, hentry⟩ := Noted.mem_value_sift.mp (List.mem_mergeSort.mp hranked)
  exact Directive.suits_of_ofEntry hentry hc

end Clauses

/-! ### What passes an allow-list -/

namespace AllowList

/-- **What a reader makes of an operand suits the operators that the operand suits**, whatever it
makes of the texts. -/
theorem Reads.suits {reader : Reader} {operator : Operator} {operand passed : Operand}
    (h : Reads reader operator operand passed) (hsuits : operator.Suits operand) :
    operator.Suits passed := by
  cases h with
  | absent => exact hsuits
  | single =>
    cases hsuits with
    | single hrange hlist => exact .single hrange hlist _
  | many _ h =>
    cases hsuits with
    | between low high =>
      obtain ⟨low, high, rfl⟩ := List.length_eq_two.mp h.length_eq.symm
      exact .between low high
    | oneOf first rest =>
      obtain ⟨first, rest, rfl⟩ := List.exists_cons_of_length_eq_add_one h.length_eq.symm
      exact .oneOf first rest

/-- A condition that fits still does when it has passed. -/
theorem suits_of_screen {list : AllowList} {condition passed : Condition}
    (h : list.screen condition = .ok passed) (hsuits : condition.operator.Suits condition.operand) :
    passed.operator.Suits passed.operand := by
  obtain ⟨reader, -, operand, hreads, rfl⟩ := screen_eq_ok_iff.mp h
  exact hreads.suits hsuits

end AllowList

/-! ### What is written -/

namespace Statement

/-- **Texts strung together**, each in parentheses and each after the first behind its connective;
nothing if there are none. -/
def strung : List (Connective × String) → Option String
  | [] => none
  | first :: rest =>
    some ("(" ++ first.2 ++ ")" ++
      String.join (rest.map fun link => " " ++ link.1.word ++ " (" ++ link.2 ++ ")"))

/-- **The texts of the conditions that can be written**, each with the connective of its
condition. -/
def written (conditions : List Condition) : List (Connective × String) :=
  conditions.filterMap fun c => c.text?.map fun text => (c.connective, text)

variable {conditions : List Condition} {texts : List String}

/-- A chain goes on with the texts of further conditions, as far as they can be written. -/
theorem chainAfter_eq_append (before : String) (conditions : List Condition) :
    chainAfter before conditions =
      before ++ String.join ((written conditions).map fun link =>
        " " ++ link.1.word ++ " (" ++ link.2 ++ ")") := by
  induction conditions generalizing before with
  | nil => simp [chainAfter, written, String.join]
  | cons c rest ih =>
    rw [chainAfter]
    cases hc : c.text? with
    | none => simp [ih, written, hc]
    | some text => simp [ih, written, hc, String.append_assoc]

/-- **A chain strings together** the texts of the conditions that can be written. -/
theorem chain?_eq_strung (conditions : List Condition) :
    chain? conditions = strung (written conditions) := by
  induction conditions with
  | nil => rfl
  | cons c rest ih =>
    rw [chain?]
    cases hc : c.text? with
    | none => simp [ih, written, hc]
    | some text => simp [chainAfter_eq_append, written, hc, strung]

/-- Of conditions that can all be written, all the texts are there. -/
theorem written_of_map_text? (h : conditions.map Condition.text? = texts.map some) :
    written conditions = (conditions.map Condition.connective).zip texts := by
  induction conditions generalizing texts with
  | nil => rfl
  | cons c rest ih =>
    obtain ⟨text, others, rfl, htext, hothers⟩ := List.map_eq_cons_iff.mp h.symm
    have hrest := ih hothers.symm
    rw [written] at hrest ⊢
    rw [List.filterMap_cons, ← htext, hrest]
    rfl

/-- **That conditions are written one and all**, in their order. -/
structure WritesAll (conditions : List Condition) : Prop where
  /-- Each operand suits its operator. -/
  suits : ∀ c ∈ conditions, c.operator.Suits c.operand
  /-- Each condition has a text, and a clause is these texts strung together behind its keyword. -/
  written : ∃ texts : List String, conditions.map Condition.text? = texts.map some ∧
    ∀ keyword, clause? keyword conditions =
      (strung ((conditions.map Condition.connective).zip texts)).map fun chain =>
        keyword ++ " " ++ chain
  /-- A clause is left out only if there are no conditions. -/
  absent : ∀ keyword, clause? keyword conditions = none ↔ conditions = []

/-- **Conditions that fit are written one and all.** -/
theorem writesAll_of_suits (h : ∀ c ∈ conditions, c.operator.Suits c.operand) :
    WritesAll conditions := by
  have htexts : conditions.map Condition.text? =
      (conditions.map fun c => c.text?.getD "").map some := by
    rw [List.map_map]
    refine List.map_congr_left fun c hc => ?_
    obtain ⟨text, htext⟩ := Option.isSome_iff_exists.mp (Condition.isSome_text? (h c hc))
    rw [Function.comp_apply, htext, Option.getD_some]
  have hchain : chain? conditions = strung ((conditions.map Condition.connective).zip
      (conditions.map fun c => c.text?.getD "")) := by
    rw [chain?_eq_strung, written_of_map_text? htexts]
  refine ⟨h, ⟨_, htexts, fun keyword => ?_⟩, fun keyword => ?_⟩
  · rw [clause?, hchain]
  · rw [clause?, Option.map_eq_none_iff, hchain]
    cases conditions with
    | nil => simp [strung]
    | cons c rest => simp [strung]

end Statement

/-- **No condition of a query string is lost.** Whatever the query string, and whatever the readers
of the allow-list make of its texts, the conditions on rows and those on groups are written one and
all. -/
theorem Clauses.writesAll_screened (raw : String) (list : AllowList) :
    Statement.WritesAll ((ofQueryString raw).value.screened list).value.filters ∧
      Statement.WritesAll ((ofQueryString raw).value.screened list).value.having := by
  have hsuits : ∀ conditions : List Condition, conditions ⊆ (ofQueryString raw).value.conditions →
      ∀ passed ∈ (Noted.sift list.screen conditions).value,
        passed.operator.Suits passed.operand := by
    intro conditions hsub passed hpassed
    obtain ⟨condition, hcondition, hscreen⟩ := Noted.mem_value_sift.mp hpassed
    exact AllowList.suits_of_screen hscreen (suits_of_ofParams (hsub hcondition))
  exact ⟨Statement.writesAll_of_suits (hsuits _ (List.subset_append_left _ _)),
    Statement.writesAll_of_suits (hsuits _ (List.subset_append_right _ _))⟩

/-- An allow-list with a reader that takes texts as they are, and one that makes no value of any. -/
def AllowList.visits : AllowList :=
  ⟨[("guest", fun raw => .ok (.text raw)), ("day", fun _ => .ok .null)]⟩

/-- A query string that asks for two guests, for a range of days and for a group of guests. -/
def visits : String := "guest[]=a&|:between[day]=1&:group[guest]=b&guest[]=c&|:between[day]=9"

/-- The guests are both there, and the range has two bounds though they are read as no values. -/
example :
    Statement.clause? "WHERE"
          ((Clauses.ofQueryString visits).value.screened .visits).value.filters =
        some "WHERE (guest IN ('a', 'c')) OR (day BETWEEN NULL AND NULL)" ∧
      Statement.clause? "HAVING"
          ((Clauses.ofQueryString visits).value.screened .visits).value.having =
        some "HAVING (guest = 'b')" := by
  refine ⟨?_, ?_⟩
  · cbv
  · cbv

end QueryGate
