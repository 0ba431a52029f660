import QueryGate.Proofs.Filter.Fitting

/-!
# What a change is restricted to

A change of rows, to new values or to nothing, names the rows by a predicate, and what the predicate
says is what keeps all the other rows as they are. This module says how far that goes when some of
the conditions cannot be written.

A condition cannot be written if its operand has not the shape that its operator needs, and only
then (`QueryGate.Condition.text?_eq_none_iff`). A list of which nothing can be written restricts a
change to no rows at all. But one condition that can be written is enough for the change to be
restricted to what that one says, and the others are then left out as if they had never been asked
for (`QueryGate.Statement.restrictedTo_of_joined`): where a tenant and an empty list of identities
are asked for, all the rows of the tenant are changed
(`QueryGate.Statement.not_restrictedTo_false`).
-/

namespace QueryGate

/-! ### Conditions that cannot be written -/

/-- **That an operand has not the shape that an operator needs.** Any operand will do for the
absence of a value. -/
inductive Operator.Mismatches : Operator → Operand → Prop
  /-- A range with less or more than two bounds. -/
  | range {items : List Scalar} (h : items.length ≠ 2) : Mismatches .between (.many items)
  /-- No alternatives. -/
  | alternatives : Mismatches .oneOf (.many [])
  /-- One scalar where there should be a list. -/
  | single {operator : Operator} (h : operator = .between ∨ operator = .oneOf) (s : Scalar) :
      Mismatches operator (.single s)
  /-- A list where there should be one scalar. -/
  | many {operator : Operator} (hrange : operator ≠ .between) (hlist : operator ≠ .oneOf)
      (habsence : operator ≠ .isNull) (items : List Scalar) : Mismatches operator (.many items)

namespace Condition

variable {c : Condition}

/-- An operand of the wrong shape is in the way of a text. -/
theorem text?_eq_none_of_mismatches (h : c.operator.Mismatches c.operand) : c.text? = none := by
  obtain ⟨field, operand, operator, connective, negated⟩ := c
  cases h with
  | @range items hitems =>
    rcases items with _ | ⟨low, _ | ⟨high, _ | ⟨third, rest⟩⟩⟩
    · rfl
    · rfl
    · exact absurd rfl hitems
    · rfl
  | alternatives => rfl
  | single hoperator s => rcases hoperator with rfl | rfl <;> rfl
  | many hrange hlist habsence items =>
    cases operator with
    | between => exact absurd rfl hrange
    | oneOf => exact absurd rfl hlist
    | isNull => exact absurd rfl habsence
    | _ => rfl

/-- An operand that is not of the wrong shape suits its operator, or any operand would. -/
theorem suits_of_not_mismatches {operator : Operator} {operand : Operand}
    (h : ¬operator.Mismatches operand) (habsence : operator ≠ .isNull) :
    operator.Suits operand := by
  cases operand with
  | single s =>
    refine .single (fun hrange => h ?_) (fun hlist => h ?_) s
    · exact .single (Or.inl hrange) s
    · exact .single (Or.inr hlist) s
  | many items =>
    by_cases hrange : operator = .between
    · subst hrange
      have hlength : items.length = 2 := Decidable.not_not.mp fun hitems => h (.range hitems)
      obtain ⟨low, high, rfl⟩ := List.length_eq_two.mp hlength
      exact .between low high
    · by_cases hlist : operator = .oneOf
      · subst hlist
        cases items with
        | nil => exact absurd .alternatives h
        | cons first rest => exact .oneOf first rest
      · exact absurd (.many hrange hlist habsence items) h

/-- **A condition cannot be written if its operand has the wrong shape**, and only then. -/
theorem text?_eq_none_iff : c.text? = none ↔ c.operator.Mismatches c.operand := by
  refine ⟨fun h => ?_, text?_eq_none_of_mismatches⟩
  by_contra hshape
  have hwritten : c.text?.isSome = true := by
    by_cases habsence : c.operator = .isNull
    · rw [text?, habsence]
      rfl
    · exact isSome_text? (suits_of_not_mismatches hshape habsence)
  rw [h] at hwritten
  exact Bool.false_ne_true hwritten

/-- There is a blank in the text of a condition, whatever it says. -/
theorem blank_mem_text? {text : String} (h : c.text? = some text) : ' ' ∈ text.toList := by
  have hbare : ∀ {field operator operand bare},
      Condition.bare field operator operand = some bare → ' ' ∈ bare.toList := by
    intro field operator operand bare hbare
    rw [Condition.bare.eq_def] at hbare
    split at hbare
    case h_8 => cases hbare
    all_goals
      obtain rfl := Option.some.inj hbare
      simp
  rw [text?] at h
  split at h
  · obtain rfl := Option.some.inj h
    split <;> simp
  · obtain rfl := Option.some.inj h
    split <;> simp
  · obtain rfl := Option.some.inj h
    split <;> simp
  · obtain ⟨inner, hinner, rfl⟩ := Option.map_eq_some_iff.mp h
    have hblank := hbare hinner
    split
    · simp [hblank]
    · exact hblank

end Condition

namespace Statement

variable {conditions : List Condition} {predicate : String}

/-! ### Chains of conditions that must all hold -/

/-- **Conditions that must all hold** are strung together by one word. -/
theorem strung_of_joined {links : List (Connective × String)}
    (joined : ∀ link ∈ links, link.1 = .and) (hlinks : links ≠ []) :
    strung links =
      some (String.intercalate " AND " (links.map fun link => "(" ++ link.2 ++ ")")) := by
  obtain ⟨first, rest, rfl⟩ := List.exists_cons_of_ne_nil hlinks
  have hrest : ∀ (rest : List (Connective × String)) (before : String),
      (∀ link ∈ rest, link.1 = .and) →
        before ++ String.join (rest.map fun link =>
            " " ++ link.1.word ++ " (" ++ link.2 ++ ")") =
          String.intercalate " AND " (before :: rest.map fun link => "(" ++ link.2 ++ ")") := by
    intro rest
    induction rest with
    | nil => simp [String.join]
    | cons link rest ih =>
      intro before joined
      obtain ⟨hlink, hrest⟩ := List.forall_mem_cons.mp joined
      have ihRest := ih ("(" ++ link.2 ++ ")") hrest
      have hword : " " ++ Connective.and.word ++ " (" = " AND " ++ "(" := by decide
      rw [List.map_cons, List.map_cons, String.intercalate_cons_cons, ← ihRest, hlink, hword]
      simp only [String.join_cons, String.append_assoc]
  rw [strung, hrest rest _ (List.forall_mem_cons.mp joined).2, List.map_cons]

/-- The texts of conditions that can be written, without their connectives. -/
theorem map_snd_written (conditions : List Condition) :
    (written conditions).map Prod.snd = conditions.filterMap Condition.text? := by
  rw [written, List.map_filterMap]
  refine List.filterMap_congr fun c _ => ?_
  rw [Option.map_map]
  exact Option.map_id'

/-- **The chain of conditions that must all hold**: those that can be written, if there are any. -/
theorem chain?_of_joined (joined : ∀ c ∈ conditions, c.connective = .and) :
    chain? conditions =
      if conditions.filterMap Condition.text? = [] then none
      else some (String.intercalate " AND "
        ((conditions.filterMap Condition.text?).map fun text => "(" ++ text ++ ")")) := by
  have hjoined : ∀ link ∈ written conditions, link.1 = .and := by
    intro link hlink
    obtain ⟨c, hc, hlink⟩ := List.mem_filterMap.mp hlink
    obtain ⟨text, -, rfl⟩ := Option.map_eq_some_iff.mp hlink
    exact joined c hc
  rw [chain?_eq_strung, ← map_snd_written]
  split
  · next hnothing =>
    rw [List.map_eq_nil_iff.mp hnothing]
    rfl
  · next hsomething =>
    rw [strung_of_joined hjoined fun h => hsomething (by rw [h]; rfl), List.map_map]
    rfl

/-- No text that is put in parentheses and strung together with others says that nothing holds. -/
theorem intercalate_ne_false {texts : List String} (htexts : texts ≠ [])
    (hblank : ∀ text ∈ texts, ' ' ∈ text.toList) :
    String.intercalate " AND " (texts.map fun text => "(" ++ text ++ ")") ≠ "(false)" := by
  obtain ⟨text, rest, rfl⟩ := List.exists_cons_of_ne_nil htexts
  intro h
  have hmem : ' ' ∈ (String.intercalate " AND "
      ((text :: rest).map fun text => "(" ++ text ++ ")")).toList := by
    have htext := hblank text List.mem_cons_self
    cases rest with
    | nil => simp [htext]
    | cons next rest => simp [String.intercalate_cons_cons, htext]
  rw [h] at hmem
  exact absurd hmem (by decide)

/-! ### Changes -/

/-- **That conditions restrict a change to what a predicate says**, be it a change to new values or
to nothing. -/
structure RestrictedTo (conditions : List Condition) (predicate : String) : Prop where
  /-- New values are given to the rows that the predicate names. -/
  update : ∀ (table : String) (columns : List Column),
    (Statement.update table columns conditions).text =
      "UPDATE " ++ table ++ "\nSET " ++
        String.intercalate ", " (columns.map fun c => c.name ++ " = " ++ valueText c) ++
        "\nWHERE " ++ predicate ++ ";"
  /-- The rows that the predicate names are removed. -/
  delete : ∀ table : String,
    (Statement.delete table conditions).text =
      "DELETE FROM " ++ table ++ "\nWHERE " ++ predicate ++ ";"

/-- Conditions restrict a change to one predicate. -/
theorem restrictedTo_iff : RestrictedTo conditions predicate ↔ guarded conditions = predicate := by
  constructor
  · intro h
    have hdelete : "DELETE FROM " ++ "" ++ "\nWHERE " ++ guarded conditions ++ ";" =
        "DELETE FROM " ++ "" ++ "\nWHERE " ++ predicate ++ ";" := h.delete ""
    have hchars := congrArg String.toList hdelete
    simp only [String.toList_append, List.append_cancel_left_eq,
      List.append_cancel_right_eq] at hchars
    exact String.toList_inj.mp hchars
  · rintro rfl
    exact ⟨fun _ _ => rfl, fun _ => rfl⟩

/-- **A change is closed as long as nothing can be written.** Conditions that must all hold restrict
it to no rows if the operand of each has the wrong shape, and only then. Otherwise they restrict it
to what those say that can be written, and the others are left out. -/
theorem restrictedTo_of_joined (joined : ∀ c ∈ conditions, c.connective = .and) :
    (∀ c ∈ conditions, c.text? = none ↔ c.operator.Mismatches c.operand) ∧
      (RestrictedTo conditions "(false)" ↔
        ∀ c ∈ conditions, c.operator.Mismatches c.operand) ∧
      ((∃ c ∈ conditions, ¬c.operator.Mismatches c.operand) →
        RestrictedTo conditions
          (String.intercalate " AND "
            ((conditions.filterMap Condition.text?).map fun text => "(" ++ text ++ ")"))) := by
  have hnothing : conditions.filterMap Condition.text? = [] ↔
      ∀ c ∈ conditions, c.operator.Mismatches c.operand := by
    rw [List.filterMap_eq_nil_iff]
    exact forall₂_congr fun c _ => Condition.text?_eq_none_iff
  have hchain := chain?_of_joined joined
  refine ⟨fun c _ => Condition.text?_eq_none_iff, ?_, fun hsome => ?_⟩
  · rw [restrictedTo_iff, guarded, hchain, ← hnothing]
    split
    · next h => exact iff_of_true rfl h
    · next h =>
      refine iff_of_false (intercalate_ne_false h fun text htext => ?_) h
      obtain ⟨c, -, hc⟩ := List.mem_filterMap.mp htext
      exact Condition.blank_mem_text? hc
  · obtain ⟨c, hc, hshape⟩ := hsome
    rw [restrictedTo_iff, guarded, hchain, if_neg fun h => hshape (hnothing.mp h c hc)]
    rfl

/-- The conditions that a row is of the seventh tenant and that it is one of no rows. -/
def tenantAndNone : List Condition :=
  [{ field := "tenant", operand := .single (.int 7) }, .oneOf "id" []]

/-- The seventh tenant is all that is left of them. -/
theorem restrictedTo_tenant :
    (∀ c ∈ tenantAndNone, c.connective = .and) ∧
      (∃ c ∈ tenantAndNone, ¬c.operator.Mismatches c.operand) ∧
      RestrictedTo tenantAndNone
        (String.intercalate " AND "
          ((tenantAndNone.filterMap Condition.text?).map fun text => "(" ++ text ++ ")")) := by
  have joined : ∀ c ∈ tenantAndNone, c.connective = .and := by decide
  have htenant : ∃ c ∈ tenantAndNone, ¬c.operator.Mismatches c.operand :=
    ⟨_, List.mem_cons_self, fun h => absurd (Condition.text?_eq_none_iff.mpr h) (by decide)⟩
  exact ⟨joined, htenant, (restrictedTo_of_joined joined).2.2 htenant⟩

/-- **A condition that cannot be written does not close a change**: no row is one of no rows, and
yet all the rows of the tenant are changed. -/
theorem not_restrictedTo_false :
    (∀ c ∈ tenantAndNone, c.connective = .and) ∧
      (∃ c ∈ tenantAndNone, c.negated = false ∧ c.text? = none) ∧
      ¬RestrictedTo tenantAndNone "(false)" ∧
      RestrictedTo tenantAndNone "(tenant = 7)" := by
  have hguarded : guarded tenantAndNone = "(tenant = 7)" := by decide +kernel
  refine ⟨by decide, ⟨.oneOf "id" [], by decide, rfl, rfl⟩, ?_, restrictedTo_iff.mpr hguarded⟩
  rw [restrictedTo_iff, hguarded]
  decide

end Statement

end QueryGate
