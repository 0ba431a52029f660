import QueryGate.Proofs.Filter.Ordering
import QueryGate.Proofs.Query.Gate

/-!
# Groups and the conditions on them

A group is asked for together with a condition on it, so the two lists of the clauses start out
field by field the same (`QueryGate.Clauses.groups_eq`). They are then screened apart from each
other, and by different rules: a field passes by its name, a condition by its name and its value.
The second rule asks for more than the first, so a condition never outlasts its group
(`QueryGate.AllowList.sublist_sift`).

A condition on groups in a statement has therefore its group in the same statement, by which the
rows are grouped (`QueryGate.Clauses.having_of_params`). The other way round nothing is said: of a
group without a value the condition is dropped, and the group stays.
-/

namespace QueryGate

namespace AllowList

/-- **The fields of the conditions that pass are some of the fields that pass**, in their order. -/
theorem sublist_sift (list : AllowList) (conditions : List Condition) :
    ((Noted.sift list.screen conditions).value.map Condition.field).Sublist
      (Noted.sift (list.pass id) (conditions.map Condition.field)).value := by
  rw [Noted.value_sift, Noted.value_sift]
  induction conditions with
  | nil => exact List.Sublist.slnil
  | cons condition rest ih =>
    cases hscreen : list.screen condition with
    | ok passed =>
      obtain ⟨hfield, hallowed⟩ := allows_of_screen hscreen
      have hpass : list.pass id condition.field = .ok condition.field :=
        pass_eq_ok_iff.mpr ⟨rfl, hallowed⟩
      simp only [List.map_cons, List.filterMap_cons, hscreen, hpass, Except.toOption, hfield]
      exact ih.cons_cons _
    | error notice =>
      cases hpass : list.pass id condition.field with
      | ok field =>
        simp only [List.map_cons, List.filterMap_cons, hscreen, hpass, Except.toOption]
        exact ih.cons _
      | error notice' =>
        simp only [List.map_cons, List.filterMap_cons, hscreen, hpass, Except.toOption]
        exact ih

end AllowList

/-! ### What is written -/

/-- The query for all rows, without groups and without conditions on them. -/
def CompiledQuery.ungrouped (query : CompiledQuery) : CompiledQuery :=
  { query with clauses := { query.clauses with groups := [], having := [] } }

/-- A line that lists something opens with its keyword. -/
theorem Statement.listLine_of_ne_nil {keyword : String} {items : List String} (h : items ≠ []) :
    listLine keyword items = "\n" ++ keyword ++ " " ++ String.intercalate ", " items := by
  obtain ⟨item, rest, rfl⟩ := List.exists_cons_of_ne_nil h
  rw [listLine]

/-- **The conditions on groups are written right behind the groups**, and neither changes anything
before or behind them. -/
theorem CompiledQuery.text_eq_grouped (query : CompiledQuery) :
    ∃ before behind, query.ungrouped.text = before ++ behind ∧
      query.text = before ++ Statement.listLine "GROUP BY" query.clauses.groups ++
        Statement.line (Statement.clause? "HAVING" query.clauses.having) ++ behind := by
  refine ⟨"SELECT " ++ (if query.columns.isEmpty then "*" else Statement.names query.columns) ++
        "\nFROM " ++ query.model.table ++
        Statement.line (Statement.clause? "WHERE" query.clauses.filters),
      Statement.listLine "ORDER BY"
          (query.clauses.order.map fun key => key.field ++ " " ++ key.direction.word) ++
        Statement.countLine "LIMIT" query.clauses.limit ++
        Statement.countLine "OFFSET" query.clauses.offset ++ ";", ?_, ?_⟩
  · have hgroups : Statement.listLine "GROUP BY" [] = "" := rfl
    have hhaving : Statement.line (Statement.clause? "HAVING" []) = "" := rfl
    simp only [text, Statement.text, ungrouped, selection]
    -- the equation of so long a text is slow to make
    delta Statement.selectText
    simp only [hgroups, hhaving, String.append_empty, String.append_assoc]
  · simp only [text, Statement.text, selection]
    delta Statement.selectText
    simp only [String.append_assoc]

namespace Clauses

/-- Each condition on groups comes with its group. -/
theorem groups_eq (params : Params) :
    (ofParams params).value.groups = (ofParams params).value.having.map Condition.field ∧
      ∀ condition ∈ (ofParams params).value.having, condition.operator = .group := by
  have hgroups : ∀ group ∈ params.ordered.filterMap fun placed => placed.directive.group?,
      group.2.field = group.1 ∧ group.2.operator = .group := by
    rintro ⟨field, having⟩ hgroup
    obtain ⟨placed, hplaced, hkind⟩ := List.mem_filterMap.mp hgroup
    obtain ⟨_, _, _, _, _, hdirective, _⟩ := Params.mem_ordered_iff.mp hplaced
    rw [Directive.group?_eq_some_iff.mp hkind] at hdirective
    exact (Directive.of?_eq_some_iff.mp hdirective).of_group
  rw [value_ofParams]
  constructor
  · rw [List.map_map]
    exact List.map_congr_left fun group hgroup => (hgroups group hgroup).1.symm
  · intro condition hcondition
    obtain ⟨group, hgroup, rfl⟩ := List.mem_map.mp hcondition
    exact (hgroups group hgroup).2

/-- Each condition on groups that is left has its group left. -/
theorem sublist_screened (params : Params) (list : AllowList) :
    (((ofParams params).value.screened list).value.having.map Condition.field).Sublist
      ((ofParams params).value.screened list).value.groups := by
  simp only [screened, (groups_eq params).1]
  exact AllowList.sublist_sift list _

/-- **No condition on groups goes without its group.** Parameters ask for groups and for conditions
on them field by field; of those that pass an allow-list, the fields of the conditions are some of
the groups, in their order; and a statement that is compiled has a line of conditions on groups only
behind a line that names all their groups. -/
theorem having_of_params (params : Params) :
    ((ofParams params).value.groups = (ofParams params).value.having.map Condition.field ∧
      ∀ condition ∈ (ofParams params).value.having, condition.operator = .group) ∧
    (∀ list : AllowList,
      (((ofParams params).value.screened list).value.having.map Condition.field).Sublist
        ((ofParams params).value.screened list).value.groups) ∧
    ∀ (model : Model) (role : Role) (query : CompiledQuery),
      (model.compile role params).value = .ok query →
        ∃ before behind, query.ungrouped.text = before ++ behind ∧
          query.text = before ++ Statement.listLine "GROUP BY" query.clauses.groups ++
            Statement.line (Statement.clause? "HAVING" query.clauses.having) ++ behind ∧
          (Statement.clause? "HAVING" query.clauses.having ≠ none →
            Statement.listLine "GROUP BY" query.clauses.groups =
                "\nGROUP BY " ++ String.intercalate ", " query.clauses.groups ∧
              ∀ condition ∈ query.clauses.having, condition.field ∈ query.clauses.groups) := by
  refine ⟨groups_eq params, sublist_screened params, fun model role query hquery => ?_⟩
  have hsublist : (query.clauses.having.map Condition.field).Sublist query.clauses.groups := by
    rw [(Model.eq_of_compile hquery).2]
    exact sublist_screened params _
  obtain ⟨before, behind, hungrouped, htext⟩ := query.text_eq_grouped
  refine ⟨before, behind, hungrouped, htext, fun hline => ?_⟩
  have hmem : ∀ condition ∈ query.clauses.having, condition.field ∈ query.clauses.groups :=
    fun condition hcondition => hsublist.subset (List.mem_map_of_mem hcondition)
  obtain ⟨condition, hcondition⟩ : ∃ condition, condition ∈ query.clauses.having :=
    List.exists_mem_of_ne_nil _ fun hnone => hline (by rw [hnone]; rfl)
  have hne : query.clauses.groups ≠ [] := List.ne_nil_of_mem (hmem condition hcondition)
  have hkeyword : "\n" ++ "GROUP BY" ++ " " = "\nGROUP BY " := by
    decide
  rw [Statement.listLine_of_ne_nil hne, hkeyword]
  exact ⟨rfl, hmem⟩

/-- A group without a value stays when the condition on it is dropped, and a group that the list
does not name is dropped together with its condition. -/
example :
    let list : AllowList := ⟨[("guest", fun raw => .ok (.text raw))]⟩
    let left := ((ofParams ⟨[(":group[guest]", [""]), (":group[secret]", ["1"]),
      ("2:group[guest]", ["b"])]⟩).value.screened list).value
    left.groups = ["guest", "guest"] ∧ left.having.map Condition.operand = [.text "b"] := by
  refine ⟨?_, ?_⟩
  · cbv
  · cbv

end Clauses

end QueryGate
