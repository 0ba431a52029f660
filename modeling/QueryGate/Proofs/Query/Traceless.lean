import QueryGate.Proofs.Filter.Fitting
import QueryGate.Proofs.Query.Gate
import QueryGate.Proofs.Sql.Chain

/-!
# Parameters that leave no trace

A parameter may fail to count for one of four reasons: its key is no key, the key makes no
directive of its values, the directive is about a field that the role may not read, or it is a
condition with a text that the field does not take (`QueryGate.Model.Ignores`). The request is
compiled all the same, and this module shows that such parameters might as well have been left out
(`QueryGate.Model.value_compile_without`): what is compiled is the same, down to the text of the
statement, and so is a refusal. Hence two requests that differ in such parameters alone are compiled
to the same query. In particular nobody can tell by a filter whether a field that he may not read
exists at all.

## Where this might fail

A parameter that does not count still takes a place among the others when they are put in order,
and limits replace one another. That the places of the others do not depend on it is the stability
of the order (`QueryGate.Directive.mergeSort_filter`). The rest is said kind by kind: each clause is
made by the directives of one kind, and one that does not count adds nothing to any of them
(`QueryGate.Clauses.value_screened_filter`). A limit or an offset always counts once it is read, so
none is taken away that might have been replaced. And a condition may leave a trace without being
left itself, by ending the run; such a condition counts
(`QueryGate.Clauses.value_run_screened_filter`).
-/

namespace QueryGate

/-- **The parameters without some of their keys.** -/
def Params.without (params : Params) (deleted : String → Bool) : Params :=
  ⟨params.entries.filter fun entry => !deleted entry.1⟩

namespace Directive

/-- The field that a directive is about, if it is about one. -/
def field? : Directive → Option String
  | .filter condition => some condition.field
  | .group field _ => some field
  | .order key => some key.field
  | .limit _ | .offset _ => none

end Directive

/-! ### Directives that do not count -/

namespace AllowList

variable {list : AllowList}

/-- **Whether a condition is dropped**, and the run goes on. -/
def drops (list : AllowList) (condition : Condition) : Bool :=
  match list.screen condition with
  | .error (.refused _) => true
  | _ => false

/-- **Whether anything of a directive passes a list**, or the directive ends the run. -/
def heeds (list : AllowList) : Directive → Bool
  | .filter condition => !list.drops condition
  | .group field having => list.allows field || !list.drops having
  | .order key => list.allows key.field
  | .limit _ | .offset _ => true

/-- **A condition that passes has no text that its field does not take.** -/
theorem exists_of_mem_screen {condition passed : Condition} {reader : Reader}
    (h : list.screen condition = .ok passed)
    (hreader : list.reader? condition.field = some reader) {raw : String}
    (hraw : .text raw ∈ condition.operand.scalars) : ∃ s, reader raw = .ok s := by
  obtain ⟨reader', hreader', operand, hreads, -⟩ := screen_eq_ok_iff.mp h
  obtain rfl := Option.some.inj (hreader.symm.trans hreader')
  obtain ⟨s, -, raw', hraw', hs⟩ := hreads.exists_of_mem hraw Scalar.noConfusion
  obtain rfl := Scalar.text.inj hraw'
  exact ⟨s, hs⟩

/-- A condition that is dropped does not pass. -/
theorem toOption_screen_of_drops {condition : Condition} (h : list.drops condition = true) :
    (list.screen condition).toOption = none := by
  rw [drops] at h
  split at h
  · next hscreen => rw [hscreen, Except.toOption]
  · cases h

/-- **A condition is dropped** if it does not pass and does not end the run. -/
theorem drops_of_not_ok {condition : Condition}
    (hpass : ∀ passed, list.screen condition ≠ .ok passed) (hruns : ¬list.Abandons condition) :
    list.drops condition = true := by
  rw [drops]
  cases hscreen : list.screen condition with
  | ok passed => exact absurd hscreen (hpass passed)
  | error stop =>
    cases stop with
    | refused notice => rfl
    | abandoned => exact absurd (screen_eq_abandoned_iff.mp hscreen) hruns

/-- A condition on a field that is not on the list is dropped. -/
theorem drops_of_not_allows {condition : Condition} (h : list.allows condition.field = false) :
    list.drops condition = true := by
  have hreader : list.reader? condition.field = none := by
    simpa [allows] using h
  rw [drops, screen, hreader]

/-- **A condition that ends the run counts**, and with it its directive. -/
theorem heeds_of_abandons {directive : Directive} {condition : Condition}
    (hcondition : directive.condition? = some condition) (h : list.Abandons condition) :
    list.heeds directive = true := by
  have hdrops : list.drops condition = false := by
    rw [drops, screen_eq_abandoned_iff.mpr h]
  cases directive with
  | filter first =>
    obtain rfl := Option.some.inj hcondition
    rw [heeds, hdrops, Bool.not_false]
  | group field having =>
    obtain rfl := Option.some.inj hcondition
    rw [heeds, hdrops, Bool.not_false, Bool.or_true]
  | _ => cases hcondition

/-- An item with a field that is not on the list does not pass. -/
theorem toOption_pass_of_not_allows {α : Type} {field : α → String} {item : α}
    (h : list.allows (field item) = false) : (list.pass field item).toOption = none := by
  rw [pass, if_neg (Bool.eq_false_iff.mp h)]
  rfl

/-- What passes of one kind of directives is the same without those of which nothing passes. -/
theorem filterMap_filter_heeds {α β : Type} {kind : Directive → Option α} {test : α → Option β}
    (h : ∀ directive, list.heeds directive = false → (kind directive).bind test = none)
    (directives : List Directive) :
    ((directives.filter list.heeds).filterMap kind).filterMap test =
      (directives.filterMap kind).filterMap test := by
  rw [List.filterMap_filterMap, List.filterMap_filterMap, List.filterMap_filter]
  refine List.filterMap_congr fun directive _ => ?_
  split
  · rfl
  · next hheeds => exact (h directive (Bool.eq_false_iff.mpr hheeds)).symm

end AllowList

/-- **Directives of which nothing passes the list** add nothing to the clauses that are left. -/
theorem Clauses.value_screened_filter (list : AllowList) (directives : List Directive) :
    ((ofDirectives (directives.filter list.heeds)).screened list).value =
      ((ofDirectives directives).screened list).value := by
  have hscreened : ∀ c, (!list.drops c) = false → (list.screen c).toOption = none :=
    fun c h => AllowList.toOption_screen_of_drops (by simpa using h)
  have hfilters : ∀ d : Directive, list.heeds d = false →
      (d.filter?.bind fun c => (list.screen c).toOption) = none := by
    intro d h
    cases d with
    | filter condition => exact hscreened condition h
    | _ => rfl
  have hgroups : ∀ d : Directive, list.heeds d = false →
      (d.group?.bind fun group => (list.pass id group.1).toOption) = none := by
    intro d h
    cases d with
    | group field having =>
      exact AllowList.toOption_pass_of_not_allows (Bool.or_eq_false_iff.mp h).1
    | _ => rfl
  have hhaving : ∀ d : Directive, list.heeds d = false →
      (d.group?.bind fun group => (list.screen group.2).toOption) = none := by
    intro d h
    cases d with
    | group field having => exact hscreened having (Bool.or_eq_false_iff.mp h).2
    | _ => rfl
  have horder : ∀ d : Directive, list.heeds d = false →
      (d.order?.bind fun key => (list.pass SortKey.field key).toOption) = none := by
    intro d h
    cases d with
    | order key => exact AllowList.toOption_pass_of_not_allows h
    | _ => rfl
  -- limits and offsets are not screened, and each of them passes
  have hlimit : ∀ d : Directive, list.heeds d = false → d.limit?.bind some = none := by
    intro d h
    cases d <;> first | rfl | cases h
  have hoffset : ∀ d : Directive, list.heeds d = false → d.offset?.bind some = none := by
    intro d h
    cases d <;> first | rfl | cases h
  have hlimits := AllowList.filterMap_filter_heeds hlimit directives
  have hoffsets := AllowList.filterMap_filter_heeds hoffset directives
  rw [List.filterMap_some, List.filterMap_some] at hlimits hoffsets
  simp only [ofDirectives, foldl_add, screened, Noted.value_sift, List.nil_append,
    List.filterMap_map, Function.comp_def, AllowList.filterMap_filter_heeds hfilters,
    AllowList.filterMap_filter_heeds hgroups, AllowList.filterMap_filter_heeds hhaving,
    AllowList.filterMap_filter_heeds horder, hlimits, hoffsets]

/-- **Directives that do not count** make no difference to the result of a screening. -/
theorem Clauses.value_run_screened_filter (list : AllowList) (directives : List Directive) :
    ((ofDirectives (directives.filter list.heeds)).screened list).run.value =
      ((ofDirectives directives).screened list).run.value := by
  refine value_run_screened_congr (value_screened_filter list directives) ?_
  refine exists_congr fun condition => and_congr_left fun habandons => ?_
  rw [mem_conditions_ofDirectives, mem_conditions_ofDirectives]
  constructor
  · rintro ⟨directive, hdirective, hcondition⟩
    exact ⟨directive, (List.mem_filter.mp hdirective).1, hcondition⟩
  · rintro ⟨directive, hdirective, hcondition⟩
    have hheeds := AllowList.heeds_of_abandons hcondition habandons
    exact ⟨directive, List.mem_filter.mpr ⟨hdirective, hheeds⟩, hcondition⟩

namespace Model

variable {model : Model} {role : Role}

/-- **That a parameter does not count**, for a role that asks for rows of a model. -/
inductive Ignores (model : Model) (role : Role) : String × List String → Prop
  /-- The key is no key. -/
  | malformed {key : String} {values : List String} (h : Key.parse? key = none) :
      Ignores model role (key, values)
  /-- The key makes no directive of the values. -/
  | void {key : String} {values : List String} {parts : Key} (hkey : Key.parse? key = some parts)
      (h : Directive.of? parts values = none) : Ignores model role (key, values)
  /-- The directive is about a field that the role may not read, or that there is not. -/
  | unreadable {key : String} {values : List String} {parts : Key} {directive : Directive}
      {field : String} (hkey : Key.parse? key = some parts)
      (h : Directive.of? parts values = some directive) (hfield : directive.field? = some field)
      (hhidden : field ∉ (model.fieldsFor role .read).map Field.name) :
      Ignores model role (key, values)
  /-- The directive is a condition on rows with a text that the reader of its field rejects, unless
  the reader ends the run at another text before that. -/
  | rejected {key : String} {values : List String} {parts : Key} {condition : Condition}
      {reader : Reader} {raw : String} {fault : RejectedValue} (hkey : Key.parse? key = some parts)
      (h : Directive.of? parts values = some (.filter condition))
      (hreader : (model.allowList role .read).reader? condition.field = some reader)
      (hraw : .text raw ∈ condition.operand.scalars)
      (hrejects : reader raw = .error (.refused fault))
      (hruns : ¬reader.Abandons condition.operand.scalars) : Ignores model role (key, values)

/-- **Of the directive of a parameter that does not count, nothing passes.** -/
theorem Ignores.not_heeds {entry : String × List String} {ranked : Directive.Ranked}
    (h : model.Ignores role entry) (hentry : Directive.ofEntry entry = .ok ranked) :
    (model.allowList role .read).heeds ranked.directive = false := by
  have hdirective : ∀ {key : String} {values : List String} {parts : Key} {directive : Directive},
      Key.parse? key = some parts → Directive.of? parts values = some directive →
        Directive.ofEntry (key, values) = .ok ranked → ranked.directive = directive := by
    intro key values parts directive hkey hof hentry
    simp only [Directive.ofEntry, hkey, hof] at hentry
    obtain rfl := Except.ok.inj hentry
    rfl
  cases h with
  | malformed h =>
    simp only [Directive.ofEntry, h] at hentry
    cases hentry
  | void hkey h =>
    simp only [Directive.ofEntry, hkey, h] at hentry
    cases hentry
  | @unreadable _ _ _ directive field hkey h hfield hhidden =>
    rw [hdirective hkey h hentry]
    have hnot : (model.allowList role .read).allows field = false :=
      Bool.eq_false_iff.mpr fun hallows => hhidden (allows_allowList.mp hallows)
    cases directive with
    | filter condition =>
      obtain rfl := Option.some.inj hfield
      rw [AllowList.heeds, AllowList.drops_of_not_allows hnot, Bool.not_true]
    | group name having =>
      obtain rfl := Option.some.inj hfield
      obtain ⟨rfl, -⟩ := (Directive.of?_eq_some_iff.mp h).of_group
      rw [AllowList.heeds, AllowList.drops_of_not_allows hnot, hnot, Bool.not_true, Bool.or_false]
    | order key =>
      obtain rfl := Option.some.inj hfield
      exact hnot
    | limit count => cases hfield
    | offset count => cases hfield
  | @rejected _ _ _ condition reader raw fault hkey h hreader hraw hrejects hruns =>
    have hdrops : (model.allowList role .read).drops condition = true := by
      refine AllowList.drops_of_not_ok (fun passed hscreen => ?_) ?_
      · obtain ⟨s, hs⟩ := AllowList.exists_of_mem_screen hscreen hreader hraw
        rw [hrejects] at hs
        cases hs
      · rintro ⟨reader', hreader', habandons⟩
        obtain rfl := Option.some.inj (hreader.symm.trans hreader')
        exact hruns habandons
    rw [hdirective hkey h hentry, AllowList.heeds, hdrops, Bool.not_true]

/-- The directives that count are the same without parameters that do not. -/
theorem Ignores.filter_ofEntries {deleted : String → Bool} {entries : List (String × List String)}
    (h : ∀ entry ∈ entries, deleted entry.1 = true → model.Ignores role entry) :
    ((Directive.ofEntries (entries.filter fun entry => !deleted entry.1)).value.filter
        fun ranked => (model.allowList role .read).heeds ranked.directive) =
      (Directive.ofEntries entries).value.filter
        fun ranked => (model.allowList role .read).heeds ranked.directive := by
  rw [Directive.ofEntries, Directive.ofEntries, Noted.value_sift, Noted.value_sift,
    List.filterMap_filter, List.filter_filterMap, List.filter_filterMap]
  refine List.filterMap_congr fun entry hentry => ?_
  by_cases hdeleted : deleted entry.1 = true
  · have hignored := h entry hentry hdeleted
    rw [hdeleted, Bool.not_true, if_neg Bool.false_ne_true]
    cases hranked : Directive.ofEntry entry with
    | error notice => rfl
    | ok ranked => simp [Except.toOption, Option.filter, hignored.not_heeds hranked]
  · rw [Bool.eq_false_iff.mpr hdeleted, Bool.not_false, if_pos rfl]

/-- **The result of screening what parameters ask for** is the same without those that do not
count. -/
theorem Ignores.value_run_screened {params : Params} {deleted : String → Bool}
    (h : ∀ entry ∈ params.entries, deleted entry.1 = true → model.Ignores role entry) :
    ((Clauses.ofParams (params.without deleted)).value.screened
        (model.allowList role .read)).run.value =
      ((Clauses.ofParams params).value.screened (model.allowList role .read)).run.value := by
  have hsorted : ∀ entries : List (String × List String),
      (((Directive.ofEntries entries).value.mergeSort Directive.precedes).map
          Directive.Ranked.directive).filter (model.allowList role .read).heeds =
        (((Directive.ofEntries entries).value.filter fun ranked =>
            (model.allowList role .read).heeds ranked.directive).mergeSort Directive.precedes).map
          Directive.Ranked.directive := by
    intro entries
    rw [Directive.mergeSort_filter, List.filter_map]
    rfl
  rw [Clauses.ofParams, Clauses.ofParams, Noted.map, Noted.map,
    ← Clauses.value_run_screened_filter, hsorted, Params.without, Ignores.filter_ofEntries h,
    ← hsorted, Clauses.value_run_screened_filter]

/-- Without parameters that do not count, the same is compiled. -/
theorem Ignores.value_compile {params : Params} {deleted : String → Bool}
    (h : ∀ entry ∈ params.entries, deleted entry.1 = true → model.Ignores role entry) :
    (model.compile role (params.without deleted)).value = (model.compile role params).value :=
  value_compile_congr (Ignores.value_run_screened h)

/-- **Parameters that do not count leave no trace.** Without any of them the same is compiled, be it
a query or a refusal, and so it is with any others of them in their place. -/
theorem value_compile_without {params : Params} {deleted : String → Bool}
    (h : ∀ entry ∈ params.entries, deleted entry.1 = true → model.Ignores role entry) :
    (model.compile role (params.without deleted)).value = (model.compile role params).value ∧
      ∀ params' : Params,
        (∀ entry ∈ params'.entries, deleted entry.1 = true → model.Ignores role entry) →
        params'.without deleted = params.without deleted →
          (model.compile role params').value = (model.compile role params).value := by
  refine ⟨Ignores.value_compile h, fun params' h' hwithout => ?_⟩
  rw [← Ignores.value_compile h', hwithout, Ignores.value_compile h]

/-- Meters with a level that everybody may read and an owner that everybody may write alone. -/
def meters : Model :=
  { table := "meters"
    fields :=
      [(Field.signed 8 "level").grant (.readWrite .default),
        (Field.text "owner").grant (.writeOnly .default)] }

/-- Parameters of which the first and the last count. -/
def metersAsked : Params :=
  ⟨[("level", ["7"]), ("level[", ["7"]), (":limit", ["-1"]), ("1:sort[owner]", ["DESC"]),
    (":>[level]", ["128"]), (":sort[level]", [])]⟩

/-- The keys of the others, and one more, about a field that there is not. -/
def metersIdle (key : String) : Bool :=
  key ∈ ["level[", ":limit", "1:sort[owner]", ":>[level]", "1:sort[keeper]"]

/-- Parameters that ask for an order by somebody in the place of the owner. -/
def metersProbed : Params :=
  ⟨[("level", ["7"]), ("1:sort[keeper]", ["DESC"]), (":sort[level]", [])]⟩

/-- **The others leave no trace**, and neither does it show whether it is the owner that is asked
about or somebody who is not kept. -/
theorem value_compile_without_meters :
    (∀ entry ∈ metersAsked.entries, metersIdle entry.1 = true → meters.Ignores .default entry) ∧
      metersAsked.without metersIdle = ⟨[("level", ["7"]), (":sort[level]", [])]⟩ ∧
      (meters.compile .default (metersAsked.without metersIdle)).value =
        (meters.compile .default metersAsked).value ∧
      (meters.compile .default metersProbed).value =
        (meters.compile .default metersAsked).value := by
  have hhidden : ∀ name ∈ ["owner", "keeper"],
      name ∉ (meters.fieldsFor .default .read).map Field.name := by
    decide
  have hsort : ∀ key name, Key.parse? key = some ⟨some 1, true, false, .and, "sort", [name]⟩ →
      Directive.of? ⟨some 1, true, false, .and, "sort", [name]⟩ ["DESC"] =
        some (.order ⟨name, .descending⟩) → name ∈ ["owner", "keeper"] →
      meters.Ignores .default (key, ["DESC"]) := fun key name hkey h hname =>
    .unreadable hkey h rfl (hhidden name hname)
  have hignored : ∀ entry ∈ metersAsked.entries, metersIdle entry.1 = true →
      meters.Ignores .default entry := by
    simp only [metersAsked, List.forall_mem_cons]
    refine ⟨fun h => absurd h (by decide), fun _ => .malformed (by decide),
      fun _ => .void (by rfl) (by with_unfolding_all rfl), fun _ => ?_, fun _ => ?_,
      fun h => absurd h (by decide), nofun⟩
    · exact hsort _ "owner" (by decide) (by decide) (by decide)
    · have hruns : ¬(Field.signed 8 "level").reader.Abandons [.text "128"] := by
        rw [Reader.abandons_singleton_iff]
        rintro ⟨raw, hraw, habandoned⟩
        obtain rfl := Scalar.text.inj hraw
        cases habandoned
      exact .rejected (by rfl) (by rfl) (by rfl) (List.mem_singleton_self _) (by rfl) hruns
  have hprobed : ∀ entry ∈ metersProbed.entries, metersIdle entry.1 = true →
      meters.Ignores .default entry := by
    simp only [metersProbed, List.forall_mem_cons]
    refine ⟨fun h => absurd h (by decide), fun _ => ?_, fun h => absurd h (by decide), nofun⟩
    exact hsort _ "keeper" (by decide) (by decide) (by decide)
  have htraceless := value_compile_without hignored
  exact ⟨hignored, by decide, htraceless.1, htraceless.2 metersProbed hprobed (by decide)⟩

end Model

end QueryGate
