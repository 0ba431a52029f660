import QueryGate.Proofs.Filter.Abandoning
import QueryGate.Proofs.Filter.Origin

/-!
# What is reported of what is dropped

A directive that is dropped leaves no trace in an answer, so the notices are all that is left of it.
Whoever reads them should be able to rely on them in both directions: what is missing was reported,
once, and what was reported is missing.

Directives are dropped in two places, by one sieve when parameters are read and by four when clauses
are screened. An account of a sieve (`QueryGate.Noted.Accounts`) follows what goes into it item by
item, and each item either goes out or adds one notice. So an account says which items are reported
and in which order, and it balances (`QueryGate.Noted.Settled`). Every sieve has one
(`QueryGate.Noted.accounts_sift`), as long as its test reports what it does not let pass.

## Notices keep their own order

Directives are put in order by their numbers after the notices are written, so the notices of a
request follow the keys as they first appeared. When clauses are screened, the notices of one list
come together, and the lists come in the order of a statement.

## Runs that are abandoned

A condition that ends the run is not reported; the account has a mark in the place of its notice
(`QueryGate.AllowList.Marks`). What is noted in such a run are the notices before the first mark. In
any other run there is no mark, and all the notices are noted.
-/

namespace QueryGate

/-- **That a notice reports something that is dropped**, by its name. -/
structure Notice.Reports (notice : Notice) (label name : String) : Prop where
  /-- It is for whoever looks into the matter. -/
  level : notice.level = .debug
  /-- It says that a directive is dropped, and why. -/
  message : ∃ reason, notice.message = "Dropping directive: " ++ reason
  /-- It gives the name. -/
  details : (label, name) ∈ notice.details

/-- **That an item is reported**, by a name that it has. -/
def Notice.Naming {α : Type} (label : String) (name : α → String) (item : α) (notice : Notice) :
    Prop :=
  notice.Reports label (name item)

namespace Noted

variable {ν α β : Type}

/-- **An account of a sieve**: what goes in, what goes out and what is noted. -/
inductive Accounts (Passes : α → β → Prop) (Reports : α → ν → Prop) :
    List α → List β → List ν → Prop
  /-- Where nothing goes in, nothing goes out and nothing is noted. -/
  | nil : Accounts Passes Reports [] [] []
  /-- What passes goes out, and nothing is noted. -/
  | passed {a : α} {b : β} (h : Passes a b) {xs : List α} {ys : List β} {notices : List ν}
      (rest : Accounts Passes Reports xs ys notices) :
      Accounts Passes Reports (a :: xs) (b :: ys) notices
  /-- What cannot pass does not go out, and it is noted once. -/
  | dropped {a : α} {notice : ν} (h : ∀ b, ¬Passes a b) (hnotice : Reports a notice)
      {xs : List α} {ys : List β} {notices : List ν}
      (rest : Accounts Passes Reports xs ys notices) :
      Accounts Passes Reports (a :: xs) ys (notice :: notices)

variable {Passes : α → β → Prop} {Reports : α → ν → Prop}

/-- **Every sieve has an account**, if its test lets pass what is to pass and reports the rest. -/
theorem accounts_sift {test : α → Except ν β} (hpass : ∀ a b, test a = .ok b ↔ Passes a b)
    (hreport : ∀ a notice, test a = .error notice → Reports a notice) (xs : List α) :
    Accounts Passes Reports xs (sift test xs).value (sift test xs).notices := by
  induction xs with
  | nil => exact .nil
  | cons a rest ih =>
    cases htest : test a with
    | ok b =>
      rw [sift, htest]
      exact .passed ((hpass a b).mp htest) ih
    | error notice =>
      rw [sift, htest]
      refine .dropped (fun b hb => ?_) (hreport a notice htest) ih
      rw [(hpass a b).mpr hb] at htest
      cases htest

/-- **That what is dropped is reported**, and nothing else is: there is an account, and it
balances. -/
structure Settled (Passes : α → β → Prop) (Reports : α → ν → Prop) (xs : List α) (ys : List β)
    (notices : List ν) : Prop where
  /-- Each item goes out, or one notice reports it. -/
  accounts : Accounts Passes Reports xs ys notices
  /-- As many go in as go out and are noted. -/
  balanced : xs.length = ys.length + notices.length

/-- What a sieve drops is reported if its test reports it. -/
theorem settled_sift {test : α → Except ν β} (hpass : ∀ a b, test a = .ok b ↔ Passes a b)
    (hreport : ∀ a notice, test a = .error notice → Reports a notice) (xs : List α) :
    Settled Passes Reports xs (sift test xs).value (sift test xs).notices :=
  ⟨accounts_sift hpass hreport xs, (length_sift test xs).symm⟩

end Noted

/-! ### Parameters that are read -/

namespace Directive

/-- **That a parameter yields a directive**, which has the number of its key. -/
def Yields (entry : String × List String) (ranked : Ranked) : Prop :=
  ∃ key, Key.parse? entry.1 = some key ∧ Origin key entry.2 ranked.directive ∧
    ranked.number = key.number

/-- A parameter is read as the directive that it yields. -/
theorem ofEntry_eq_ok_iff_yields (entry : String × List String) (ranked : Ranked) :
    ofEntry entry = .ok ranked ↔ Yields entry ranked := by
  rw [ofEntry_eq_ok_iff]
  exact exists_congr fun key => and_congr_right fun _ => and_congr_left fun _ => of?_eq_some_iff

/-- A parameter that is not read is reported by its key. -/
theorem reports_of_ofEntry (entry : String × List String) (notice : Notice)
    (h : ofEntry entry = .error notice) : Notice.Naming "key" Prod.fst entry notice := by
  rw [ofEntry] at h
  split at h
  · obtain rfl := Except.error.inj h
    exact ⟨rfl, ⟨"key does not match the filter grammar", rfl⟩, List.mem_singleton_self _⟩
  · split at h
    · obtain rfl := Except.error.inj h
      exact ⟨rfl, ⟨"invalid field, arity or value", rfl⟩, List.mem_singleton_self _⟩
    · cases h

end Directive

/-! ### Clauses that are screened -/

namespace AllowList

variable {list : AllowList}

/-- A field that is not on the list is reported. -/
theorem reports_fieldNotAllowed (field : String) :
    (Notice.fieldNotAllowed field).Reports "field" field :=
  ⟨rfl, ⟨"field is not allowed", rfl⟩, List.mem_singleton_self _⟩

/-- **What is noted of a condition that does not pass**: it is reported by its field, be it for the
field or for the operand, or it ends the run. -/
inductive Marks (list : AllowList) (condition : Condition) : Stop Notice → Prop
  /-- The condition is reported, and the run goes on. -/
  | reported {notice : Notice} (hruns : ¬list.Abandons condition)
      (h : notice.Reports "field" condition.field) : Marks list condition (.refused notice)
  /-- The condition ends the run. -/
  | ended (h : list.Abandons condition) : Marks list condition .abandoned

/-- A condition that does not pass is reported or ends the run. -/
theorem marks_of_screen (condition : Condition) (stop : Stop Notice)
    (h : list.screen condition = .error stop) : list.Marks condition stop := by
  cases stop with
  | abandoned => exact .ended (screen_eq_abandoned_iff.mp h)
  | refused notice =>
    have hruns : ¬list.Abandons condition := by
      intro habandons
      rw [screen_eq_abandoned_iff.mpr habandons] at h
      cases h
    refine .reported hruns ?_
    rw [screen] at h
    split at h
    · obtain rfl := Stop.refused.inj (Except.error.inj h)
      exact reports_fieldNotAllowed _
    · split at h
      · cases h
      · obtain ⟨_, -, rfl⟩ := Stop.map_eq_refused_iff.mp (Except.error.inj h)
        exact ⟨rfl, ⟨"value rejected by field parser", rfl⟩, List.mem_cons_self⟩

/-- An item that does not pass is reported by its field. -/
theorem reports_of_pass {α : Type} {field : α → String} (item : α) (notice : Notice)
    (h : list.pass field item = .error notice) : Notice.Naming "field" field item notice := by
  rw [pass] at h
  split at h
  · cases h
  · obtain rfl := Except.error.inj h
    exact reports_fieldNotAllowed _

/-- **That an item stays as it is** if its field is on the list. -/
def Keeps {α : Type} (list : AllowList) (field : α → String) (item kept : α) : Prop :=
  kept = item ∧ list.allows (field item) = true

/-- Conditions that are dropped are reported by their fields, or they end the run. -/
theorem settled_screen (conditions : List Condition) :
    Noted.Settled list.Becomes list.Marks conditions
      (Noted.sift list.screen conditions).value (Noted.sift list.screen conditions).notices :=
  Noted.settled_sift (fun _ _ => screen_eq_ok_iff) marks_of_screen conditions

/-- Items that are dropped are reported by their fields. -/
theorem settled_pass {α : Type} (field : α → String) (items : List α) :
    Noted.Settled (list.Keeps field) (Notice.Naming "field" field) items
      (Noted.sift (list.pass field) items).value (Noted.sift (list.pass field) items).notices :=
  Noted.settled_sift (fun _ _ => pass_eq_ok_iff) reports_of_pass items

end AllowList

namespace Clauses

open Noted (Settled)

/-- **What is dropped is reported, once and by name, and nothing else is.** When parameters are
read, that is each key that yields no directive, in the order of the keys. When clauses are
screened, it is each item of their four lists that does not pass, list by list and in the order of
each; a condition that ends the run has a mark in its place, and if there is none, all that is noted
in the run are these notices. -/
theorem settled_ofParams_screened (params : Params) (clauses : Clauses) (list : AllowList) :
    (∃ ranked : List Directive.Ranked,
        Settled Directive.Yields (Notice.Naming "key" Prod.fst) params.entries ranked
            (ofParams params).notices ∧
          (ofParams params).value =
            ofDirectives ((ranked.mergeSort Directive.precedes).map (·.directive))) ∧
      (∃ (filters having : List (Stop Notice)) (groups order : List Notice),
        (clauses.screened list).notices =
            filters ++ groups.map .refused ++ having ++ order.map .refused ∧
          Settled list.Becomes list.Marks clauses.filters
            (clauses.screened list).value.filters filters ∧
          Settled (list.Keeps id) (Notice.Naming "field" id) clauses.groups
            (clauses.screened list).value.groups groups ∧
          Settled list.Becomes list.Marks clauses.having
            (clauses.screened list).value.having having ∧
          Settled (list.Keeps SortKey.field) (Notice.Naming "field" SortKey.field) clauses.order
            (clauses.screened list).value.order order) ∧
      ((clauses.screened list).run.notices.map .refused = (clauses.screened list).notices ↔
        ∀ condition ∈ clauses.conditions, ¬list.Abandons condition) := by
  refine ⟨?_, ?_, ?_⟩
  · exact ⟨_, Noted.settled_sift Directive.ofEntry_eq_ok_iff_yields Directive.reports_of_ofEntry
      params.entries, rfl⟩
  · exact ⟨_, _, _, _, rfl, AllowList.settled_screen _, AllowList.settled_pass id _,
      AllowList.settled_screen _, AllowList.settled_pass SortKey.field _⟩
  · rw [Noted.run, Stop.map_refused_reasons_eq_iff, abandoned_mem_notices_screened_iff]
    simp only [not_exists, not_and]

/-- A limit that is no number is reported before a key that is none, since its key came first. -/
example :
    (ofQueryString "9:limit=x&guest=A&1:like[day=7&9:limit=8").notices =
      [.voidDirective "9:limit", .malformedKey "1:like[day"] := by
  cbv

end Clauses

end QueryGate
