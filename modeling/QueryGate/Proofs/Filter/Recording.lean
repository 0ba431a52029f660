import Mathlib.Data.List.Dedup
import QueryGate.Proofs.Filter.Params
import QueryGate.Proofs.Named

/-!
# What parameters keep of what was put into them

Parameters are put together pair by pair, and from time to time they are replaced altogether, by the
parameters of a list of pairs or of a query string (`QueryGate.Params.Act`). What matters of such a
history are the pairs that came since the last replacement (`QueryGate.Params.recorded`), and the
parameters keep a record of them (`QueryGate.Params.Records`): each key once, where it first came,
with all of its values in the order they came. Nothing else is kept, so the order of values under
different keys is lost.

## Why one list of pairs is enough

Whatever was done before, what there is are the parameters of one list of pairs
(`QueryGate.Params.run_eq`): one act more changes that list as it changes the parameters
(`QueryGate.Params.Act.apply_ofPairs`). So a record is only to be shown for the parameters of a list
(`QueryGate.Params.records_ofPairs`), by induction from its end.
-/

namespace QueryGate.Params

/-! ### Keys and values -/

/-- The keys, in the order they stand in. -/
def keys (params : Params) : List String := params.entries.map Prod.fst

/-- The number of values under all keys. -/
def weight (params : Params) : Nat := (params.entries.flatMap Prod.snd).length

/-- The keys that pairs give values for, as often as they do. -/
def keysOf (pairs : List (String × String)) : List String := pairs.map Prod.fst

/-- **That parameters keep a record of some pairs.** -/
structure Records (params : Params) (pairs : List (String × String)) : Prop where
  /-- No key stands there twice. -/
  nodup : params.keys.Nodup
  /-- Every key has a value. -/
  valued : ∀ entry ∈ params.entries, entry.2 ≠ []
  /-- A key stands before another one if it came before it for the first time. -/
  inOrder : params.keys.Pairwise fun key other =>
    (keysOf pairs).idxOf key < (keysOf pairs).idxOf other
  /-- Under a key stand the values that came with it, in the order they came, and nothing stands
  under a key that none came with. -/
  get?_eq : ∀ key,
    params.get? key = if key ∈ keysOf pairs then some (valuesFor key pairs) else none
  /-- There are as many keys as different ones came. -/
  size_eq : params.size = (keysOf pairs).dedup.length
  /-- There are as many values as pairs came. -/
  weight_eq : params.weight = pairs.length

variable {key value : String} {pairs : List (String × String)}

/-- There are values for the keys of pairs and for no others. -/
theorem valuesFor_eq_nil_iff : valuesFor key pairs = [] ↔ key ∉ keysOf pairs := by
  simp only [valuesFor, keysOf, List.map_eq_nil_iff, List.filter_eq_nil_iff, decide_eq_true_eq,
    List.mem_map, not_exists, not_and]

/-- **The keys of parameters are those of their pairs.** -/
theorem mem_keys_ofPairs : key ∈ (ofPairs pairs).keys ↔ key ∈ keysOf pairs := by
  have hstands : key ∈ (ofPairs pairs).keys ↔
      ((ofPairs pairs).entries.lookup key).isSome = true := Named.mem_names_iff
  rw [hstands, lookup_ofPairs]
  by_cases h : valuesFor key pairs = []
  · rw [if_pos h]
    exact iff_of_false Bool.false_ne_true (valuesFor_eq_nil_iff.mp h)
  · rw [if_neg h]
    exact iff_of_true rfl (Decidable.not_not.mp (mt valuesFor_eq_nil_iff.mpr h))

/-- **Keys stand in the order in which each came first.** -/
theorem pairwise_keys_ofPairs (pairs : List (String × String)) :
    (ofPairs pairs).keys.Pairwise fun key other =>
      (keysOf pairs).idxOf key < (keysOf pairs).idxOf other := by
  induction pairs using List.reverseRecOn with
  | nil => exact List.Pairwise.nil
  | append_singleton pairs pair ih =>
    have hkeys : keysOf (pairs ++ [pair]) = keysOf pairs ++ [pair.1] := List.map_append
    -- a pair behind the others does not change where a key came first
    have hold : (ofPairs pairs).keys.Pairwise fun key other =>
        (keysOf (pairs ++ [pair])).idxOf key < (keysOf (pairs ++ [pair])).idxOf other := by
      refine ih.imp_of_mem fun {key other} hkey hother hlt => ?_
      rw [hkeys, List.idxOf_append_of_mem (mem_keys_ofPairs.mp hkey),
        List.idxOf_append_of_mem (mem_keys_ofPairs.mp hother)]
      exact hlt
    rw [keys, entries_ofPairs_concat, map_fst_put]
    split
    · exact hold
    · next hnew =>
      have hfresh : pair.1 ∉ keysOf pairs := fun h => hnew (mem_keys_ofPairs.mpr h)
      refine List.pairwise_append.mpr ⟨hold, List.pairwise_singleton _ _, fun key hkey => ?_⟩
      rw [List.forall_mem_singleton, hkeys, List.idxOf_append_of_notMem hfresh,
        List.idxOf_append_of_mem (mem_keys_ofPairs.mp hkey)]
      exact Nat.lt_add_right _ (List.idxOf_lt_length_of_mem (mem_keys_ofPairs.mp hkey))

/-- One value more under a key is one value more. -/
theorem length_flatMap_put (key value : String) (entries : List (String × List String)) :
    ((put key value entries).flatMap Prod.snd).length =
      (entries.flatMap Prod.snd).length + 1 := by
  induction entries with
  | nil => rfl
  | cons entry rest ih =>
    obtain ⟨k, values⟩ := entry
    rw [put]
    split
    · simp only [List.flatMap_cons, List.length_append, List.length_singleton]
      omega
    · simp only [List.flatMap_cons, List.length_append, ih]
      omega

/-- **No value is lost and none is made up.** -/
theorem weight_ofPairs (pairs : List (String × String)) :
    (ofPairs pairs).weight = pairs.length := by
  induction pairs using List.reverseRecOn with
  | nil => rfl
  | append_singleton pairs pair ih =>
    rw [weight, entries_ofPairs_concat, length_flatMap_put, ← weight, ih, List.length_append,
      List.length_singleton]

/-- **The parameters of a list of pairs keep a record of it.** -/
theorem records_ofPairs (pairs : List (String × String)) : Records (ofPairs pairs) pairs where
  nodup := nodup_keys_ofPairs pairs
  valued := fun entry hentry => (mem_entries_ofPairs.mp hentry).2
  inOrder := pairwise_keys_ofPairs pairs
  get?_eq := by
    intro key
    rw [get?, lookup_ofPairs]
    by_cases h : valuesFor key pairs = []
    · rw [if_pos h, if_neg (valuesFor_eq_nil_iff.mp h)]
    · rw [if_neg h, if_pos (Decidable.not_not.mp (mt valuesFor_eq_nil_iff.mpr h))]
  size_eq := by
    have hperm : (ofPairs pairs).keys.Perm (keysOf pairs).dedup := by
      refine (List.perm_ext_iff_of_nodup (nodup_keys_ofPairs pairs) (List.nodup_dedup _)).mpr ?_
      exact fun key => mem_keys_ofPairs.trans List.mem_dedup.symm
    rw [size, ← hperm.length_eq, keys, List.length_map]
  weight_eq := weight_ofPairs pairs

/-! ### Histories -/

/-- **What can be done to parameters.** -/
inductive Act where
  /-- A value is put under a key, with those that are there. -/
  | add (key value : String)
  /-- They are replaced by the parameters of a list of pairs. -/
  | ofPairs (pairs : List (String × String))
  /-- They are replaced by the parameters of a query string. -/
  | ofQueryString (raw : String)
  deriving DecidableEq, Repr

/-- The pairs of a query string, in order: its pieces that are not empty, each decoded. -/
def pairsOfQuery (raw : String) : List (String × String) :=
  ((pieces '&' (unmarked raw.toList)).filter (!·.isEmpty)).map decodePair

namespace Act

/-- The parameters after an act. -/
def apply (params : Params) : Act → Params
  | .add key value => params.add key value
  | .ofPairs pairs => Params.ofPairs pairs
  | .ofQueryString raw => Params.ofQueryString raw

/-- **The pairs that came since the last replacement**, after an act. -/
def record (pairs : List (String × String)) : Act → List (String × String)
  | .add key value => pairs ++ [(key, value)]
  | .ofPairs pairs => pairs
  | .ofQueryString raw => pairsOfQuery raw

/-- **An act changes the parameters of a list of pairs as it changes the list.** -/
theorem apply_ofPairs (pairs : List (String × String)) (act : Act) :
    act.apply (Params.ofPairs pairs) = Params.ofPairs (act.record pairs) := by
  cases act with
  | add key value =>
    rw [record, Params.ofPairs, Params.ofPairs, List.foldl_append]
    rfl
  | ofPairs pairs => rfl
  | ofQueryString raw => rfl

end Act

/-- The parameters after some acts, one after another, with nothing there at first. -/
def run (acts : List Act) : Params := acts.foldl Act.apply {}

/-- **The pairs that came since the last replacement**, after some acts. -/
def recorded (acts : List Act) : List (String × String) := acts.foldl Act.record []

/-- **Whatever was done, what there is are the parameters of the pairs that count.** -/
theorem run_eq (acts : List Act) : run acts = ofPairs (recorded acts) := by
  induction acts using List.reverseRecOn with
  | nil => rfl
  | append_singleton acts act ih =>
    have hrun : run (acts ++ [act]) = act.apply (run acts) := List.foldl_concat ..
    have hrecorded : recorded (acts ++ [act]) = act.record (recorded acts) :=
      List.foldl_concat ..
    rw [hrun, hrecorded, ih, Act.apply_ofPairs]

/-- **Parameters keep a record** of the pairs that came since they were last replaced, whatever is
done to them. -/
theorem records_run (acts : List Act) : Records (run acts) (recorded acts) := by
  rw [run_eq]
  exact records_ofPairs (recorded acts)

/-- The values of two keys that take turns stand each under its own key, in the order they came. -/
example : (run [.ofQueryString "z=0", .ofPairs [("b", "1")], .add "a" "2", .add "b" "3"]).entries =
    [("b", ["1", "3"]), ("a", ["2"])] := by
  decide +kernel

end QueryGate.Params
