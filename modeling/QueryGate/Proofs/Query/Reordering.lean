import QueryGate.Proofs.Filter.Ordering
import QueryGate.Proofs.Filter.Params
import QueryGate.Proofs.Query.Gate

/-!
# Pairs in another order

Where numbers tell all directives apart (`QueryGate.Params.NumberedApart`), nothing is left for the
order of the query string to decide. Its pairs may be put in another order, as long as those of one
key stay in theirs, since they are the values of the key (`QueryGate.Params.Reordered`); the clauses
are the same, limit and offset included, and so is what any role is answered
(`QueryGate.Clauses.value_ofQueryString_eq_of_reordered`).

Another order of the pairs is another order of the entries, with the same values in each of them.
The sort then sees the same directives in another order, and it is the numbers alone that put them
in place (`QueryGate.Directive.mergeSort_eq_of_perm`). Keys that make no directive need no number.
-/

namespace QueryGate

namespace Params

/-! ### Query strings made of pairs -/

/-- **The query string that pairs make**: a question mark, and the pairs with ampersands between
them. -/
def queryString (pairs : List (List Char)) : String :=
  String.ofList ('?' :: ['&'].intercalate pairs)

/-- **That pairs are put in another order**, in which those that spell the same key stand as they
did. Empty pairs spell nothing. -/
structure Reordered (pairs pairs' : List (List Char)) : Prop where
  /-- The pairs are the same. -/
  perm : pairs.Perm pairs'
  /-- Those of each key are in the same order. -/
  keeps : ∀ key, (pairs.filter fun pair => pair ≠ [] ∧ (decodePair pair).1 = key) =
    pairs'.filter fun pair => pair ≠ [] ∧ (decodePair pair).1 = key

/-- The pairs of a query string that is made of them are read one by one. -/
theorem ofQueryString_queryString {pairs : List (List Char)} (h : ∀ pair ∈ pairs, '&' ∉ pair) :
    ofQueryString (queryString pairs) =
      ofPairs ((pairs.filter (!·.isEmpty)).map decodePair) := by
  have hunmarked : unmarked (queryString pairs).toList = ['&'].intercalate pairs := by
    rw [queryString, String.toList_ofList, unmarked, if_pos rfl]
  rw [ofQueryString, hunmarked, filter_pieces_intercalate h]

/-- Pairs in another order give the same values for each key. -/
theorem Reordered.shuffled {pairs pairs' : List (List Char)} (h : Reordered pairs pairs') :
    Shuffled ((pairs.filter (!·.isEmpty)).map decodePair)
      ((pairs'.filter (!·.isEmpty)).map decodePair) := by
  have hvalues : ∀ (key : String) (pairs : List (List Char)),
      valuesFor key ((pairs.filter (!·.isEmpty)).map decodePair) =
        (pairs.filter fun pair => pair ≠ [] ∧ (decodePair pair).1 = key).map
          fun pair => (decodePair pair).2 := by
    intro key pairs
    rw [valuesFor, List.filter_map, List.map_map, List.filter_filter]
    refine congrArg _ (List.filter_congr fun pair _ => ?_)
    cases pair <;> simp
  intro key
  rw [hvalues, hvalues, h.keeps]

/-- **That numbers tell the directives of parameters apart**: each directive has a number that no
other one has. One of them may go without. -/
def NumberedApart (params : Params) : Prop :=
  ∀ a b, params.Places a → params.Places b → a.number = b.number → a.position = b.position

end Params

namespace Clauses

/-- **Where numbers tell directives apart, the order of the keys does not matter.** -/
theorem value_ofParams_eq_of_perm {params params' : Params}
    (h : params.entries.Perm params'.entries) (hapart : params.NumberedApart) :
    (ofParams params).value = (ofParams params').value := by
  have hnumbers : ((Directive.ofEntries params.entries).value.map
      Directive.Ranked.number).Nodup := by
    rw [Directive.value_ofEntries_eq, List.map_map]
    refine List.pairwise_map.mpr ((Directive.pairwise_position_placed params.entries).imp_of_mem
      fun {a b} ha hb hlt hnumber => ?_)
    exact Nat.ne_of_lt hlt
      (hapart a b (Params.mem_placed_iff.mp ha) (Params.mem_placed_iff.mp hb) hnumber)
  have hperm : (Directive.ofEntries params.entries).value.Perm
      (Directive.ofEntries params'.entries).value := by
    rw [Directive.ofEntries, Directive.ofEntries, Noted.value_sift, Noted.value_sift]
    exact h.filterMap _
  rw [ofParams, ofParams, Noted.map, Noted.map, Directive.mergeSort_eq_of_perm hperm hnumbers]

open Params (queryString Reordered)

/-- **Where numbers tell directives apart, the order of the pairs does not matter.** The query
string asks for the same clauses, and every role is answered the same about every model. -/
theorem value_ofQueryString_eq_of_reordered {pairs pairs' : List (List Char)}
    (hpairs : ∀ pair ∈ pairs, '&' ∉ pair) (h : Reordered pairs pairs')
    (hapart : (Params.ofQueryString (queryString pairs)).NumberedApart) :
    (ofQueryString (queryString pairs)).value = (ofQueryString (queryString pairs')).value ∧
      ∀ (model : Model) (role : Role),
        (model.compileString role (queryString pairs)).value =
          (model.compileString role (queryString pairs')).value := by
  have hpairs' : ∀ pair ∈ pairs', '&' ∉ pair := fun pair hpair =>
    hpairs pair (h.perm.mem_iff.mpr hpair)
  have hentries : (Params.ofQueryString (queryString pairs)).entries.Perm
      (Params.ofQueryString (queryString pairs')).entries := by
    rw [Params.ofQueryString_queryString hpairs, Params.ofQueryString_queryString hpairs']
    exact Params.entries_perm_of_shuffled h.shuffled
  have hclauses := value_ofParams_eq_of_perm hentries hapart
  exact ⟨hclauses, fun model role => Model.value_compile_congr (by rw [hclauses])⟩

/-- Pairs that ask for one of two rooms and for guests, with two limits, of which one is none, and
with a key that is no key. -/
def staysAsked : List (List Char) :=
  ["1:in[room][]=7", "4:limit=5", "0:like[guest]=A%25", "", "guest[=x", "1:in%5Broom][]=9",
    "2:limit=8", "limit:=1"].map String.toList

/-- The same pairs from behind, but for the rooms. -/
def staysShuffled : List (List Char) :=
  ["limit:=1", "2:limit=8", "1:in[room][]=7", "guest[=x", "0:like[guest]=A%25", "4:limit=5",
    "1:in%5Broom][]=9", ""].map String.toList

/-- Both orders ask for the same stays. -/
theorem value_ofQueryString_staysShuffled :
    (∀ pair ∈ staysAsked, '&' ∉ pair) ∧ Reordered staysAsked staysShuffled ∧
      (Params.ofQueryString (queryString staysAsked)).NumberedApart ∧
      (ofQueryString (queryString staysAsked)).value =
        (ofQueryString (queryString staysShuffled)).value ∧
      ∀ (model : Model) (role : Role),
        (model.compileString role (queryString staysAsked)).value =
          (model.compileString role (queryString staysShuffled)).value := by
  have hpairs : ∀ pair ∈ staysAsked, '&' ∉ pair := by
    decide
  have hreordered : Reordered staysAsked staysShuffled := by
    have hperm : staysAsked.Perm staysShuffled := by
      decide
    have hkeys : ∀ key ∈ staysAsked.map fun pair => (Params.decodePair pair).1,
        (staysAsked.filter fun pair => pair ≠ [] ∧ (Params.decodePair pair).1 = key) =
          staysShuffled.filter fun pair => pair ≠ [] ∧ (Params.decodePair pair).1 = key := by
      decide +kernel
    refine ⟨hperm, fun key => ?_⟩
    by_cases hkey : key ∈ staysAsked.map fun pair => (Params.decodePair pair).1
    · exact hkeys key hkey
    · have hnone : ∀ pair ∈ staysAsked, ¬(pair ≠ [] ∧ (Params.decodePair pair).1 = key) :=
        fun pair hpair hspelt => hkey (List.mem_map.mpr ⟨pair, hpair, hspelt.2⟩)
      rw [List.filter_eq_nil_iff.mpr fun pair hpair => by simpa using hnone pair hpair,
        List.filter_eq_nil_iff.mpr fun pair hpair => by
          simpa using hnone pair (hperm.mem_iff.mpr hpair)]
  have hplaced : ∀ a ∈ Directive.placed (Params.ofQueryString (queryString staysAsked)).entries,
      ∀ b ∈ Directive.placed (Params.ofQueryString (queryString staysAsked)).entries,
        a.number = b.number → a.position = b.position := by
    decide +kernel
  have hapart : (Params.ofQueryString (queryString staysAsked)).NumberedApart := fun a b ha hb =>
    hplaced a (Params.mem_placed_iff.mpr ha) b (Params.mem_placed_iff.mpr hb)
  exact ⟨hpairs, hreordered, hapart, value_ofQueryString_eq_of_reordered hpairs hreordered hapart⟩

/-- Five stays, since the smaller number of the two limits is that of the one that goes first. -/
example : (ofQueryString (queryString staysAsked)).value.limit = some 5 := by
  cbv

end Clauses

end QueryGate
