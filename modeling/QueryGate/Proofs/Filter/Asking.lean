import QueryGate.Proofs.Filter.Params
import QueryGate.Proofs.Filter.Ranking
import QueryGate.Proofs.Filter.Written

/-!
# Clauses that are asked for

The filter language can ask for all clauses of its shape (`QueryGate.Clauses.Expressible`), and what
it asks for is what is read (`QueryGate.Clauses.asked_and_recovered`). A query string asks for
clauses (`QueryGate.Clauses.AskedBy`) in a great many ways: their directives may be listed in any
order that keeps each list of the clauses in its own, and are then numbered from zero on; each is
asked for by one of its names; the pairs of keys and values may stand in any order that keeps those
of one key in theirs; and each text may be spelt in any way.

## What carries the proof

The pairs make one entry for each directive, since the numbers make all keys different. Every entry
is read as its directive, and sorting by the numbers puts the directives in the order in which they
were listed, wherever their entries stand.
-/

namespace QueryGate

namespace Directive

/-! ### Directives with their numbers -/

/-- The entry that asks for a directive by a name, under a number. -/
def entry (asked : (String × Directive) × Nat) : String × List String :=
  ((asked.1.2.key (UInt64.ofNat asked.2) asked.1.1).print, asked.1.2.values)

/-- **The entries that ask for directives by their names**, numbered from zero on. -/
def entries (asked : List (String × Directive)) : List (String × List String) :=
  asked.zipIdx.map entry

/-- Directives numbered from zero on. -/
def numbered (asked : List (String × Directive)) : List Ranked :=
  asked.zipIdx.map fun x => ⟨some (UInt64.ofNat x.2), x.1.2⟩

/-- **That directives can be asked for by the given names.** -/
def Askable (asked : List (String × Directive)) : Prop :=
  ∀ x ∈ asked, x.2.Expressible ∧ x.1 ∈ x.2.names

variable {asked : List (String × Directive)}

/-- An entry is read as the directive that it asks for. -/
theorem ofEntry_entry {x : (String × Directive) × Nat} (h : x.1.2.Expressible)
    (hname : x.1.1 ∈ x.1.2.names) :
    ofEntry (entry x) = .ok ⟨some (UInt64.ofNat x.2), x.1.2⟩ := by
  have hkey : Key.parse? (entry x).1 = some (x.1.2.key (UInt64.ofNat x.2) x.1.1) :=
    Key.parse?_print (wellFormed_key h hname _)
  have hdirective : of? (x.1.2.key (UInt64.ofNat x.2) x.1.1) (entry x).2 = some x.1.2 :=
    of?_key h hname _
  rw [ofEntry, hkey]
  simp only [hdirective]
  rfl

/-- Numbers that fit in a word are told apart there. -/
theorem pairwise_numbers (hcount : asked.length ≤ UInt64.size) :
    asked.zipIdx.Pairwise fun x y => UInt64.ofNat x.2 < UInt64.ofNat y.2 := by
  have hfits : ∀ x ∈ asked.zipIdx, (UInt64.ofNat x.2).toNat = x.2 := fun x hx =>
    UInt64.toNat_ofNat_of_lt' (Nat.lt_of_lt_of_le (List.snd_lt_of_mem_zipIdx hx) hcount)
  refine (pairwise_zipIdx asked).imp_of_mem fun {x y} hx hy hlt => UInt64.lt_iff_toNat_lt.mpr ?_
  rwa [hfits x hx, hfits y hy]

/-- **The entries of directives have different keys.** -/
theorem nodup_keys_entries (h : Askable asked) (hcount : asked.length ≤ UInt64.size) :
    ((entries asked).map Prod.fst).Nodup := by
  -- a key is known by its text, and a number by its key
  have hprint : ∀ x ∈ asked.zipIdx, Key.parse? (entry x).1 =
      some (x.1.2.key (UInt64.ofNat x.2) x.1.1) := by
    intro x hx
    obtain ⟨hexpressible, hname⟩ := h x.1 (List.fst_mem_of_mem_zipIdx hx)
    exact Key.parse?_print (wellFormed_key hexpressible hname _)
  rw [entries, List.map_map]
  refine List.pairwise_map.mpr ((pairwise_numbers hcount).imp_of_mem fun {x y} hx hy hlt heq => ?_)
  have hkeys := (hprint x hx).symm.trans ((congrArg Key.parse? heq).trans (hprint y hy))
  have hnumbers := Option.some.inj (congrArg Key.number (Option.some.inj hkeys))
  exact UInt64.lt_irrefl _ (hnumbers ▸ hlt)

/-- Numbered directives are the directives. -/
theorem map_directive_numbered (asked : List (String × Directive)) :
    (numbered asked).map Ranked.directive = asked.map Prod.snd := by
  have hplaces : asked.zipIdx.map Prod.fst = asked := List.zipIdx_map_fst 0 asked
  rw [numbered, List.map_map]
  conv_rhs => rw [← hplaces, List.map_map]
  rfl

/-- Numbered directives are in order. -/
theorem mergeSort_numbered (hcount : asked.length ≤ UInt64.size) :
    (numbered asked).mergeSort precedes = numbered asked := by
  refine List.mergeSort_of_pairwise (List.pairwise_map.mpr ?_)
  exact (pairwise_numbers hcount).imp fun hlt => decide_eq_true (UInt64.le_of_lt hlt)

/-- No number occurs twice. -/
theorem nodup_numbers (hcount : asked.length ≤ UInt64.size) :
    ((numbered asked).map Ranked.number).Nodup := by
  rw [numbered, List.map_map]
  refine List.pairwise_map.mpr ((pairwise_numbers hcount).imp fun hlt heq => ?_)
  exact UInt64.lt_irrefl _ (Option.some.inj heq ▸ hlt)

/-- **What is read of the entries of directives**, in whatever order they come. -/
theorem ofEntries_of_perm (h : Askable asked) {found : List (String × List String)}
    (hfound : found.Perm (entries asked)) :
    (ofEntries found).value.Perm (numbered asked) ∧ (ofEntries found).notices = [] := by
  have hread : (entries asked).filterMap (fun entry => (ofEntry entry).toOption) =
      numbered asked := by
    rw [entries, List.filterMap_map, numbered, ← List.filterMap_eq_map]
    refine List.filterMap_congr fun x hx => ?_
    obtain ⟨hexpressible, hname⟩ := h x.1 (List.fst_mem_of_mem_zipIdx hx)
    rw [Function.comp_apply, ofEntry_entry hexpressible hname]
    rfl
  have hvalue : (ofEntries found).value.Perm (numbered asked) := by
    rw [ofEntries, Noted.value_sift, ← hread]
    exact hfound.filterMap _
  refine ⟨hvalue, List.eq_nil_of_length_eq_zero ?_⟩
  -- as many directives are read as there are entries, so nothing is left to be reported
  have hlength := Noted.length_sift ofEntry found
  have hentries : (numbered asked).length = (entries asked).length := by
    rw [numbered, entries, List.length_map, List.length_map]
  have := hvalue.length_eq
  have := hfound.length_eq
  rw [ofEntries] at *
  omega

end Directive

/-! ### Clauses -/

namespace Clauses

/-- **The clauses that the filter language can ask for.** -/
structure Expressible (clauses : Clauses) : Prop where
  /-- Each condition on rows has an operator of a directive and an operand that it takes. -/
  filters : ∀ c ∈ clauses.filters, Key.IsField c.field ∧ c.operator.Takes c.operand
  /-- Rows are grouped by the fields of the conditions on groups, one by one. -/
  groups : clauses.groups = clauses.having.map Condition.field
  /-- Each condition on groups compares a group with a text that is not empty, or with no value. -/
  having : ∀ c ∈ clauses.having, Key.IsField c.field ∧ c.operator = .group ∧
    (c.operand = .single .null ∨ ∃ s, s ≠ "" ∧ c.operand = .text s)
  /-- Rows are ordered by fields. -/
  order : ∀ key ∈ clauses.order, Key.IsField key.field
  /-- A limit fits in a signed word. -/
  limit : ∀ count ∈ clauses.limit, count.toNat < Nat.pow 2 63
  /-- An offset fits in a signed word. -/
  offset : ∀ count ∈ clauses.offset, count.toNat < Nat.pow 2 63

/-- **That directives are those of some clauses**, each list in its order. -/
structure ListedBy (clauses : Clauses) (directives : List Directive) : Prop where
  /-- The conditions on rows. -/
  filters : directives.filterMap Directive.filter? = clauses.filters
  /-- The groups with their conditions. -/
  groups : directives.filterMap Directive.group? = clauses.groups.zip clauses.having
  /-- The order. -/
  order : directives.filterMap Directive.order? = clauses.order
  /-- The limit. -/
  limit : directives.filterMap Directive.limit? = clauses.limit.toList
  /-- The offset. -/
  offset : directives.filterMap Directive.offset? = clauses.offset.toList

/-- The directives of clauses, list by list. -/
def directives (clauses : Clauses) : List Directive :=
  clauses.filters.map .filter ++
    ((clauses.groups.zip clauses.having).map (fun x => .group x.1 x.2) ++
      (clauses.order.map .order ++
        (clauses.limit.toList.map .limit ++ clauses.offset.toList.map .offset)))

/-- **That a query string asks for clauses.** -/
def AskedBy (clauses : Clauses) (raw : String) : Prop :=
  ∃ (asked : List (String × Directive)) (pairs : List (String × String)),
    clauses.ListedBy (asked.map Prod.snd) ∧ (∀ x ∈ asked, x.1 ∈ x.2.names) ∧
      Params.Shuffled pairs (Params.pairsOf (Directive.entries asked)) ∧ Params.Spells pairs raw

variable {clauses : Clauses} {directives : List Directive}

/-- Clauses are listed by their directives. -/
theorem listedBy_directives (clauses : Clauses) : clauses.ListedBy clauses.directives := by
  constructor <;>
    simp [directives, List.filterMap_append, List.filterMap_map, Function.comp_def,
      Directive.filter?, Directive.group?, Directive.order?, Directive.limit?, Directive.offset?]

/-- Clauses are listed by as many directives, however they are listed. -/
theorem ListedBy.length_eq (h : clauses.ListedBy directives) :
    directives.length = clauses.directives.length := by
  obtain ⟨hfilters, hgroups, horder, hlimit, hoffset⟩ := listedBy_directives clauses
  rw [Directive.length_eq, h.filters, h.groups, h.order, h.limit, h.offset,
    Directive.length_eq clauses.directives, hfilters, hgroups, horder, hlimit, hoffset]

/-- The directives of clauses that can be asked for can be written. -/
theorem ListedBy.expressible (h : clauses.ListedBy directives) (hclauses : clauses.Expressible) :
    ∀ directive ∈ directives, directive.Expressible := by
  have hzip : ∀ conditions : List Condition, (conditions.map Condition.field).zip conditions =
      conditions.map fun c => (c.field, c) := by
    intro conditions
    induction conditions with
    | nil => rfl
    | cons c rest ih => rw [List.map_cons, List.zip_cons_cons, ih, List.map_cons]
  intro directive hmem
  cases directive with
  | filter condition =>
    have hcondition : condition ∈ clauses.filters :=
      h.filters ▸ List.mem_filterMap.mpr ⟨_, hmem, rfl⟩
    exact hclauses.filters condition hcondition
  | group field having =>
    have hgroup : (field, having) ∈ clauses.groups.zip clauses.having :=
      h.groups ▸ List.mem_filterMap.mpr ⟨_, hmem, rfl⟩
    rw [hclauses.groups, hzip] at hgroup
    obtain ⟨c, hc, heq⟩ := List.mem_map.mp hgroup
    obtain ⟨rfl, rfl⟩ := Prod.mk.inj heq
    obtain ⟨hfield, hoperator, hoperand⟩ := hclauses.having c hc
    exact ⟨hfield, rfl, hoperator, hoperand⟩
  | order key =>
    have hkey : key ∈ clauses.order := h.order ▸ List.mem_filterMap.mpr ⟨_, hmem, rfl⟩
    exact hclauses.order key hkey
  | limit count =>
    have hcount : count ∈ clauses.limit.toList := h.limit ▸ List.mem_filterMap.mpr ⟨_, hmem, rfl⟩
    exact hclauses.limit count (Option.mem_toList.mp hcount)
  | offset count =>
    have hcount : count ∈ clauses.offset.toList := h.offset ▸ List.mem_filterMap.mpr ⟨_, hmem, rfl⟩
    exact hclauses.offset count (Option.mem_toList.mp hcount)

/-- **Directives come to the clauses that they list.** -/
theorem ListedBy.ofDirectives_eq (h : clauses.ListedBy directives)
    (hclauses : clauses.Expressible) : ofDirectives directives = clauses := by
  have hlength : clauses.groups.length = clauses.having.length := by
    rw [hclauses.groups, List.length_map]
  have hlast : ∀ count : Option UInt64, count.toList.getLast?.or none = count := by
    rintro (_ | count) <;> rfl
  rw [ofDirectives, foldl_add, h.filters, h.groups, h.order, h.limit, h.offset,
    List.map_fst_zip (Nat.le_of_eq hlength), List.map_snd_zip (Nat.le_of_eq hlength.symm)]
  simp only [List.nil_append, hlast]

/-- **All clauses of the shape of the filter language can be asked for.** -/
theorem exists_askedBy (h : clauses.Expressible) : ∃ raw, clauses.AskedBy raw := by
  -- each directive by the first of its names, in the order of the lists
  have hexpressible := (listedBy_directives clauses).expressible h
  have hdirectives : (clauses.directives.map fun d => (d.names.headD "", d)).map Prod.snd =
      clauses.directives := by
    simp [Function.comp_def]
  obtain ⟨raw, hraw⟩ := Params.exists_spells (Params.pairsOf (Directive.entries
    (clauses.directives.map fun d => (d.names.headD "", d))))
  refine ⟨raw, _, _, ?_, ?_, fun key => rfl, hraw⟩
  · rw [hdirectives]
    exact listedBy_directives clauses
  · exact List.forall_mem_map.mpr fun d hd => Directive.headD_mem_names (hexpressible d hd)

/-- **Clauses are recovered from every query string that asks for them**, and nothing is
reported. -/
theorem ofQueryString_of_askedBy (h : clauses.Expressible)
    (hcount : clauses.directives.length ≤ UInt64.size) {raw : String} (hraw : clauses.AskedBy raw) :
    ofQueryString raw = ⟨clauses, []⟩ := by
  obtain ⟨asked, pairs, hlisted, hnames, hshuffled, hspelt⟩ := hraw
  have hfits : asked.length ≤ UInt64.size := by
    rw [← hlisted.length_eq, List.length_map] at hcount
    exact hcount
  have haskable : Directive.Askable asked := fun x hx =>
    ⟨hlisted.expressible h x.2 (List.mem_map_of_mem hx), hnames x hx⟩
  have hvalues : ∀ entry ∈ Directive.entries asked, entry.2 ≠ [] := by
    intro entry hentry
    obtain ⟨x, hx, rfl⟩ := List.mem_map.mp hentry
    exact Directive.values_ne_nil (haskable x.1 (List.fst_mem_of_mem_zipIdx hx)).1
  -- the pairs make the entries again, in some order
  have hfound : (Params.ofPairs pairs).entries.Perm (Directive.entries asked) :=
    (Params.entries_perm_of_shuffled hshuffled).trans
      (Params.entries_ofPairs_pairsOf (Directive.nodup_keys_entries haskable hfits) hvalues)
  obtain ⟨hread, hnotices⟩ := Directive.ofEntries_of_perm haskable hfound
  have hsorted : (Directive.ofEntries (Params.ofPairs pairs).entries).value.mergeSort
      Directive.precedes = Directive.numbered asked := by
    rw [← Directive.mergeSort_eq_of_perm hread.symm (Directive.nodup_numbers hfits),
      Directive.mergeSort_numbered hfits]
  rw [ofQueryString, Params.ofQueryString_of_spells hspelt, ofParams, Noted.map, hsorted,
    hnotices, Directive.map_directive_numbered, hlisted.ofDirectives_eq h]

/-- **All clauses of the shape of the filter language can be asked for, and are recovered from every
query string that asks for them.** The directives are counted because a number has to fit in a word
to rank its directive; a list in memory is never so long that it would not. -/
theorem asked_and_recovered (h : clauses.Expressible)
    (hcount : clauses.directives.length ≤ UInt64.size) :
    (∃ raw, clauses.AskedBy raw) ∧
      ∀ raw, clauses.AskedBy raw → ofQueryString raw = ⟨clauses, []⟩ :=
  ⟨exists_askedBy h, fun _ hraw => ofQueryString_of_askedBy h hcount hraw⟩

/-- Who is in one of two towns, or in none, town by town; ten rows. -/
def residents : Clauses :=
  { filters :=
      [{ field := "town & city", operand := .texts ["Győr", "a=b"], operator := .oneOf },
        { field := "town & city", operand := .single .null, operator := .isNull,
          connective := .or }]
    groups := ["town & city"]
    having :=
      [{ field := "town & city", operand := .single .null, operator := .group, negated := true }]
    order := [⟨"name", .descending⟩]
    limit := some 10 }

/-- The residents can be asked for. -/
theorem asked_and_recovered_residents :
    residents.Expressible ∧ residents.directives.length ≤ UInt64.size ∧
      (∃ raw, residents.AskedBy raw) ∧
        ∀ raw, residents.AskedBy raw → ofQueryString raw = ⟨residents, []⟩ := by
  have hfield : Key.IsField "town & city" := ⟨by decide, by decide⟩
  have hexpressible : residents.Expressible :=
    { filters := List.forall_mem_cons.mpr ⟨⟨hfield, .oneOf (by decide)⟩,
        List.forall_mem_singleton.mpr ⟨hfield, .isNull⟩⟩
      groups := rfl
      having := List.forall_mem_singleton.mpr ⟨hfield, rfl, Or.inl rfl⟩
      order := List.forall_mem_singleton.mpr ⟨by decide, by decide⟩
      limit := fun count hcount => by
        obtain rfl := Option.some.inj hcount
        decide
      offset := fun count hcount => nomatch hcount }
  have hcount : residents.directives.length ≤ UInt64.size := by
    decide
  exact ⟨hexpressible, hcount, asked_and_recovered hexpressible hcount⟩

/-- One way to ask for the residents. -/
example : ofQueryString
    ("0:in[town+%26+city][]=Gy%C5%91r&5:limit=10&2:!group[town+%26+city]=&3:sort[name]=DESC" ++
      "&0:in[town+%26+city][]=a%3db&1:|is_null[town+%26+city]=") = ⟨residents, []⟩ := by
  cbv

end Clauses

end QueryGate
