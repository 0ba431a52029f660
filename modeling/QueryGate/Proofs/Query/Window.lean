import QueryGate.Proofs.Filter.Ordering
import QueryGate.Proofs.Query.Gate

/-!
# The window of rows

Any number of keys may ask for a limit, each with any values. A key does ask for one if its first
value is an integer that is not negative and that a signed word of 64 bits can hold
(`QueryGate.Params.AsksRows`), and of these keys the one that goes last is heeded
(`QueryGate.Params.Heeds`); the same holds for offsets. So a key with another value does not ask for
less, it does not ask at all, and the keys before and behind it are left as they are.

What is heeded is written at the end of the statement. The allow-list has no say in it, so it is
in the values alone that a count is bounded (`QueryGate.Clauses.limit_offset_of_params`).
-/

namespace QueryGate

open Directive (Standing Placed)

namespace Directive

/-- Of directives in order, **the last that makes something** is the one that all others which make
something go before. -/
theorem Placed.getLast?_filterMap_eq_some_iff {β : Type} {make : Placed → Option β}
    {placed : List Placed} (h : placed.Pairwise Placed.Before) {b : β} :
    (placed.filterMap make).getLast? = some b ↔
      ∃ last ∈ placed, make last = some b ∧
        ∀ other ∈ placed, make other ≠ none → other = last ∨ other.Before last := by
  rw [List.getLast?_filterMap, List.findSome?_eq_some_iff]
  constructor
  · rintro ⟨behind, last, before, hplaced, hmake, hnone⟩
    have hsplit : placed = before.reverse ++ last :: behind.reverse := by
      simpa using congrArg List.reverse hplaced
    subst hsplit
    refine ⟨last, by simp, hmake, fun other hother hsome => ?_⟩
    rcases List.mem_append.mp hother with hbefore | hother
    · exact Or.inr ((List.pairwise_append.mp h).2.2 other hbefore last List.mem_cons_self)
    · rcases List.mem_cons.mp hother with rfl | hbehind
      · exact Or.inl rfl
      · exact absurd (hnone other (List.mem_reverse.mp hbehind)) hsome
  · rintro ⟨last, hmem, hmake, hlast⟩
    obtain ⟨before, behind, rfl⟩ := List.append_of_mem hmem
    refine ⟨behind.reverse, last, before.reverse, by simp, hmake, fun other hother => ?_⟩
    have hother : other ∈ behind := List.mem_reverse.mp hother
    have hbehind : last.Before other :=
      (List.pairwise_cons.mp (List.pairwise_append.mp h).2.1).1 other hother
    by_contra hsome
    rcases hlast other (by simp [hother]) hsome with rfl | hbefore
    · exact hbehind.asymm hbehind
    · exact hbehind.asymm hbefore

/-- **That the directives of a kind are asked for by a word, with a number of rows.** -/
structure Counts (word : String) (kind : Directive → Option UInt64) (make : UInt64 → Directive) :
    Prop where
  /-- The directives of the kind are made of a number of rows. -/
  kind_eq_some_iff : ∀ directive count, kind directive = some count ↔ directive = make count
  /-- They come from keys with the word whose values make a number of rows. -/
  origin_iff : ∀ key values count, Origin key values (make count) ↔
    key.named = true ∧ key.word = word ∧ rowCount? values = some count

/-- A limit is asked for by its word. -/
theorem counts_limit : Counts "limit" limit? .limit where
  kind_eq_some_iff _ _ := limit?_eq_some_iff
  origin_iff key values count := by
    constructor
    · intro h
      cases h with
      | limit hnamed hword hcount => exact ⟨hnamed, hword, hcount⟩
    · rintro ⟨hnamed, hword, hcount⟩
      exact .limit hnamed hword hcount

/-- An offset is asked for by its word. -/
theorem counts_offset : Counts "offset" offset? .offset where
  kind_eq_some_iff _ _ := offset?_eq_some_iff
  origin_iff key values count := by
    constructor
    · intro h
      cases h with
      | offset hnamed hword hcount => exact ⟨hnamed, hword, hcount⟩
    · rintro ⟨hnamed, hword, hcount⟩
      exact .offset hnamed hword hcount

end Directive

namespace Params

variable {params : Params} {word : String} {standing : Standing} {count : UInt64}

/-! ### What is asked for -/

/-- **That parameters ask for a number of rows** by a word, with the key that stands there: the key
names the word, in any case, and its first value spells the number, which a signed word of 64 bits
can hold. Nothing is said of further values, nor of flags and brackets of the key. -/
def AsksRows (params : Params) (word : String) (standing : Standing) (count : UInt64) : Prop :=
  ∃ text first rest key, params.entries[standing.position]? = some (text, first :: rest) ∧
    Key.parse? text = some key ∧ key.named = true ∧ key.word = word ∧
      (∀ n, standing.number = some n ↔ Key.Numbered text n) ∧
        Decimal.Spells first.toList count.toNat ∧ count.toNat ≤ 9223372036854775807

/-- **Which number of rows is heeded** of those that parameters ask for by a word. -/
inductive Heeds (params : Params) (word : String) : Option UInt64 → Prop
  /-- The one of the key that all others go before. -/
  | last {standing : Standing} {count : UInt64} (hasks : params.AsksRows word standing count)
      (hlast : ∀ standing' count', params.AsksRows word standing' count' →
        standing' = standing ∨ standing'.Before standing) :
      Heeds params word (some count)
  /-- None, if no key asks for one. -/
  | none (h : ∀ standing count, ¬params.AsksRows word standing count) : Heeds params word none

/-- What is heeded can be held by a signed word. -/
theorem Heeds.le (h : params.Heeds word (some count)) : count.toNat ≤ 9223372036854775807 := by
  cases h with
  | last hasks =>
    obtain ⟨_, _, _, _, _, _, _, _, _, _, hle⟩ := hasks
    exact hle

/-- Where a directive stands tells which one it is. -/
theorem Places.eq_of_standing {a b : Placed} (ha : params.Places a) (hb : params.Places b)
    (h : a.toStanding = b.toStanding) : a = b := by
  obtain ⟨standing, directive⟩ := a
  obtain ⟨standing', directive'⟩ := b
  obtain rfl : standing = standing' := h
  obtain ⟨text, values, key, hentry, hkey, hdirective, -⟩ := ha
  obtain ⟨text', values', key', hentry', hkey', hdirective', -⟩ := hb
  obtain ⟨rfl, rfl⟩ := Prod.ext_iff.mp (Option.some.inj (hentry.symm.trans hentry'))
  obtain rfl := Option.some.inj (hkey.symm.trans hkey')
  obtain rfl : directive = directive' := Option.some.inj (hdirective.symm.trans hdirective')
  rfl

end Params

/-! ### What is heeded -/

namespace Directive.Counts

variable {params : Params} {word : String} {kind : Directive → Option UInt64}
  {make : UInt64 → Directive}

/-- A number of rows is asked for where there is a directive for it. -/
theorem asksRows_iff (h : Counts word kind make) {standing : Standing} {count : UInt64} :
    params.AsksRows word standing count ↔ ⟨standing, make count⟩ ∈ params.ordered := by
  rw [Params.mem_ordered_iff]
  constructor
  · rintro ⟨text, first, rest, key, hentry, hkey, hnamed, hword, hnumber, hspells, hle⟩
    have hcount : rowCount? (first :: rest) = some count :=
      rowCount?_eq_some_iff.mpr ⟨first, rest, rfl, hspells, hle⟩
    have hdirective := (h.origin_iff key _ count).mpr ⟨hnamed, hword, hcount⟩
    exact ⟨text, first :: rest, key, hentry, hkey, of?_eq_some_iff.mpr hdirective, hnumber⟩
  · rintro ⟨text, values, key, hentry, hkey, hdirective, hnumber⟩
    obtain ⟨hnamed, hword, hcount⟩ :=
      (h.origin_iff key values count).mp (of?_eq_some_iff.mp hdirective)
    obtain ⟨first, rest, rfl, hspells, hle⟩ := rowCount?_eq_some_iff.mp hcount
    exact ⟨text, first, rest, key, hentry, hkey, hnamed, hword, hnumber, hspells, hle⟩

/-- The directives of the kind are those by which a number of rows is asked for. -/
theorem asksRows_of_mem (h : Counts word kind make) {placed : Placed}
    (hmem : placed ∈ params.ordered) {count : UInt64} (hkind : kind placed.directive = some count) :
    params.AsksRows word placed.toStanding count := by
  obtain ⟨standing, directive⟩ := placed
  obtain rfl : directive = make count := (h.kind_eq_some_iff _ _).mp hkind
  exact h.asksRows_iff.mpr hmem

/-- Nothing is heeded if there is no directive of the kind. -/
theorem heeds_none_iff (h : Counts word kind make) :
    params.Heeds word none ↔ ∀ placed ∈ params.ordered, kind placed.directive = none := by
  constructor
  · rintro hnone placed hmem
    cases hnone with
    | none hnone =>
      refine Option.eq_none_iff_forall_ne_some.mpr fun count hkind => ?_
      exact hnone _ count (h.asksRows_of_mem hmem hkind)
  · intro hnone
    refine .none fun standing count hasks => ?_
    have hkind := (h.kind_eq_some_iff (make count) count).mpr rfl
    rw [hnone _ (h.asksRows_iff.mp hasks)] at hkind
    cases hkind

/-- What is heeded is the number of rows of the last directive of the kind. -/
theorem heeds_some_iff (h : Counts word kind make) {count : UInt64} :
    params.Heeds word (some count) ↔
      ∃ last ∈ params.ordered, kind last.directive = some count ∧
        ∀ other ∈ params.ordered, kind other.directive ≠ none →
          other = last ∨ other.Before last := by
  constructor
  · intro hheeds
    cases hheeds with
    | last hasks hlast =>
      have hmem := h.asksRows_iff.mp hasks
      refine ⟨_, hmem, (h.kind_eq_some_iff _ _).mpr rfl, fun other hother hsome => ?_⟩
      obtain ⟨count', hkind⟩ := Option.ne_none_iff_exists'.mp hsome
      refine (hlast _ count' (h.asksRows_of_mem hother hkind)).imp_left fun hstanding => ?_
      exact (Params.mem_ordered_iff.mp hother).eq_of_standing (Params.mem_ordered_iff.mp hmem)
        hstanding
  · rintro ⟨last, hmem, hkind, hlast⟩
    refine .last (h.asksRows_of_mem hmem hkind) fun standing' count' hasks => ?_
    have hsome : kind (make count') ≠ none := by
      rw [(h.kind_eq_some_iff _ count').mpr rfl]
      exact Option.some_ne_none count'
    exact (hlast _ (h.asksRows_iff.mp hasks) hsome).imp_left (congrArg Placed.toStanding)

/-- **Of the directives of one kind the last is heeded.** -/
theorem getLast?_eq_iff (h : Counts word kind make) (params : Params) (heeded : Option UInt64) :
    (params.ordered.filterMap fun placed => kind placed.directive).getLast? = heeded ↔
      params.Heeds word heeded := by
  cases heeded with
  | none => rw [List.getLast?_eq_none_iff, List.filterMap_eq_nil_iff, h.heeds_none_iff]
  | some count =>
    rw [Placed.getLast?_filterMap_eq_some_iff params.pairwise_before_ordered, h.heeds_some_iff]

end Directive.Counts

/-! ### What is written -/

/-- The query for all rows, without a limit and without an offset. -/
def CompiledQuery.unlimited (query : CompiledQuery) : CompiledQuery :=
  { query with clauses := { query.clauses with limit := none, offset := none } }

/-- **The limit and the offset are written at the end**, before the semicolon, and change nothing
before them. -/
theorem CompiledQuery.text_eq_limited (query : CompiledQuery) :
    ∃ front, query.unlimited.text = front ++ ";" ∧
      query.text = front ++ Statement.countLine "LIMIT" query.clauses.limit ++
        Statement.countLine "OFFSET" query.clauses.offset ++ ";" := by
  refine ⟨_, ?_, rfl⟩
  simp only [text, Statement.text, unlimited, selection]
  -- the equation of so long a text is slow to make
  delta Statement.selectText
  simp only [Statement.countLine, String.append_empty]
  rfl

namespace Clauses

/-- **The limit and the offset of parameters** are the numbers of rows of the last keys that ask for
one, and there is none if no key does. These are what a statement ends with, and so none ends with a
number that a signed word of 64 bits cannot hold. -/
theorem limit_offset_of_params (params : Params) :
    (∀ heeded, (ofParams params).value.limit = heeded ↔ params.Heeds "limit" heeded) ∧
    (∀ heeded, (ofParams params).value.offset = heeded ↔ params.Heeds "offset" heeded) ∧
    ∀ (model : Model) (role : Role) (query : CompiledQuery),
      (model.compile role params).value = .ok query →
        params.Heeds "limit" query.clauses.limit ∧ params.Heeds "offset" query.clauses.offset ∧
        (∀ count, query.clauses.limit = some count ∨ query.clauses.offset = some count →
          count.toNat ≤ 9223372036854775807) ∧
        ∃ front, query.unlimited.text = front ++ ";" ∧
          query.text = front ++ Statement.countLine "LIMIT" query.clauses.limit ++
            Statement.countLine "OFFSET" query.clauses.offset ++ ";" := by
  have hlimit : ∀ heeded, (ofParams params).value.limit = heeded ↔
      params.Heeds "limit" heeded := by
    rw [value_ofParams]
    exact Directive.counts_limit.getLast?_eq_iff params
  have hoffset : ∀ heeded, (ofParams params).value.offset = heeded ↔
      params.Heeds "offset" heeded := by
    rw [value_ofParams]
    exact Directive.counts_offset.getLast?_eq_iff params
  refine ⟨hlimit, hoffset, fun model role query hquery => ?_⟩
  have hclauses := congrArg CompiledQuery.clauses (Model.eq_of_compile hquery).2
  have hlimited : params.Heeds "limit" query.clauses.limit :=
    (hlimit _).mp (congrArg Clauses.limit hclauses).symm
  have hskipped : params.Heeds "offset" query.clauses.offset :=
    (hoffset _).mp (congrArg Clauses.offset hclauses).symm
  refine ⟨hlimited, hskipped, fun count hcount => ?_, query.text_eq_limited⟩
  rcases hcount with hcount | hcount
  · rw [hcount] at hlimited
    exact hlimited.le
  · rw [hcount] at hskipped
    exact hskipped.le

/-- Of five keys two ask for a limit; one without a number goes behind the others, but its number of
rows cannot be held. -/
example : (ofParams
    ⟨[("1:limit", ["5", "9"]), ("|:limit", ["9223372036854775808"]), ("2:Limit[x]", ["+07", "-"]),
      (":LIMIT", ["-1"]), ("3:limit", ["1e3"])]⟩).value.limit = some 7 := by
  cbv

end Clauses

end QueryGate
