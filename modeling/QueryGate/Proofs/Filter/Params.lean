import Mathlib.Data.List.Forall2
import Mathlib.Data.List.Induction
import Mathlib.Data.List.Nodup
import QueryGate.Filter.Params
import QueryGate.Proofs.Text.Form

/-!
# Which parameters a query string has

The parameters of a query string are found in two steps, and this module says what comes out of
each.

## From the text to the pairs

A query string that spells a list of pairs (`QueryGate.Params.Spells`) is read as that list
(`QueryGate.Params.ofQueryString_of_spells`), however the texts are spelt, with or without a
question mark at the front and whatever empty pieces stand in between.

## From the pairs to the entries

The entry of a key has the values that the pairs give for it, in their order
(`QueryGate.Params.mem_entries_ofPairs`). So the entries are the same for all ways of putting the
pairs in order that keep the pairs of each key in theirs (`QueryGate.Params.Shuffled`), up to the
order of the entries (`QueryGate.Params.entries_perm_of_shuffled`).
-/

namespace QueryGate.Params

/-! ### Pieces -/

/-- A text without a separator is one piece. -/
theorem pieces_of_not_mem {separator : Char} {cs : List Char} (h : separator ∉ cs) :
    pieces separator cs = [cs] := by
  induction cs with
  | nil => rfl
  | cons c cs ih =>
    obtain ⟨hc, hcs⟩ := List.ne_and_not_mem_of_not_mem_cons h
    rw [pieces, if_neg (Ne.symm hc), ih hcs]

/-- A piece ends at the first separator. -/
theorem pieces_append_cons {separator : Char} {cs : List Char} (h : separator ∉ cs)
    (rest : List Char) :
    pieces separator (cs ++ separator :: rest) = cs :: pieces separator rest := by
  induction cs with
  | nil => rw [List.nil_append, pieces, if_pos rfl]
  | cons c cs ih =>
    obtain ⟨hc, hcs⟩ := List.ne_and_not_mem_of_not_mem_cons h
    rw [List.cons_append, pieces, if_neg (Ne.symm hc), ih hcs]

/-- **Pieces with separators between them are found again**, but for the empty ones. -/
theorem filter_pieces_intercalate {separator : Char} {chunks : List (List Char)}
    (h : ∀ chunk ∈ chunks, separator ∉ chunk) :
    (pieces separator ([separator].intercalate chunks)).filter (!·.isEmpty) =
      chunks.filter (!·.isEmpty) := by
  induction chunks with
  | nil => rfl
  | cons chunk rest ih =>
    obtain ⟨hchunk, hrest⟩ := List.forall_mem_cons.mp h
    cases rest with
    | nil => rw [List.intercalate_singleton, pieces_of_not_mem hchunk]
    | cons next rest =>
      rw [List.intercalate_cons_cons, List.append_assoc, List.singleton_append,
        pieces_append_cons hchunk, List.filter_cons, ih hrest, List.filter_cons (x := chunk)]

/-- A pair is cut at its first separator. -/
theorem cut_append_cons {separator : Char} {cs : List Char} (h : separator ∉ cs)
    (rest : List Char) : cut separator (cs ++ separator :: rest) = (cs, rest) := by
  induction cs with
  | nil => rw [List.nil_append, cut, if_pos rfl]
  | cons c cs ih =>
    obtain ⟨hc, hcs⟩ := List.ne_and_not_mem_of_not_mem_cons h
    rw [List.cons_append, cut, if_neg (Ne.symm hc), ih hcs]

/-! ### Spellings of pairs -/

/-- **That a pair is spelt by a piece of a query string.** -/
def SpellsPair (pair : String × String) (piece : List Char) : Prop :=
  ∃ key value, Form.Spells pair.1.toList key ∧ Form.Spells pair.2.toList value ∧
    piece = key ++ '=' :: value

/-- **That a query string spells some pairs**: its pieces, with ampersands between them, spell them
one by one, unless they are empty. A question mark may stand in front. -/
def Spells (pairs : List (String × String)) (raw : String) : Prop :=
  ∃ chunks : List (List Char),
    List.Forall₂ SpellsPair pairs (chunks.filter (!·.isEmpty)) ∧
      (raw.toList = ['&'].intercalate chunks ∨ raw.toList = '?' :: ['&'].intercalate chunks)

/-- **Every list of pairs is spelt by a query string.** -/
theorem exists_spells (pairs : List (String × String)) : ∃ raw, Spells pairs raw := by
  have hpieces : ∃ pieces : List (List Char), List.Forall₂ SpellsPair pairs pieces ∧
      pieces.filter (!·.isEmpty) = pieces := by
    induction pairs with
    | nil => exact ⟨[], .nil, rfl⟩
    | cons pair pairs ih =>
      obtain ⟨pieces, hpieces, hkept⟩ := ih
      obtain ⟨key, hkey⟩ := Form.exists_spells pair.1.toList
      obtain ⟨value, hvalue⟩ := Form.exists_spells pair.2.toList
      refine ⟨(key ++ '=' :: value) :: pieces, .cons ⟨key, value, hkey, hvalue, rfl⟩ hpieces, ?_⟩
      rw [List.filter_cons_of_pos (by simp), hkept]
  obtain ⟨pieces, hpieces, hkept⟩ := hpieces
  refine ⟨String.ofList (['&'].intercalate pieces), pieces, ?_, Or.inl String.toList_ofList⟩
  rwa [hkept]

/-- A piece is read as the pair that it spells. -/
theorem decodePair_of_spellsPair {pair : String × String} {piece : List Char}
    (h : SpellsPair pair piece) : decodePair piece = pair := by
  obtain ⟨key, value, hkey, hvalue, rfl⟩ := h
  have hequals : '=' ∉ key := Form.not_mem_of_spells (by decide) hkey
  rw [decodePair, cut_append_cons hequals, Form.decode_of_spells hkey, Form.decode_of_spells hvalue,
    String.ofList_toList, String.ofList_toList]

/-- Neither an ampersand nor a question mark stands in a piece. -/
theorem not_mem_of_spellsPair {c : Char} (hc : c ∈ ['&', '?']) {pair : String × String}
    {piece : List Char} (h : SpellsPair pair piece) : c ∉ piece := by
  have hall : ∀ c ∈ ['&', '?'], c ∈ ['&', '=', '?'] ∧ c ≠ '=' := by
    rw [List.forall_mem_cons, List.forall_mem_singleton]
    decide
  obtain ⟨hmarks, hequals⟩ := hall c hc
  obtain ⟨key, value, hkey, hvalue, rfl⟩ := h
  intro hmem
  rcases List.mem_append.mp hmem with hmem | hmem
  · exact Form.not_mem_of_spells hmarks hkey hmem
  rcases List.mem_cons.mp hmem with hmem | hmem
  · exact hequals hmem
  · exact Form.not_mem_of_spells hmarks hvalue hmem

/-- Pieces that spell pairs are read as these pairs, and what divides a query string does not stand
in them. -/
theorem map_decodePair_of_forall₂ {pairs : List (String × String)} {spelled : List (List Char)}
    (h : List.Forall₂ SpellsPair pairs spelled) :
    spelled.map decodePair = pairs ∧ ∀ c ∈ ['&', '?'], ∀ piece ∈ spelled, c ∉ piece := by
  induction h with
  | nil => exact ⟨rfl, fun c _ piece hpiece => absurd hpiece List.not_mem_nil⟩
  | cons hpair _ ih =>
    refine ⟨?_, fun c hc => List.forall_mem_cons.mpr ⟨not_mem_of_spellsPair hc hpair, ih.2 c hc⟩⟩
    rw [List.map_cons, decodePair_of_spellsPair hpair, ih.1]

/-- What does not stand in the pieces stands between them only if it is the separator. -/
theorem not_mem_intercalate {c separator : Char} (hne : c ≠ separator) {chunks : List (List Char)}
    (h : ∀ chunk ∈ chunks, c ∉ chunk) : c ∉ [separator].intercalate chunks := by
  induction chunks with
  | nil => exact List.not_mem_nil
  | cons chunk rest ih =>
    obtain ⟨hchunk, hrest⟩ := List.forall_mem_cons.mp h
    cases rest with
    | nil => rwa [List.intercalate_singleton]
    | cons next rest =>
      rw [List.intercalate_cons_cons, List.mem_append, List.mem_append, List.mem_singleton]
      rintro ((hmem | hmem) | hmem)
      · exact hchunk hmem
      · exact hne hmem
      · exact ih hrest hmem

/-- **A query string is read as the pairs that it spells.** -/
theorem ofQueryString_of_spells {pairs : List (String × String)} {raw : String}
    (h : Spells pairs raw) : ofQueryString raw = ofPairs pairs := by
  obtain ⟨chunks, hpairs, hraw⟩ := h
  obtain ⟨hdecoded, hspelled⟩ := map_decodePair_of_forall₂ hpairs
  have hmarks : ∀ c ∈ ['&', '?'], ∀ chunk ∈ chunks, c ∉ chunk := by
    intro c hc chunk hchunk hmem
    have hkept : (!chunk.isEmpty) = true := by
      cases chunk with
      | nil => exact absurd hmem List.not_mem_nil
      | cons => rfl
    exact hspelled c hc chunk (List.mem_filter.mpr ⟨hchunk, hkept⟩) hmem
  have hunmarked : unmarked raw.toList = ['&'].intercalate chunks := by
    rcases hraw with hraw | hraw
    · have hne : '?' ≠ '&' := by
        decide
      have hquestion := not_mem_intercalate hne (hmarks '?' (by decide))
      rw [hraw]
      cases hchars : ['&'].intercalate chunks with
      | nil => rfl
      | cons c rest =>
        refine if_neg ?_
        rintro rfl
        exact hquestion (hchars ▸ List.mem_cons_self)
    · rw [hraw, unmarked, if_pos rfl]
  rw [ofQueryString, hunmarked, filter_pieces_intercalate (hmarks '&' (by decide)), hdecoded]

/-! ### Entries -/

/-- **The values that pairs give for a key**, in order. -/
def valuesFor (key : String) (pairs : List (String × String)) : List String :=
  (pairs.filter (·.1 = key)).map Prod.snd

/-- **That pairs are put in another order** which keeps those of each key in theirs. -/
def Shuffled (pairs pairs' : List (String × String)) : Prop :=
  ∀ key, valuesFor key pairs = valuesFor key pairs'

/-- The pairs that entries are made from, key by key. -/
def pairsOf (entries : List (String × List String)) : List (String × String) :=
  entries.flatMap fun entry => entry.2.map (entry.1, ·)

/-- What stands under a name is its first entry, or what stands under it in the rest. -/
theorem lookup_cons_eq_ite (name key : String) (values : List String)
    (rest : List (String × List String)) :
    ((key, values) :: rest).lookup name = if name = key then some values else rest.lookup name := by
  by_cases h : name = key
  · rw [if_pos h, h, List.lookup_cons_self]
  · rw [if_neg h, List.lookup_cons, beq_false_of_ne h]

/-- What stands under a key after a value was put under one. -/
theorem lookup_put (key value name : String) (entries : List (String × List String)) :
    (put key value entries).lookup name =
      if name = key then some ((entries.lookup name).getD [] ++ [value])
      else entries.lookup name := by
  induction entries with
  | nil => rw [put, lookup_cons_eq_ite, List.lookup_nil, Option.getD_none, List.nil_append]
  | cons entry rest ih =>
    obtain ⟨k, values⟩ := entry
    rw [lookup_cons_eq_ite]
    by_cases hk : k = key
    · subst hk
      rw [put, if_pos rfl, lookup_cons_eq_ite]
      split <;> rfl
    · rw [put, if_neg hk, lookup_cons_eq_ite, ih]
      by_cases hname : name = k
      · simp [hname, hk]
      · simp [hname]

/-- A new key comes last. -/
theorem map_fst_put (key value : String) (entries : List (String × List String)) :
    (put key value entries).map Prod.fst =
      if key ∈ entries.map Prod.fst then entries.map Prod.fst
      else entries.map Prod.fst ++ [key] := by
  induction entries with
  | nil => rfl
  | cons entry rest ih =>
    obtain ⟨k, values⟩ := entry
    by_cases hk : k = key
    · simp [put, hk]
    · have hne : key ≠ k := Ne.symm hk
      simp only [put, hk, if_false, List.map_cons, ih, List.mem_cons, hne, false_or]
      split <;> rfl

/-- One more pair is put behind the others. -/
theorem entries_ofPairs_concat (pairs : List (String × String)) (pair : String × String) :
    (ofPairs (pairs ++ [pair])).entries = put pair.1 pair.2 (ofPairs pairs).entries := by
  rw [ofPairs, List.foldl_append]
  rfl

/-- **No key has two entries.** -/
theorem nodup_keys_ofPairs (pairs : List (String × String)) :
    ((ofPairs pairs).entries.map Prod.fst).Nodup := by
  induction pairs using List.reverseRecOn with
  | nil => exact List.nodup_nil
  | append_singleton pairs pair ih =>
    rw [entries_ofPairs_concat, map_fst_put]
    split
    · exact ih
    · next hnew =>
      rw [← List.concat_eq_append]
      exact ih.concat hnew

/-- **What stands under a key** are the values that the pairs give for it, if there are any. -/
theorem lookup_ofPairs (pairs : List (String × String)) (key : String) :
    (ofPairs pairs).entries.lookup key =
      if valuesFor key pairs = [] then none else some (valuesFor key pairs) := by
  induction pairs using List.reverseRecOn with
  | nil => rfl
  | append_singleton pairs pair ih =>
    have hvalues : valuesFor key (pairs ++ [pair]) =
        valuesFor key pairs ++ if pair.1 = key then [pair.2] else [] := by
      by_cases h : pair.1 = key <;> simp [valuesFor, h]
    rw [entries_ofPairs_concat, lookup_put, ih, hvalues]
    by_cases h : key = pair.1
    · subst h
      by_cases hnil : valuesFor pair.1 pairs = [] <;> simp [hnil]
    · have hne : pair.1 ≠ key := Ne.symm h
      simp [h, hne]

/-- Where no key has two entries, an entry is what stands under its key. -/
theorem mem_iff_lookup {entries : List (String × List String)}
    (h : (entries.map Prod.fst).Nodup) {key : String} {values : List String} :
    (key, values) ∈ entries ↔ entries.lookup key = some values := by
  induction entries with
  | nil => simp
  | cons entry rest ih =>
    obtain ⟨k, vs⟩ := entry
    obtain ⟨hk, hrest⟩ := List.nodup_cons.mp h
    rw [List.mem_cons, lookup_cons_eq_ite]
    by_cases hkey : key = k
    · subst hkey
      have hother : (key, values) ∉ rest := fun hmem => hk (List.mem_map.mpr ⟨_, hmem, rfl⟩)
      simp [hother, eq_comm]
    · simp [hkey, ih hrest]

/-- **The entries that pairs make**, each with the values of its key. -/
theorem mem_entries_ofPairs {pairs : List (String × String)} {key : String}
    {values : List String} :
    (key, values) ∈ (ofPairs pairs).entries ↔ valuesFor key pairs = values ∧ values ≠ [] := by
  rw [mem_iff_lookup (nodup_keys_ofPairs pairs), lookup_ofPairs]
  by_cases hnil : valuesFor key pairs = []
  · rw [if_pos hnil, hnil]
    simp only [reduceCtorEq, ne_eq, false_iff, not_and, not_not]
    exact Eq.symm
  · rw [if_neg hnil, Option.some.injEq]
    constructor
    · rintro rfl
      exact ⟨rfl, hnil⟩
    · exact And.left

/-- **The order of the pairs does not matter for the entries**, but for their order, as long as the
pairs of each key stay in theirs. -/
theorem entries_perm_of_shuffled {pairs pairs' : List (String × String)}
    (h : Shuffled pairs pairs') : (ofPairs pairs).entries.Perm (ofPairs pairs').entries := by
  refine (List.perm_ext_iff_of_nodup (nodup_keys_ofPairs pairs).of_map
    (nodup_keys_ofPairs pairs').of_map).mpr fun entry => ?_
  rw [mem_entries_ofPairs, mem_entries_ofPairs, h entry.1]

/-- **Entries are made again from their pairs**, up to their order. -/
theorem entries_ofPairs_pairsOf {entries : List (String × List String)}
    (hkeys : (entries.map Prod.fst).Nodup) (hvalues : ∀ entry ∈ entries, entry.2 ≠ []) :
    (ofPairs (pairsOf entries)).entries.Perm entries := by
  have hfor : ∀ key, valuesFor key (pairsOf entries) = (entries.lookup key).getD [] := by
    intro key
    clear hvalues
    induction entries with
    | nil => rfl
    | cons entry rest ih =>
      obtain ⟨k, vs⟩ := entry
      obtain ⟨hk, hrest⟩ := List.nodup_cons.mp hkeys
      have hfirst : valuesFor key (vs.map (k, ·)) = if key = k then vs else [] := by
        by_cases h : key = k
        · simp [valuesFor, List.filter_map, Function.comp_def, h]
        · simp [valuesFor, List.filter_map, Function.comp_def, h, Ne.symm h]
      have happend : valuesFor key (pairsOf ((k, vs) :: rest)) =
          valuesFor key (vs.map (k, ·)) ++ valuesFor key (pairsOf rest) := by
        simp [pairsOf, valuesFor]
      rw [happend, hfirst, ih hrest, lookup_cons_eq_ite]
      by_cases h : key = k
      · subst h
        have hnone : rest.lookup key = none := by
          rw [List.lookup_eq_none_iff]
          intro entry hentry
          exact bne_iff_ne.mpr fun heq => hk (List.mem_map.mpr ⟨entry, hentry, heq.symm⟩)
        simp [hnone]
      · simp [h]
  refine (List.perm_ext_iff_of_nodup (nodup_keys_ofPairs _).of_map hkeys.of_map).mpr fun entry => ?_
  obtain ⟨key, values⟩ := entry
  rw [mem_entries_ofPairs, hfor, mem_iff_lookup hkeys]
  constructor
  · rintro ⟨rfl, hne⟩
    cases hlookup : entries.lookup key with
    | none => exact absurd (by rw [hlookup]; rfl) hne
    | some vs => rfl
  · intro hlookup
    exact ⟨by rw [hlookup]; rfl, hvalues _ ((mem_iff_lookup hkeys).mpr hlookup)⟩

end QueryGate.Params
