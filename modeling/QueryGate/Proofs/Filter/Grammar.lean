import Mathlib.Logic.ExistsUnique
import QueryGate.Proofs.Filter.Key

/-!
# The grammar of keys

A text is a key if it can be put together from the parts of the grammar, and only then. It can then
be put together in one way (`QueryGate.Key.parse?_grammar`).

One half of this is known: the text of parts is read as their key (`QueryGate.Key.parse?_text`). The
other half is in `QueryGate.Key.exists_parts_of_parse?`: the reading takes the text apart and leaves
nothing over, and what it takes are parts of the grammar. That there is no other way to take the
text apart does not follow from the key that is read, since digits of any script are lost in it. It
follows from where each part ends (`QueryGate.Key.Parts.text_inj`), one part after the other.
-/

namespace QueryGate.Key

/-! ### What is read -/

/-- **What is read as brackets are brackets.** Where the reading stands inside a pair, the opening
one has been read before. -/
theorem takeBrackets_eq_some {inside : Bool} {cs : List Char} {groups : List (List Char)}
    (h : takeBrackets inside cs = some groups) :
    (if inside then '[' :: cs else cs) = Parts.bracketed groups ∧
      ∀ group ∈ groups, '[' ∉ group ∧ ']' ∉ group := by
  induction cs generalizing inside groups with
  | nil =>
    cases inside with
    | true => cases h
    | false =>
      obtain rfl := Option.some.inj h
      exact ⟨rfl, fun group hgroup => absurd hgroup List.not_mem_nil⟩
  | cons c rest ih =>
    rw [takeBrackets] at h
    cases inside with
    | false =>
      rw [if_neg Bool.false_ne_true] at h ⊢
      split at h
      · next hopen =>
        subst hopen
        exact ih h
      · cases h
    | true =>
      rw [if_pos rfl] at h ⊢
      split at h
      · next hclose =>
        subst hclose
        obtain ⟨others, hothers, rfl⟩ := Option.map_eq_some_iff.mp h
        obtain ⟨hrest, hfree⟩ := ih hothers
        rw [if_neg Bool.false_ne_true] at hrest
        refine ⟨by rw [hrest]; rfl, List.forall_mem_cons.mpr ⟨by simp, hfree⟩⟩
      split at h
      · cases h
      · next hclose hopen =>
        obtain ⟨others, hothers, rfl⟩ := Option.map_eq_some_iff.mp h
        obtain ⟨hrest, hfree⟩ := ih hothers
        rw [if_pos rfl] at hrest
        -- the pair that is open has been read, so there is one
        cases others with
        | nil => cases hrest
        | cons group others =>
          obtain ⟨hgroup, hothersFree⟩ := List.forall_mem_cons.mp hfree
          obtain ⟨-, hrest⟩ := List.cons_eq_cons.mp hrest
          refine ⟨by rw [hrest]; rfl, List.forall_mem_cons.mpr ⟨?_, hothersFree⟩⟩
          simp [Ne.symm hopen, Ne.symm hclose, hgroup]

/-- Where no number is taken off, nothing is. -/
theorem eq_of_takeNumber_eq_none {cs rest : List Char} (h : takeNumber cs = (none, rest)) :
    rest = cs := by
  rw [takeNumber] at h
  split at h
  · cases h
  · exact (Prod.mk.inj h).2.symm

/-- **What is read as a key is put together from parts**, and the key is that of the parts. -/
theorem exists_parts_of_parse? {text : String} {key : Key} (h : parse? text = some key) :
    ∃ parts : Parts, parts.Proper ∧ parts.text = text.toList ∧ parts.key = key := by
  rw [parse?] at h
  cases hnumber : takeNumber text.toList with
  | mk digits rest =>
    simp only [hnumber, List.span_eq_takeWhile_dropWhile] at h
    split at h
    · cases h
    · next hname =>
      obtain ⟨groups, hgroups, rfl⟩ := Option.map_eq_some_iff.mp h
      obtain ⟨hbrackets, hfree⟩ := takeBrackets_eq_some hgroups
      rw [if_neg Bool.false_ne_true] at hbrackets
      refine ⟨⟨digits, rest.takeWhile isFlag, (rest.dropWhile isFlag).takeWhile isNameChar, groups⟩,
        ⟨?_, fun c hc => List.mem_takeWhile_imp hc, fun hnil => hname (List.isEmpty_iff.mpr hnil),
          fun c hc => List.mem_takeWhile_imp hc, hfree⟩, ?_, rfl⟩
      · rintro ds rfl
        exact (takeNumber_eq_some hnumber).2
      · rw [Parts.text, Parts.unnumbered, ← hbrackets, List.takeWhile_append_dropWhile,
          List.takeWhile_append_dropWhile]
        cases digits with
        | none => exact eq_of_takeNumber_eq_none hnumber
        | some ds => exact (takeNumber_eq_some hnumber).1.symm

/-! ### One way to take a text apart -/

/-- **Parts that have one text are the same**, since each of them ends where the text says. -/
theorem Parts.text_inj {parts parts' : Parts} (h : parts.Proper) (h' : parts'.Proper)
    (htext : parts.text = parts'.text) : parts = parts' := by
  have hnumber : (parts.digits, parts.unnumbered) = (parts'.digits, parts'.unnumbered) := by
    rw [← takeNumber_text h, htext, takeNumber_text h']
  obtain ⟨hdigits, hunnumbered⟩ := Prod.mk.inj hnumber
  have hspan : (parts.flags, parts.name ++ bracketed parts.groups) =
      (parts'.flags, parts'.name ++ bracketed parts'.groups) := by
    rw [← span_unnumbered h, hunnumbered, span_unnumbered h']
  obtain ⟨hflags, hbehind⟩ := Prod.mk.inj hspan
  have hspan : (parts.name, bracketed parts.groups) = (parts'.name, bracketed parts'.groups) := by
    rw [← span_name h, hbehind, span_name h']
  obtain ⟨hname, hbracketed⟩ := Prod.mk.inj hspan
  have hgroups : some parts.groups = some parts'.groups := by
    rw [← takeBrackets_bracketed h.groups, hbracketed, takeBrackets_bracketed h'.groups]
  obtain ⟨digits, flags, name, groups⟩ := parts
  obtain ⟨digits', flags', name', groups'⟩ := parts'
  obtain rfl : digits = digits' := hdigits
  obtain rfl : flags = flags' := hflags
  obtain rfl : name = name' := hname
  obtain rfl : groups = groups' := Option.some.inj hgroups
  rfl

/-- **A text is read as the key of its parts**, if it has any. -/
theorem parse?_eq_some_iff {text : String} {key : Key} :
    parse? text = some key ↔
      ∃ parts : Parts, parts.Proper ∧ parts.text = text.toList ∧ parts.key = key := by
  constructor
  · exact exists_parts_of_parse?
  · rintro ⟨parts, hproper, htext, rfl⟩
    rw [← parse?_text hproper, htext, String.ofList_toList]

/-- A text is accepted if it has parts. -/
theorem isSome_parse?_iff {text : String} :
    (parse? text).isSome = true ↔ ∃ parts : Parts, parts.Proper ∧ parts.text = text.toList := by
  rw [Option.isSome_iff_exists]
  constructor
  · rintro ⟨key, hkey⟩
    obtain ⟨parts, hproper, htext, -⟩ := parse?_eq_some_iff.mp hkey
    exact ⟨parts, hproper, htext⟩
  · rintro ⟨parts, hproper, htext⟩
    exact ⟨parts.key, parse?_eq_some_iff.mpr ⟨parts, hproper, htext, rfl⟩⟩

/-- A text that is accepted has its parts in one way. -/
theorem existsUnique_parts {text : String} (h : (parse? text).isSome = true) :
    ∃! parts : Parts, parts.Proper ∧ parts.text = text.toList := by
  obtain ⟨parts, hproper, htext⟩ := isSome_parse?_iff.mp h
  refine ⟨parts, ⟨hproper, htext⟩, ?_⟩
  rintro parts' ⟨hproper', htext'⟩
  exact Parts.text_inj hproper' hproper (htext'.trans htext.symm)

/-- **The grammar of keys.** A text is accepted if and only if it is put together from parts of the
grammar, and there is one way to do so; it is read as the key of these parts. And every key that can
be written is read back from what is written. -/
theorem parse?_grammar (text : String) :
    ((parse? text).isSome = true ↔ ∃ parts : Parts, parts.Proper ∧ parts.text = text.toList) ∧
      ((parse? text).isSome = true → ∃! parts : Parts, parts.Proper ∧ parts.text = text.toList) ∧
      (∀ key, parse? text = some key ↔
        ∃ parts : Parts, parts.Proper ∧ parts.text = text.toList ∧ parts.key = key) ∧
      ∀ key : Key, key.WellFormed → parse? key.print = some key :=
  ⟨isSome_parse?_iff, existsUnique_parts, fun _ => parse?_eq_some_iff, fun _ => parse?_print⟩

/-- A key with a number in digits of another script, with a line break and a flag between its
brackets. -/
def scripted : Key :=
  { number := none, named := true, negated := true, connective := .and, name := "7<=",
    brackets := ["a\n|", ""] }

/-- The digits only mark the name, and they are not written again. -/
theorem parse?_grammar_scripted :
    parse? "٣٤:!7<=[a\n|][]" = some scripted ∧
      (∃! parts : Parts, parts.Proper ∧ parts.text = "٣٤:!7<=[a\n|][]".toList) ∧
      scripted.WellFormed ∧ scripted.print = ":!7<=[a\n|][]" ∧
      parse? scripted.print = some scripted := by
  have hread : parse? "٣٤:!7<=[a\n|][]" = some scripted := by
    decide +kernel
  have hformed : scripted.WellFormed :=
    ⟨fun h => absurd rfl h, by decide, List.all_eq_true.mp (by decide), by decide⟩
  obtain ⟨-, hunique, -, hprint⟩ := parse?_grammar "٣٤:!7<=[a\n|][]"
  refine ⟨hread, hunique ?_, hformed, by decide +kernel, hprint scripted hformed⟩
  rw [hread]
  rfl

end QueryGate.Key
