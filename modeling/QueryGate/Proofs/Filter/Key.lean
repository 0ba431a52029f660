import Mathlib.Data.List.TakeDrop
import Mathlib.Data.List.TakeWhile
import QueryGate.Filter.Key
import QueryGate.Proofs.Number.Integer

/-!
# Keys that are written

A key that is put together from the parts of the grammar is read as those parts
(`QueryGate.Key.parse?_text`), whatever the parts are: the digits of any script, any run of flags,
any name, and any text without brackets in the brackets. So a key can be written and read back
(`QueryGate.Key.parse?_print`), if its name is one, its brackets hold no brackets and a number,
which marks it as named, comes with the mark.

Digits of any script mark a name as named, but those of ASCII alone make a number, and only if a
word can hold it (`QueryGate.Key.number_eq_some_iff`).
-/

namespace QueryGate

/-- Characters of one kind end where another one begins. -/
theorem span_append {p : Char → Bool} {cs rest : List Char} (h : ∀ c ∈ cs, p c = true)
    (hrest : ∀ c ∈ rest.head?, p c = false) : (cs ++ rest).span p = (cs, rest) := by
  rw [List.span_eq_takeWhile_dropWhile, List.takeWhile_append_of_pos h,
    List.dropWhile_append_of_pos h]
  cases rest with
  | nil => simp
  | cons c rest =>
    have hc : p c = false := hrest c rfl
    simp [hc]

namespace Key

/-! ### The parts of a text -/

/-- **The parts of a key as they stand in its text.** -/
structure Parts where
  /-- The digits before the colon, if there is a number. -/
  digits : Option (List Char)
  /-- The flags. -/
  flags : List Char
  /-- The name. -/
  name : List Char
  /-- What stands between the brackets, pair by pair. -/
  groups : List (List Char)

namespace Parts

/-- **That the parts are what the grammar says.** -/
structure Proper (parts : Parts) : Prop where
  /-- A number has digits, and nothing else. -/
  digits : ∀ ds ∈ parts.digits, ds ≠ [] ∧ ∀ c ∈ ds, CharClass.isDecimalDigit c = true
  /-- Flags are flags. -/
  flags : ∀ c ∈ parts.flags, isFlag c = true
  /-- There is a name. -/
  named : parts.name ≠ []
  /-- The name is made of characters of names. -/
  name : ∀ c ∈ parts.name, isNameChar c = true
  /-- No brackets stand between brackets. -/
  groups : ∀ group ∈ parts.groups, '[' ∉ group ∧ ']' ∉ group

/-- The brackets with what stands between them. -/
def bracketed (groups : List (List Char)) : List Char :=
  groups.flatMap fun group => '[' :: (group ++ [']'])

/-- The text of a key without its number. -/
def unnumbered (parts : Parts) : List Char := parts.flags ++ (parts.name ++ bracketed parts.groups)

/-- **The text of a key.** -/
def text (parts : Parts) : List Char :=
  match parts.digits with
  | none => parts.unnumbered
  | some digits => digits ++ ':' :: parts.unnumbered

/-- **The key that parts are those of.** -/
def key (parts : Parts) : Key :=
  { number := parts.digits.bind numberOf?
    named := parts.digits.isSome || parts.flags.contains ':'
    negated := parts.flags.contains '!'
    connective := if parts.flags.contains '|' then .or else .and
    name := String.ofList parts.name
    brackets := parts.groups.map String.ofList }

end Parts

/-! ### Reading a text -/

/-- What stands between brackets ends at the closing one. -/
theorem takeBrackets_append_cons {group : List Char} (h : '[' ∉ group ∧ ']' ∉ group)
    (rest : List Char) :
    takeBrackets true (group ++ ']' :: rest) = (takeBrackets false rest).map (group :: ·) := by
  induction group with
  | nil => rfl
  | cons c group ih =>
    obtain ⟨hopen, hopens⟩ := List.ne_and_not_mem_of_not_mem_cons h.1
    obtain ⟨hclose, hcloses⟩ := List.ne_and_not_mem_of_not_mem_cons h.2
    rw [List.cons_append, takeBrackets, if_pos rfl, if_neg (Ne.symm hclose), if_neg (Ne.symm hopen),
      ih ⟨hopens, hcloses⟩, Option.map_map]
    rfl

/-- **Brackets are read one by one.** -/
theorem takeBrackets_bracketed {groups : List (List Char)}
    (h : ∀ group ∈ groups, '[' ∉ group ∧ ']' ∉ group) :
    takeBrackets false (Parts.bracketed groups) = some groups := by
  induction groups with
  | nil => rfl
  | cons group groups ih =>
    obtain ⟨hgroup, hgroups⟩ := List.forall_mem_cons.mp h
    have hcons : Parts.bracketed (group :: groups) =
        '[' :: (group ++ ']' :: Parts.bracketed groups) := by
      simp [Parts.bracketed]
    rw [hcons, takeBrackets, if_neg Bool.false_ne_true, if_pos rfl,
      takeBrackets_append_cons hgroup, ih hgroups, Option.map_some]

/-- Brackets begin with a bracket, if there are any. -/
theorem head?_bracketed {groups : List (List Char)} {c : Char}
    (h : c ∈ (Parts.bracketed groups).head?) : c = '[' := by
  cases groups with
  | nil => cases h
  | cons group groups => exact (Option.some.inj h).symm

/-- Where no digits stand at the front, or no colon follows them, there is no number. -/
theorem takeNumber_eq_none {cs : List Char}
    (h : cs.takeWhile CharClass.isDecimalDigit = [] ∨
      ∀ rest, cs.dropWhile CharClass.isDecimalDigit ≠ ':' :: rest) :
    takeNumber cs = (none, cs) := by
  rw [takeNumber, List.span_eq_takeWhile_dropWhile]
  split
  · next heq =>
    obtain ⟨htake, hdrop⟩ := Prod.mk.inj heq
    rcases h with h | h
    · exact absurd (h.symm.trans htake) (List.cons_ne_nil _ _).symm
    · exact absurd hdrop (h _)
  · rfl

/-- A flag is no digit, and no character of a name. -/
theorem not_isFlag {c : Char} (h : isFlag c = true) :
    CharClass.isDecimalDigit c = false ∧ isNameChar c = false := by
  have hflag : c ∈ [':', '!', '|'] := by
    simpa [isFlag, or_assoc] using h
  have hall : ∀ c ∈ [':', '!', '|'],
      CharClass.isDecimalDigit c = false ∧ isNameChar c = false := by
    rw [List.forall_mem_cons, List.forall_mem_cons, List.forall_mem_singleton]
    decide
  exact hall c hflag

/-- No colon follows the digits at the front of a name. -/
theorem dropWhile_append_ne_cons {name brackets : List Char} (hname : ':' ∉ name)
    (hbrackets : ∀ c ∈ brackets.head?, c = '[') (rest : List Char) :
    (name ++ brackets).dropWhile CharClass.isDecimalDigit ≠ ':' :: rest := by
  -- either the name has a character that is no digit, or what follows it begins with a bracket
  induction name with
  | nil =>
    cases brackets with
    | nil => simp
    | cons c brackets =>
      obtain rfl : c = '[' := hbrackets c rfl
      have hdigit : CharClass.isDecimalDigit '[' = false := by
        decide
      simp [hdigit]
  | cons c name ih =>
    obtain ⟨hc, hname⟩ := List.ne_and_not_mem_of_not_mem_cons hname
    rw [List.cons_append]
    cases hdigit : CharClass.isDecimalDigit c with
    | true => simpa [hdigit] using ih hname
    | false =>
      rw [List.dropWhile_cons_of_neg (by simp [hdigit])]
      exact fun heq => hc (List.cons_eq_cons.mp heq).1.symm

/-- A number is taken off. -/
theorem takeNumber_append_cons {digits : List Char} (hne : digits ≠ [])
    (h : ∀ c ∈ digits, CharClass.isDecimalDigit c = true) (rest : List Char) :
    takeNumber (digits ++ ':' :: rest) = (some digits, rest) := by
  have hspan : (digits ++ ':' :: rest).span CharClass.isDecimalDigit = (digits, ':' :: rest) := by
    refine span_append h fun c hc => ?_
    obtain rfl := Option.some.inj hc
    decide
  rw [takeNumber, hspan]
  cases digits with
  | nil => exact absurd rfl hne
  | cons => rfl

/-- **What a number that is taken off is**: the digits before the first colon. -/
theorem takeNumber_eq_some {cs digits rest : List Char}
    (h : takeNumber cs = (some digits, rest)) :
    cs = digits ++ ':' :: rest ∧ digits ≠ [] ∧
      ∀ c ∈ digits, CharClass.isDecimalDigit c = true := by
  rw [takeNumber, List.span_eq_takeWhile_dropWhile] at h
  split at h
  · next digit others behind hspan =>
    obtain ⟨htake, hdrop⟩ := Prod.mk.inj hspan
    obtain ⟨hdigits, rfl⟩ := Prod.mk.inj h
    obtain rfl := Option.some.inj hdigits
    refine ⟨?_, List.cons_ne_nil _ _, fun c hc => ?_⟩
    · rw [← htake, ← hdrop, List.takeWhile_append_dropWhile]
    · exact List.mem_takeWhile_imp (htake ▸ hc)
  · cases h

namespace Parts

variable {parts : Parts}

/-- **The number is taken off**, if there is one. -/
theorem takeNumber_text (h : parts.Proper) :
    takeNumber parts.text = (parts.digits, parts.unnumbered) := by
  rw [text]
  cases hdigits : parts.digits with
  | some digits =>
    obtain ⟨hne, hall⟩ := h.digits digits (hdigits ▸ rfl)
    exact takeNumber_append_cons hne hall _
  | none =>
    have hname : ':' ∉ parts.name := by
      intro hmem
      exact absurd (h.name ':' hmem) (by decide)
    refine takeNumber_eq_none ?_
    rw [unnumbered]
    cases hflags : parts.flags with
    | nil =>
      rw [List.nil_append]
      exact Or.inr (dropWhile_append_ne_cons hname fun c => head?_bracketed)
    | cons flag flags =>
      have hflag : isFlag flag = true := h.flags flag (hflags ▸ List.mem_cons_self)
      exact Or.inl (List.takeWhile_cons_of_neg (by simp [(not_isFlag hflag).1]))

/-- Behind the number the flags end where the name begins. -/
theorem span_unnumbered (h : parts.Proper) :
    parts.unnumbered.span isFlag = (parts.flags, parts.name ++ bracketed parts.groups) := by
  refine span_append h.flags fun c hc => ?_
  cases hchars : parts.name with
  | nil => exact absurd hchars h.named
  | cons d name =>
    rw [hchars] at hc
    obtain rfl : d = c := Option.some.inj hc
    have hd : isNameChar d = true := h.name d (hchars ▸ List.mem_cons_self)
    cases hflag : isFlag d with
    | false => rfl
    | true => exact absurd hd (by simp [(not_isFlag hflag).2])

/-- The name ends where the brackets begin. -/
theorem span_name (h : parts.Proper) :
    (parts.name ++ bracketed parts.groups).span isNameChar =
      (parts.name, bracketed parts.groups) := by
  refine span_append h.name fun c hc => ?_
  obtain rfl := head?_bracketed hc
  decide

end Parts

/-- **The text of a key is read as the key.** -/
theorem parse?_text {parts : Parts} (h : parts.Proper) :
    parse? (String.ofList parts.text) = some parts.key := by
  have hnamed : parts.name.isEmpty = false := by
    rw [List.isEmpty_eq_false_iff]
    exact h.named
  rw [parse?, String.toList_ofList, Parts.takeNumber_text h]
  simp only [Parts.span_unnumbered h, Parts.span_name h, hnamed, takeBrackets_bracketed h.groups]
  rfl

/-! ### Numbers -/

/-- The range of unsigned words holds every word. -/
theorem holds_unsigned (n : UInt64) : (IntegerRange.unsigned 64).Holds n.toNat := by
  have hgreatest : (IntegerRange.unsigned 64).greatest = 18446744073709551615 := by
    decide
  have hlt := n.toNat_lt
  refine ⟨Int.natCast_nonneg _, ?_⟩
  rw [hgreatest]
  omega

/-- A number is made by what is read as that number. -/
theorem numberOf?_eq_some_iff {digits : List Char} {n : UInt64} :
    numberOf? digits = some n ↔ (IntegerRange.unsigned 64).read digits = .ok n.toNat := by
  have hgreatest : (IntegerRange.unsigned 64).greatest = 18446744073709551615 := by
    decide
  rw [numberOf?]
  constructor
  · intro h
    split at h
    · next m hread =>
      obtain ⟨hleast, hle⟩ := IntegerRange.holds_of_read (by decide) hread
      rw [hgreatest] at hle
      have hnonneg : 0 ≤ m := hleast
      have hlt : m.toNat < UInt64.size := (Int.toNat_lt hnonneg).mpr (Int.lt_add_one_of_le hle)
      obtain rfl := Option.some.inj h
      rw [hread, UInt64.toNat_ofNat_of_lt' hlt, Int.toNat_of_nonneg hnonneg]
    · cases h
  · intro h
    simp [h]

/-- Digits of any script make a number if they are digits of ASCII and their value can be held. -/
theorem numberOf?_eq_some_iff_value {digits : List Char} (hne : digits ≠ [])
    (h : ∀ c ∈ digits, CharClass.isDecimalDigit c = true) {n : UInt64} :
    numberOf? digits = some n ↔
      (∀ c ∈ digits, c.isDigit = true) ∧ Decimal.value digits = n.toNat := by
  obtain ⟨c, cs, rfl⟩ := List.exists_cons_of_ne_nil hne
  -- a sign is no digit of any script
  have hsign : c ≠ '+' ∧ c ≠ '-' := by
    have hc : CharClass.isDecimalDigit c = true := h c List.mem_cons_self
    constructor <;> rintro rfl <;> exact absurd hc (by decide)
  rw [numberOf?_eq_some_iff, IntegerRange.read_eq_ok_iff (by decide),
    Decimal.spells_cons_iff hsign.1 hsign.2, Int.natCast_inj, eq_comm (a := n.toNat)]
  simp [holds_unsigned, hsign.2]

/-- The digits of a number are read as that number. -/
theorem numberOf?_digits (n : UInt64) : numberOf? (Decimal.digits n.toNat) = some n :=
  numberOf?_eq_some_iff.mpr (IntegerRange.read_digits (by decide) (holds_unsigned n).2)

/-- The digits of ASCII are among those of every script. -/
theorem isDecimalDigit_of_isDigit {c : Char} (h : c.isDigit = true) :
    CharClass.isDecimalDigit c = true := by
  have hrange : 0x30 ≤ c.toNat ∧ c.toNat ≤ 0x39 := by
    simp only [Char.isDigit, Bool.and_eq_true, decide_eq_true_eq] at h
    exact ⟨UInt32.le_iff_toNat_le.mp h.1, UInt32.le_iff_toNat_le.mp h.2⟩
  exact List.any_eq_true.mpr ⟨(0x30, 0x39), List.mem_cons_self, by simpa using hrange⟩

/-- **That a text begins with a number**: digits of ASCII with that value, and a colon. -/
def Numbered (text : String) (n : UInt64) : Prop :=
  ∃ digits rest, text.toList = digits ++ ':' :: rest ∧ digits ≠ [] ∧
    (∀ c ∈ digits, c.isDigit = true) ∧ Decimal.value digits = n.toNat

/-- The number of a key is made of the digits that are taken off its text. -/
theorem number_of_parse? {text : String} {key : Key} (h : parse? text = some key) :
    key.number = (takeNumber text.toList).1.bind numberOf? := by
  rw [parse?] at h
  simp only at h
  split at h
  · cases h
  · obtain ⟨groups, -, rfl⟩ := Option.map_eq_some_iff.mp h
    rfl

/-- **The number of a key is the number that its text begins with**, if it begins with one that an
unsigned word of 64 bits can hold. -/
theorem number_eq_some_iff {text : String} {key : Key} (h : parse? text = some key) {n : UInt64} :
    key.number = some n ↔ Numbered text n := by
  rw [number_of_parse? h]
  constructor
  · intro hnumber
    obtain ⟨digits, hdigits, hvalue⟩ := Option.bind_eq_some_iff.mp hnumber
    obtain ⟨htext, hne, hall⟩ :=
      takeNumber_eq_some (Prod.ext_iff.mpr ⟨hdigits, rfl⟩ : takeNumber text.toList = (_, _))
    exact ⟨digits, _, htext, hne, (numberOf?_eq_some_iff_value hne hall).mp hvalue⟩
  · rintro ⟨digits, rest, htext, hne, hascii, hvalue⟩
    have hall : ∀ c ∈ digits, CharClass.isDecimalDigit c = true := fun c hc =>
      isDecimalDigit_of_isDigit (hascii c hc)
    rw [htext, takeNumber_append_cons hne hall]
    exact (numberOf?_eq_some_iff_value hne hall).mpr ⟨hascii, hvalue⟩

/-! ### Writing a key -/

/-- **That a key can be written.** -/
structure WellFormed (key : Key) : Prop where
  /-- A number marks the name as that of a directive. -/
  named : key.number ≠ none → key.named = true
  /-- There is a name. -/
  nonempty : key.name ≠ ""
  /-- The name is made of characters of names. -/
  name : ∀ c ∈ key.name.toList, isNameChar c = true
  /-- No brackets stand between brackets. -/
  brackets : ∀ group ∈ key.brackets, '[' ∉ group.toList ∧ ']' ∉ group.toList

/-- The parts of a key: its number in ASCII digits, or a colon instead if the name is named without
one, and then the other flags. -/
def parts (key : Key) : Parts :=
  { digits := key.number.map fun n => Decimal.digits n.toNat
    flags :=
      (if key.named && key.number.isNone then [':'] else []) ++
        (if key.negated then ['!'] else []) ++ (if key.connective = .or then ['|'] else [])
    name := key.name.toList
    groups := key.brackets.map String.toList }

/-- **The text of a key**, as it is written. -/
def print (key : Key) : String := String.ofList key.parts.text

/-- The parts of a key that can be written are what the grammar says. -/
theorem WellFormed.proper {key : Key} (h : key.WellFormed) : key.parts.Proper where
  digits := by
    intro ds hds
    obtain ⟨n, -, rfl⟩ := Option.map_eq_some_iff.mp hds
    refine ⟨Decimal.digits_ne_nil _, fun c hc => ?_⟩
    exact isDecimalDigit_of_isDigit (Decimal.isDigit_of_mem_digits hc)
  flags := by
    have hflag : ∀ (b : Bool) (flag : Char), isFlag flag = true →
        ∀ c ∈ if b then [flag] else [], isFlag c = true := by
      rintro (_ | _) flag hflag <;> simp [hflag]
    refine List.forall_mem_append.mpr ⟨List.forall_mem_append.mpr ⟨?_, ?_⟩, ?_⟩
    · exact hflag _ ':' (by decide)
    · exact hflag _ '!' (by decide)
    · simpa using hflag (key.connective = .or) '|' (by decide)
  named := fun hnil => h.nonempty (String.toList_eq_nil_iff.mp hnil)
  name := h.name
  groups := List.forall_mem_map.mpr h.brackets

/-- The parts of a key are those of that key. -/
theorem key_parts {key : Key} (h : key.WellFormed) : key.parts.key = key := by
  have hnamed := h.named
  obtain ⟨number, named, negated, connective, name, brackets⟩ := key
  have hnumber : (number.map fun n => Decimal.digits n.toNat).bind numberOf? = number := by
    cases number with
    | none => rfl
    | some n => exact numberOf?_digits n
  have hbrackets : (brackets.map String.toList).map String.ofList = brackets := by
    simp
  simp only [parts, Parts.key, hnumber, hbrackets, String.ofList_toList]
  cases number <;> cases named <;> cases negated <;> cases connective <;> simp_all

/-- **A key that is written is read back.** -/
theorem parse?_print {key : Key} (h : key.WellFormed) : parse? key.print = some key := by
  rw [print, parse?_text h.proper, key_parts h]

end Key

end QueryGate
