import QueryGate.Proofs.Calendar.Canonical
import QueryGate.Proofs.Schema.Kind

/-!
# Fields of moments

A field of moments keeps a text in the form that its pattern gives it. For a date and a time of day
to the second, with a fraction of the second or without, the form is canonical
(`QueryGate.Field.parse_moment`): what is kept is the text of the moment that was spelt, so all
spellings of one moment are kept as one text and nothing of a spelling is left in it, and the field
keeps that text as it is.

The text has digits, signs and the marks of the pattern, but no quote, so it stands in a statement
as it is.

## What the pattern has to do with it

Both patterns are legible and complete, and by that alone what is written is read again
(`QueryGate.Calendar.read_of_write?`). A pattern without a date would not be complete. A year with a
month right behind it would not be legible, since the digits of the month could be read as more
digits of the year; here a mark stands between the two, as between all numbers.
-/

namespace QueryGate

namespace Calendar

/-- The parts of a date and a time of day to the second. -/
def stampParts : List Part :=
  [zeros .year, .literal ['-'], zeros .month, .literal ['-'], zeros .day, .blanks [' '],
    zeros .hour, .literal [':'], zeros .minute, .literal [':'], zeros .second]

/-- **That parts are those of a date and a time of day**, without a fraction of a second or with
one. -/
def IsStamp (parts : List Part) : Prop := parts = stampParts ∨ parts = stampParts ++ [.fraction]

/-- The patterns of a date and a time of day. -/
theorem isStamp_parts {pattern : String}
    (h : pattern = "%Y-%m-%d %H:%M:%S" ∨ pattern = "%Y-%m-%d %H:%M:%S%.f") :
    IsStamp (parts pattern.toList) := by
  rcases h with rfl | rfl
  · exact Or.inl (by decide +kernel)
  · exact Or.inr (by decide +kernel)

/-- A date and a time of day are legible before anything else that is. -/
theorem legible_stamp {further : List Part} (h : Legible further) :
    Legible (stampParts ++ further) := by
  have hminute : Legible (zeros .minute :: .literal [':'] :: zeros .second :: further) :=
    .two (by decide) (.literal [':'] (.two (by decide) h))
  have htime : Legible (zeros .hour :: .literal [':'] :: zeros .minute :: .literal [':'] ::
      zeros .second :: further) :=
    .two (by decide) (.literal [':'] hminute)
  exact .year rfl (.literal ['-'] (.two (by decide) (.literal ['-'] (.two (by decide)
    (.blanks (List.forall_mem_singleton.mpr (by decide)) htime)))))

namespace IsStamp

variable {parts : List Part} (h : IsStamp parts)
include h

/-- What was written by a date and a time of day can be read part by part. -/
theorem legible : Legible parts := by
  rcases h with rfl | rfl
  · exact legible_stamp .nil
  · exact legible_stamp .fraction

/-- A date and a time of day are a moment. -/
theorem complete : Complete parts := by
  rcases h with rfl | rfl
  · exact ⟨by decide, by decide, Or.inr (by decide)⟩
  · exact ⟨by decide, by decide, Or.inl (by decide)⟩

/-- Every moment can be written as a date and a time of day. -/
theorem writable : ∀ part ∈ parts, part.isWritable = true := by
  rcases h with rfl | rfl <;> decide

/-- **The characters of a date and a time of day.** -/
theorem of_mem {m : Moment} {text : List Char} (hwrite : write? m parts = some text) {c : Char}
    (hc : c ∈ text) : c.isDigit = true ∨ c ∈ ['-', '+', ':', '.', ' '] := by
  have hnumeric : ∀ part ∈ parts, part.isNumeric = true := by
    rcases h with rfl | rfl <;> decide
  have hmarks : parts.flatMap Part.characters ⊆ ['-', '+', ':', '.', ' '] := by
    rcases h with rfl | rfl <;> decide
  rcases of_mem_write? hnumeric hwrite hc with (hdigit | rfl | rfl) | hmark
  · exact Or.inl hdigit
  · exact Or.inr (by decide)
  · exact Or.inr (by decide)
  · exact Or.inr (hmarks hmark)

end IsStamp

end Calendar

/-! ### Literals -/

namespace Scalar

/-- What has no quotes has none to double. -/
theorem doubled_eq_self {cs : List Char} (h : '\x27' ∉ cs) : doubled cs = cs := by
  induction cs with
  | nil => rfl
  | cons c cs ih =>
    obtain ⟨hc, hcs⟩ := List.ne_and_not_mem_of_not_mem_cons h
    have hdoubled : doubled (c :: cs) = c :: doubled cs := by
      simp [doubled, Ne.symm hc]
    rw [hdoubled, ih hcs]

/-- A text without quotes stands in its literal as it is. -/
theorem literal_text {t : String} (h : '\x27' ∉ t.toList) :
    (text t).literal = "'" ++ t ++ "'" := by
  rw [literal, doubled_eq_self h, String.ofList_toList]

end Scalar

/-! ### Fields -/

namespace Field

variable {pattern : String}

/-- A field of moments keeps canonical texts. -/
theorem parse_moment_eq_ok_iff {name raw : String} {s : Scalar} :
    (moment pattern name).parse raw = .ok s ↔
      ∃ t, Calendar.canonical pattern raw = .ok t ∧ .text t = s := by
  simp only [parse, moment]
  cases Calendar.canonical pattern raw <;> simp

/-- **A field that a constructor made** does not end the run, unless it is a field of moments whose
pattern speaks of a time zone. -/
theorem Kind.parse_ne_abandoned (kind : Kind)
    (h : ∀ pattern, kind = .moment pattern →
      ∀ part ∈ Calendar.parts pattern.toList, part.isWritable = true) (name raw : String) :
    (kind.field name).parse raw ≠ .error .abandoned := by
  have hverdict : ∀ {ε : Type} {fault : ε → ValueFault} {read : Except ε Scalar},
      verdict fault raw read ≠ .error .abandoned := by
    intro ε fault read
    cases read <;> simp [verdict]
  cases kind with
  | text => simp [parse, field, Field.text]
  | signed width | unsigned width | single | double => exact hverdict
  | truth =>
    simp only [parse, field, Field.truth]
    split <;> simp
  | moment pattern =>
    have hcanonical := Calendar.canonical_ne_abandoned (h pattern rfl) raw
    simp only [parse, field, Field.moment]
    cases hread : Calendar.canonical pattern raw with
    | ok text => simp
    | error stop =>
      rw [hread] at hcanonical
      simpa using hcanonical

/-- **What a field of moments makes of a text**: the one text of the moment that is spelt. It never
ends the run. -/
theorem parse_moment
    (hpattern : pattern = "%Y-%m-%d %H:%M:%S" ∨ pattern = "%Y-%m-%d %H:%M:%S%.f")
    (name : String) {raw : String} {s : Scalar} (h : (moment pattern name).parse raw = .ok s) :
    ∃ t m, s = .text t ∧
      (∀ c ∈ t.toList, c.isDigit = true ∨ c ∈ ['-', '+', ':', '.', ' ']) ∧
      s.literal = "'" ++ t ++ "'" ∧
      (moment pattern name).parse t = .ok s ∧
      Calendar.read (Calendar.parts pattern.toList) raw = .ok m ∧
      Calendar.write? m (Calendar.parts pattern.toList) = some t.toList ∧
      (∀ other, (moment pattern name).parse other = .ok s ↔
        Calendar.read (Calendar.parts pattern.toList) other = .ok m) ∧
      ∀ other, (moment pattern name).parse other ≠ .error .abandoned := by
  have hstamp := Calendar.isStamp_parts hpattern
  obtain ⟨t, ht, rfl⟩ := parse_moment_eq_ok_iff.mp h
  obtain ⟨m, hread, hwrite⟩ := Calendar.canonical_eq_ok_iff.mp ht
  have hcharacters : ∀ c ∈ t.toList, c.isDigit = true ∨ c ∈ ['-', '+', ':', '.', ' '] :=
    fun c => hstamp.of_mem hwrite
  have hquote : '\x27' ∉ t.toList := fun hmem => absurd (hcharacters _ hmem) (by decide)
  have hagain := Calendar.canonical_canonical hstamp.legible hstamp.complete ht
  have hsame : ∀ other, (moment pattern name).parse other = .ok (.text t) ↔
      Calendar.read (Calendar.parts pattern.toList) other = .ok m := by
    intro other
    rw [← Calendar.canonical_eq_iff_read hstamp.legible hstamp.complete ht hread other,
      parse_moment_eq_ok_iff]
    constructor
    · rintro ⟨t', hother, htext⟩
      rwa [← Scalar.text.inj htext]
    · intro hother
      exact ⟨t, hother, rfl⟩
  have hruns : ∀ other, (moment pattern name).parse other ≠ .error .abandoned :=
    Kind.parse_ne_abandoned (.moment pattern) (fun _ h => Kind.moment.inj h ▸ hstamp.writable) name
  exact ⟨t, m, rfl, hcharacters, Scalar.literal_text hquote,
    parse_moment_eq_ok_iff.mpr ⟨t, hagain, rfl⟩, hread, hwrite, hsame, hruns⟩

/-- A leap second with a fraction, in another spelling and in its own. -/
theorem parse_moment_leap :
    (moment "%Y-%m-%d %H:%M:%S%.f" "at").parse "2016-12-31 23:59:60.25" =
      .ok (.text "2016-12-31 23:59:60.250") ∧
    (moment "%Y-%m-%d %H:%M:%S%.f" "at").parse "2016-12-31 23:59:60.250" =
      .ok (.text "2016-12-31 23:59:60.250") := by
  have hcanonical :
      (Calendar.canonical "%Y-%m-%d %H:%M:%S%.f" "2016-12-31 23:59:60.25").toOption =
        some "2016-12-31 23:59:60.250" := by
    decide +kernel
  have h : (moment "%Y-%m-%d %H:%M:%S%.f" "at").parse "2016-12-31 23:59:60.25" =
      .ok (.text "2016-12-31 23:59:60.250") := by
    cases ht : Calendar.canonical "%Y-%m-%d %H:%M:%S%.f" "2016-12-31 23:59:60.25" with
    | error fault =>
      rw [ht] at hcanonical
      cases hcanonical
    | ok t =>
      rw [ht] at hcanonical
      obtain rfl := Option.some.inj hcanonical
      exact parse_moment_eq_ok_iff.mpr ⟨_, ht, rfl⟩
  obtain ⟨t, m, ht, -, -, hagain, -⟩ := parse_moment (Or.inr rfl) "at" h
  obtain rfl := Scalar.text.inj ht
  exact ⟨h, hagain⟩

end Field

end QueryGate
