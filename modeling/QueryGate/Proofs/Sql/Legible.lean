import Mathlib.Data.List.Forall2
import QueryGate.Proofs.Sql.Phrase

/-!
# Chains that can be read again

The text of a chain says which conditions it was written from. That a condition is *legible* means
that it can be written, that its field is made of letters, digits and underscores, and that its
values are spelt out (`QueryGate.Condition.Legible`). Two lists of legible conditions have the same
chain if and only if they agree condition by condition, and from the second one on also on the
connectives (`QueryGate.Statement.chain?_eq_iff`), whatever the texts among the values imitate. What
does not show in a chain is whether an equality is that of a group, whether an integer is signed,
and the operand of a condition that asks for absence (`QueryGate.Condition.Alike`).

## What carries the proof

A text is read as tokens in one way and tokens are cut into phrases in one way, so two texts that
are equal have the same phrases. A condition is made of its field, a verb, and an object which
depends on the operator; a condition that is denied from outside has a `NOT` before and a
parenthesis behind all that (`QueryGate.Condition.phrases?`). The last phrase takes the parenthesis
that closes the condition in its chain. So the phrases say where a condition ends, and what follows
it can be compared separately (`QueryGate.Condition.alike_of_phrases?_append`).
-/

namespace QueryGate

/-! ### Verbs -/

namespace Operator

/-- The operator that is seen in a text: a group is written as an equality. -/
def shown : Operator → Operator
  | .group => .equal
  | operator => operator

/-- Whether a condition is denied from outside. -/
def isWrapped : Operator → Bool
  | .equal | .group | .isNull => false
  | _ => true

/-- Whether a field is compared with one scalar. -/
def takesOne : Operator → Bool
  | .isNull | .between | .oneOf => false
  | _ => true

/-- **The word that follows the field.** -/
def verb (negated : Bool) : Operator → String
  | .equal | .group => if negated then "<>" else "="
  | .isNull => "IS"
  | .between => "BETWEEN"
  | .oneOf => "IN"
  | .like => "LIKE"
  | .less => "<"
  | .lessOrEqual => "<="
  | .greater => ">"
  | .greaterOrEqual => ">="

/-- The operator that a verb stands for. -/
def ofVerb? : String → Option Operator
  | "=" | "<>" => some .equal
  | "IS" => some .isNull
  | "BETWEEN" => some .between
  | "IN" => some .oneOf
  | "LIKE" => some .like
  | "<" => some .less
  | "<=" => some .lessOrEqual
  | ">" => some .greater
  | ">=" => some .greaterOrEqual
  | _ => none

/-- The operator can be told from the verb. -/
theorem ofVerb?_verb (negated : Bool) (operator : Operator) :
    ofVerb? (operator.verb negated) = some operator.shown := by
  cases negated <;> cases operator <;> rfl

/-- **Verbs are known by their words**: the operator, and of an equality whether it is denied. -/
theorem shown_eq_of_verb_eq {negated negated' : Bool} {operator operator' : Operator}
    (h : operator.verb negated = operator'.verb negated') :
    operator.shown = operator'.shown ∧ (operator.shown = .equal → negated = negated') := by
  have hshown : operator.shown = operator'.shown := by
    have hverb := congrArg ofVerb? h
    rw [ofVerb?_verb, ofVerb?_verb] at hverb
    exact Option.some.inj hverb
  have hequal : ∀ (operator : Operator) (negated : Bool), operator.shown = .equal →
      operator.verb negated = if negated then "<>" else "=" := by
    rintro (_ | _ | _ | _ | _ | _ | _ | _ | _ | _) negated heq <;> first | rfl | cases heq
  refine ⟨hshown, fun heq => ?_⟩
  rw [hequal operator _ heq, hequal operator' _ (hshown ▸ heq)] at h
  cases negated <;> cases negated' <;> first | rfl | exact absurd h (by decide)

/-- Operators that look the same are alike in whatever a group shares with an equality. -/
theorem eq_of_shown_eq {α : Type} {f : Operator → α} (hf : f .group = f .equal)
    {operator operator' : Operator} (h : operator.shown = operator'.shown) :
    f operator = f operator' := by
  have hshown : ∀ operator : Operator, f operator.shown = f operator := by
    rintro (_ | _ | _ | _ | _ | _ | _ | _ | _ | _) <;> first | rfl | exact hf.symm
  rw [← hshown operator, h, hshown operator']

/-- Verbs have no marks in them. -/
theorem clear_verb (negated : Bool) (operator : Operator) :
    Phrase.Clear (operator.verb negated).toList := by
  cases negated <;> cases operator <;> decide

end Operator

/-! ### Conditions in phrases -/

namespace Phrase

/-- The phrases of alternatives, the last of which ends with a parenthesis. -/
def listed : List Scalar → List Phrase
  | [] => []
  | [s] => [value s ')']
  | s :: t :: rest => value s ',' :: word "" ' ' :: listed (t :: rest)

/-- **The phrases of what follows the verb**, if the operand fits the operator. -/
def object? (negated : Bool) : Operator → Operand → Option (List Phrase)
  | .isNull, _ => some (if negated then [word "NOT" ' ', word "NULL" ')'] else [word "NULL" ')'])
  | .between, .many [low, high] => some [value low ' ', word "AND" ' ', value high ')']
  | .oneOf, .many (item :: items) =>
    some (word "" '(' :: (listed (item :: items) ++ [word "" ')']))
  | operator, .single s => if operator.takesOne then some [value s ')'] else none
  | _, _ => none

/-- What closes a denial, if there is one. -/
def closing (denied : Bool) : List Phrase := if denied then [word "" ')'] else []

/-- Phrases with a denial around them, if there is one. -/
def wrapped (denied : Bool) (phrases : List Phrase) : List Phrase :=
  if denied then word "NOT" '(' :: (phrases ++ closing denied) else phrases

/-- **The forms of an object**, by the operator and its operand. -/
inductive Object (negated : Bool) : Operator → Operand → List Phrase → Prop
  /-- The absence of a value. -/
  | absence (operand : Operand) :
      Object negated .isNull operand
        (if negated then [word "NOT" ' ', word "NULL" ')'] else [word "NULL" ')'])
  /-- The bounds of a range. -/
  | bounds (low high : Scalar) :
      Object negated .between (.many [low, high]) [value low ' ', word "AND" ' ', value high ')']
  /-- Alternatives. -/
  | alternatives (item : Scalar) (items : List Scalar) :
      Object negated .oneOf (.many (item :: items))
        (word "" '(' :: (listed (item :: items) ++ [word "" ')']))
  /-- One scalar. -/
  | one {operator : Operator} (h : operator.takesOne = true) (s : Scalar) :
      Object negated operator (.single s) [value s ')']

/-- What follows the verb has one of these forms. -/
theorem object_of_object? {negated : Bool} {operator : Operator} {operand : Operand}
    {object : List Phrase} (h : object? negated operator operand = some object) :
    Object negated operator operand object := by
  rw [object?.eq_def] at h
  split at h
  · obtain rfl := Option.some.inj h
    exact .absence _
  · obtain rfl := Option.some.inj h
    exact .bounds _ _
  · obtain rfl := Option.some.inj h
    exact .alternatives _ _
  · split at h
    · next hone =>
      obtain rfl := Option.some.inj h
      exact .one hone _
    · cases h
  · cases h

/-- The phrases of an object end where they say, if those of its values do. -/
theorem proper_object {negated : Bool} {operator : Operator} {operand : Operand}
    {object : List Phrase} (hobject : Object negated operator operand object)
    (hvalue : operator ≠ .isNull → ∀ s ∈ operand.scalars, ∀ mark ∈ marks, (value s mark).Proper) :
    ∀ phrase ∈ object, phrase.Proper := by
  have hlisted : ∀ items : List Scalar,
      (∀ s ∈ items, ∀ mark ∈ marks, (value s mark).Proper) →
        ∀ phrase ∈ listed items, phrase.Proper := by
    intro items hitems
    induction items using listed.induct with
    | case1 => simp [listed]
    | case2 s => simpa [listed] using hitems s List.mem_cons_self ')' (by decide)
    | case3 s t rest ih =>
      obtain ⟨hs, hrest⟩ := List.forall_mem_cons.mp hitems
      refine List.forall_mem_cons.mpr ⟨hs ',' (by decide), ?_⟩
      exact List.forall_mem_cons.mpr ⟨by decide, ih hrest⟩
  cases hobject with
  | absence operand => cases negated <;> decide
  | bounds low high =>
    have hbounds := hvalue (by decide)
    simp only [Operand.scalars, List.forall_mem_cons] at hbounds
    refine List.forall_mem_cons.mpr ⟨hbounds.1 ' ' (by decide), ?_⟩
    refine List.forall_mem_cons.mpr ⟨by decide, List.forall_mem_singleton.mpr ?_⟩
    exact hbounds.2.1 ')' (by decide)
  | alternatives item items =>
    refine List.forall_mem_cons.mpr ⟨by decide, List.forall_mem_append.mpr ?_⟩
    exact ⟨hlisted _ (hvalue (by decide)), List.forall_mem_singleton.mpr (by decide)⟩
  | one hone s =>
    refine List.forall_mem_singleton.mpr (hvalue ?_ s List.mem_cons_self ')' (by decide))
    rintro rfl
    cases hone

/-- **Alternatives end where they end**: they are known by their phrases, and so is what follows. -/
theorem listed_append_inj {items items' : List Scalar} (hspelt : ∀ s ∈ items, s.Spelt)
    (hspelt' : ∀ s ∈ items', s.Spelt) (hne : items ≠ []) (hne' : items' ≠ [])
    {rest rest' : List Phrase} (h : listed items ++ rest = listed items' ++ rest') :
    items.map Scalar.normalized = items'.map Scalar.normalized ∧ rest = rest' := by
  -- an item that is followed by a comma is not the last one
  induction items using listed.induct generalizing items' with
  | case1 => exact absurd rfl hne
  | case2 s =>
    match items', hne' with
    | t :: further, _ =>
      obtain ⟨hs, -⟩ := List.forall_mem_cons.mp hspelt
      obtain ⟨ht, -⟩ := List.forall_mem_cons.mp hspelt'
      cases further with
      | nil =>
        obtain ⟨hvalue, hrest⟩ := List.cons_eq_cons.mp h
        exact ⟨congrArg ([·]) (normalized_eq_of_value_eq hs ht hvalue).1, hrest⟩
      | cons u further =>
        obtain ⟨hvalue, -⟩ := List.cons_eq_cons.mp h
        exact absurd (normalized_eq_of_value_eq hs ht hvalue).2 (by decide)
  | case3 s t rest ih =>
    match items', hne' with
    | u :: further, _ =>
      obtain ⟨hs, hrest⟩ := List.forall_mem_cons.mp hspelt
      obtain ⟨hu, hfurther⟩ := List.forall_mem_cons.mp hspelt'
      cases further with
      | nil =>
        obtain ⟨hvalue, -⟩ := List.cons_eq_cons.mp h
        exact absurd (normalized_eq_of_value_eq hs hu hvalue).2 (by decide)
      | cons v further =>
        obtain ⟨hvalue, h⟩ := List.cons_eq_cons.mp h
        obtain ⟨-, h⟩ := List.cons_eq_cons.mp h
        obtain ⟨hitems, hend⟩ :=
          ih hrest hfurther (List.cons_ne_nil _ _) (List.cons_ne_nil _ _) h
        rw [List.map_cons, (normalized_eq_of_value_eq hs hu hvalue).1, hitems]
        exact ⟨rfl, hend⟩

/-- **A denial from outside is known by the mark behind its word.** -/
theorem wrapped_append_inj {denied denied' : Bool} {v w : String}
    {phrases phrases' rest rest' : List Phrase}
    (h : wrapped denied (word v ' ' :: phrases) ++ rest =
      wrapped denied' (word w ' ' :: phrases') ++ rest') :
    denied = denied' ∧ v = w ∧ phrases ++ (closing denied ++ rest) =
      phrases' ++ (closing denied ++ rest') := by
  cases denied <;> cases denied' <;> simp_all [wrapped, closing]

/-- **Objects end where they end**: under operators that look the same, equal phrases are of the
same operand, and so is what follows. -/
theorem object_append_inj {negated negated' : Bool} {operator operator' : Operator}
    {operand operand' : Operand} {object object' : List Phrase}
    (hobject : Object negated operator operand object)
    (hobject' : Object negated' operator' operand' object')
    (hspelt : operator ≠ .isNull → ∀ s ∈ operand.scalars, s.Spelt)
    (hspelt' : operator' ≠ .isNull → ∀ s ∈ operand'.scalars, s.Spelt)
    (hshown : operator.shown = operator'.shown) {rest rest' : List Phrase}
    (h : object ++ rest = object' ++ rest') :
    (operator = .isNull → negated = negated') ∧
      (operator ≠ .isNull →
        operand.mapValues Scalar.normalized = operand'.mapValues Scalar.normalized) ∧
      rest = rest' := by
  have htakes : operator.takesOne = operator'.takesOne := Operator.eq_of_shown_eq rfl hshown
  cases hobject <;> cases hobject'
  case absence.absence =>
    cases negated <;> cases negated' <;> simp_all
  case bounds.bounds low high low' high' =>
    have hitems := hspelt (by decide)
    have hitems' := hspelt' (by decide)
    simp only [Operand.scalars, List.forall_mem_cons] at hitems hitems'
    obtain ⟨hlow, h⟩ := List.cons_eq_cons.mp h
    obtain ⟨-, h⟩ := List.cons_eq_cons.mp h
    obtain ⟨hhigh, hrest⟩ := List.cons_eq_cons.mp h
    obtain ⟨hlow, -⟩ := normalized_eq_of_value_eq hitems.1 hitems'.1 hlow
    obtain ⟨hhigh, -⟩ := normalized_eq_of_value_eq hitems.2.1 hitems'.2.1 hhigh
    exact ⟨by simp, by simp [Operand.mapValues, hlow, hhigh], hrest⟩
  case alternatives.alternatives item items item' items' =>
    simp only [List.cons_append, List.append_assoc, List.nil_append] at h
    obtain ⟨-, h⟩ := List.cons_eq_cons.mp h
    obtain ⟨hitems, hrest⟩ := listed_append_inj (hspelt (by decide)) (hspelt' (by decide))
      (List.cons_ne_nil _ _) (List.cons_ne_nil _ _) h
    exact ⟨by simp, fun _ => congrArg Operand.many hitems, (List.cons_eq_cons.mp hrest).2⟩
  case one.one s hone t hone' =>
    have hne : ∀ operator : Operator, operator.takesOne = true → operator ≠ .isNull := by
      rintro _ hone rfl
      cases hone
    obtain ⟨hvalue, hrest⟩ := List.cons_eq_cons.mp h
    obtain ⟨hst, -⟩ := normalized_eq_of_value_eq (hspelt (hne _ hone) s List.mem_cons_self)
      (hspelt' (hne _ hone') t List.mem_cons_self) hvalue
    exact ⟨fun habsent => absurd habsent (hne _ hone), fun _ => congrArg Operand.single hst, hrest⟩
  -- operators with objects of different forms do not look the same
  all_goals first | cases hshown | simp_all [Operator.takesOne]

end Phrase

/-! ### Conditions -/

/-- **That two conditions look the same**: they agree in all that shows in a text. -/
structure Condition.Alike (c d : Condition) : Prop where
  /-- The fields are the same. -/
  field : c.field = d.field
  /-- Both are denied, or none is. -/
  negated : c.negated = d.negated
  /-- The operators are the same, but perhaps for a group and an equality. -/
  operator : c.operator.shown = d.operator.shown
  /-- The operands are the same, but perhaps for the signedness of integers and where none is
  written. -/
  operand : c.operator ≠ .isNull →
    c.operand.mapValues Scalar.normalized = d.operand.mapValues Scalar.normalized

/-- **That the text of a condition can be read again.** -/
structure Condition.Legible (c : Condition) : Prop where
  /-- The condition can be written. -/
  written : c.text?.isSome
  /-- The field is made of letters, digits and underscores. -/
  field : (c.field.toList.all fun letter => letter.isAlphanum || letter == '_') = true
  /-- The values are spelt out. -/
  spelt : ∀ s ∈ c.values, s.Spelt

namespace Condition

/-- What a condition says of its field, from an object. -/
def said (c : Condition) (object : List Phrase) : List Phrase :=
  Phrase.wrapped (c.negated && c.operator.isWrapped)
    (.word c.field ' ' :: .word (c.operator.verb c.negated) ' ' :: object)

/-- **The phrases of a condition** with the parenthesis that follows it, if it can be written. -/
def phrases? (c : Condition) : Option (List Phrase) :=
  (Phrase.object? c.negated c.operator c.operand).map c.said

/-- **A condition is read as its phrases.** -/
theorem phrases?_eq (c : Condition) :
    c.phrases?.map (List.flatMap Phrase.tokens) =
      c.pieces?.map fun pieces => pieces.flatMap Piece.tokens ++ [.plain ')'] := by
  have hlisted : ∀ (item : Scalar) (items : List Scalar),
      (Phrase.listed (item :: items)).flatMap Phrase.tokens =
        (Piece.joined ([.value item] :: items.map fun s => [.value s])).flatMap Piece.tokens ++
          [.plain ')'] := by
    intro item items
    induction items generalizing item with
    | nil => simp [Phrase.listed, Piece.joined, Phrase.tokens, Phrase.value]
    | cons next rest ih =>
      simp [Phrase.listed, Piece.joined, ih, Phrase.tokens, Phrase.value, Phrase.word, Piece.tokens]
  -- lists are told apart as far as a range tells them apart
  obtain ⟨field, operand, operator, connective, negated⟩ := c
  rcases operand with s | (_ | ⟨low, _ | ⟨high, _ | ⟨third, rest⟩⟩⟩) <;> cases operator <;>
    cases negated <;>
    simp [phrases?, said, Phrase.object?, pieces?, barePieces?, Phrase.wrapped, Phrase.closing,
      Operator.takesOne, Operator.isWrapped, Operator.comparison?, Operator.verb, hlisted,
      Phrase.tokens, Phrase.word, Phrase.value, Piece.tokens]

namespace Legible

variable {c d : Condition}

/-- The pieces of a legible condition and its phrases. -/
theorem exists_pieces? (h : c.Legible) : ∃ pieces phrases, c.pieces? = some pieces ∧
    c.phrases? = some phrases ∧
      phrases.flatMap Phrase.tokens = pieces.flatMap Piece.tokens ++ [.plain ')'] := by
  have hsome := h.written
  rw [text?_eq, Option.isSome_map] at hsome
  obtain ⟨pieces, hpieces⟩ := Option.isSome_iff_exists.mp hsome
  have hphrases := phrases?_eq c
  rw [hpieces, Option.map_some] at hphrases
  obtain ⟨phrases, hsome, htokens⟩ := Option.map_eq_some_iff.mp hphrases
  exact ⟨pieces, phrases, hpieces, hsome, htokens⟩

/-- The scalars of the operand are spelt out, if it is written at all. -/
theorem spelt_of_ne (h : c.Legible) (habsent : c.operator ≠ .isNull) :
    ∀ s ∈ c.operand.scalars, s.Spelt := by
  have hvalues : c.values = c.operand.scalars := if_pos ⟨h.written, habsent⟩
  exact hvalues ▸ h.spelt

/-- A character that is none of these does not stand in the name of a field. -/
theorem not_mem_field (h : c.Legible) {letter : Char}
    (hletter : (letter.isAlphanum || letter == '_') = false) : letter ∉ c.field.toList := by
  intro hmem
  rw [List.all_eq_true.mp h.field letter hmem] at hletter
  exact Bool.noConfusion hletter

/-- The name of a field has no marks in it. -/
theorem clear_field (h : c.Legible) : Phrase.Clear c.field.toList := by
  rw [Phrase.Clear, Phrase.marks, List.forall_mem_cons, List.forall_mem_cons, List.forall_mem_cons,
    List.forall_mem_singleton]
  exact ⟨h.not_mem_field (by decide), h.not_mem_field (by decide), h.not_mem_field (by decide),
    h.not_mem_field (by decide)⟩

/-- The name of a field has no quotes in it. -/
theorem unquoted_field (h : c.Legible) : '\x27' ∉ c.field.toList := h.not_mem_field (by decide)

/-- **The phrases of a legible condition end where they say.** -/
theorem proper (h : c.Legible) {phrases : List Phrase} (hphrases : c.phrases? = some phrases) :
    ∀ phrase ∈ phrases, phrase.Proper := by
  obtain ⟨object, hobject, rfl⟩ := Option.map_eq_some_iff.mp hphrases
  have hvalue : c.operator ≠ .isNull → ∀ s ∈ c.operand.scalars, ∀ mark ∈ Phrase.marks,
      (Phrase.value s mark).Proper := fun habsent s hs mark hmark =>
    Phrase.proper_value (h.spelt_of_ne habsent s hs) hmark
  have hobject : ∀ phrase ∈ object, phrase.Proper :=
    Phrase.proper_object (Phrase.object_of_object? hobject) hvalue
  have hsaid : ∀ phrase ∈ Phrase.word c.field ' ' ::
      .word (c.operator.verb c.negated) ' ' :: object, phrase.Proper := by
    refine List.forall_mem_cons.mpr ⟨Phrase.proper_word h.clear_field (by decide), ?_⟩
    refine List.forall_mem_cons.mpr ⟨?_, hobject⟩
    exact Phrase.proper_word (Operator.clear_verb _ _) (by decide)
  rw [said, Phrase.wrapped]
  cases c.negated && c.operator.isWrapped with
  | false => exact hsaid
  | true =>
    have hclosing : ∀ phrase ∈ Phrase.closing true, phrase.Proper := by
      decide
    refine List.forall_mem_cons.mpr ⟨?_, List.forall_mem_append.mpr ⟨hsaid, hclosing⟩⟩
    exact Phrase.proper_word (by decide) (by decide)

/-- **Conditions end where they end**: equal phrases are of conditions that look the same, and what
follows is the same. -/
theorem alike_of_append_eq (hc : c.Legible) (hd : d.Legible) {phrases phrases' : List Phrase}
    (hphrases : c.phrases? = some phrases) (hphrases' : d.phrases? = some phrases')
    {rest rest' : List Phrase} (h : phrases ++ rest = phrases' ++ rest') :
    c.Alike d ∧ rest = rest' := by
  obtain ⟨object, hobject, rfl⟩ := Option.map_eq_some_iff.mp hphrases
  obtain ⟨object', hobject', rfl⟩ := Option.map_eq_some_iff.mp hphrases'
  obtain ⟨hwrapped, hfield, h⟩ := Phrase.wrapped_append_inj h
  obtain ⟨hverb, h⟩ := List.cons_eq_cons.mp h
  obtain ⟨hshown, hequal⟩ := Operator.shown_eq_of_verb_eq (Phrase.word_inj.mp hverb).1
  obtain ⟨habsent, hoperand, hrest⟩ :=
    Phrase.object_append_inj (Phrase.object_of_object? hobject) (Phrase.object_of_object? hobject')
      hc.spelt_of_ne hd.spelt_of_ne hshown h
  have hnegated : c.negated = d.negated := by
    -- what is not denied from outside is an equality or an absence
    have hsame : c.operator.isWrapped = d.operator.isWrapped := Operator.eq_of_shown_eq rfl hshown
    have hinside : ∀ operator : Operator, operator.isWrapped = false →
        operator.shown = .equal ∨ operator = .isNull := by
      rintro (_ | _ | _ | _ | _ | _ | _ | _ | _ | _) <;> decide
    cases hoperator : c.operator.isWrapped with
    | true =>
      rw [← hsame, hoperator, Bool.and_true, Bool.and_true] at hwrapped
      exact hwrapped
    | false => exact (hinside _ hoperator).elim hequal habsent
  exact ⟨⟨hfield, hnegated, hshown, hoperand⟩, List.append_cancel_left hrest⟩

end Legible

/-- A condition is written like one with the operator that is seen and scalars in one form. -/
theorem text?_shown (c : Condition) :
    ({ c with operator := c.operator.shown }.mapValues Scalar.normalized).text? = c.text? := by
  have hpiece : ∀ piece : Piece, (piece.mapValue Scalar.normalized).text = piece.text := by
    rintro (w | s)
    · rfl
    · exact Scalar.literal_normalized s
  have hspell : ∀ pieces : List Piece,
      Piece.spell (pieces.map (Piece.mapValue Scalar.normalized)) = Piece.spell pieces := by
    intro pieces
    induction pieces with
    | nil => rfl
    | cons piece rest ih => simp [ih, hpiece]
  have hshown : { c with operator := c.operator.shown }.pieces? = c.pieces? := by
    obtain ⟨field, operand, operator, connective, negated⟩ := c
    cases operator <;> cases operand <;> rfl
  rw [text?_eq, pieces?_mapValues, hshown, text?_eq, Option.map_map]
  exact congrArg (Option.map · c.pieces?) (funext hspell)

/-- **Conditions that look the same are written in the same way.** -/
theorem Alike.text?_eq {c d : Condition} (h : c.Alike d) : c.text? = d.text? := by
  obtain ⟨hfield, hnegated, hshown, hoperand⟩ := h
  rw [← text?_shown c, ← text?_shown d]
  by_cases habsent : c.operator = .isNull
  · have habsent' : d.operator = .isNull := by
      rw [habsent] at hshown
      cases hd : d.operator <;> simp_all [Operator.shown]
    simp [text?, mapValues, Operator.shown, habsent, habsent', hfield, hnegated]
  · have hsame : { c with operator := c.operator.shown }.mapValues Scalar.normalized =
        { { d with operator := d.operator.shown }.mapValues Scalar.normalized with
          connective := c.connective } := by
      simp only [mapValues, hoperand habsent, hfield, hnegated, hshown]
    rw [hsame]
    rfl

end Condition

/-! ### Chains -/

namespace Statement

/-- The phrases of a condition behind others. -/
def jointPhrases (c : Condition) : List Phrase :=
  .word "" ' ' :: .word c.connective.word ' ' :: .word "" '(' :: c.phrases?.getD []

/-- **The phrases of a chain.** -/
def chainPhrases : List Condition → List Phrase
  | [] => []
  | c :: rest => .word "" '(' :: (c.phrases?.getD [] ++ rest.flatMap jointPhrases)

/-- Conditions behind others are read as their phrases. -/
theorem flatMap_tokens_joint {conditions : List Condition} (h : ∀ c ∈ conditions, c.Legible) :
    ((Condition.links conditions).flatMap joint).flatMap Piece.tokens =
      (conditions.flatMap jointPhrases).flatMap Phrase.tokens := by
  induction conditions with
  | nil => rfl
  | cons c rest ih =>
    obtain ⟨hc, hrest⟩ := List.forall_mem_cons.mp h
    obtain ⟨pieces, phrases, hpieces, hphrases, htokens⟩ := hc.exists_pieces?
    have hlinks : Condition.links (c :: rest) = (c.connective, pieces) :: Condition.links rest := by
      simp [Condition.links, Condition.link?, hpieces]
    rw [hlinks, List.flatMap_cons, List.flatMap_append, ih hrest, List.flatMap_cons,
      List.flatMap_append]
    refine congrArg (· ++ (rest.flatMap jointPhrases).flatMap Phrase.tokens) ?_
    simp [joint, jointPhrases, hphrases, htokens, Piece.tokens, Phrase.tokens, Phrase.word]

/-- **A chain of legible conditions is read as its phrases.** -/
theorem read_chain? {c : Condition} {rest : List Condition} (h : ∀ d ∈ c :: rest, d.Legible) :
    ∃ text, chain? (c :: rest) = some text ∧
      Token.read text.toList = some ((chainPhrases (c :: rest)).flatMap Phrase.tokens) := by
  obtain ⟨hc, hrest⟩ := List.forall_mem_cons.mp h
  obtain ⟨pieces, phrases, hpieces, hphrases, htokens⟩ := hc.exists_pieces?
  have hlinks : Condition.links (c :: rest) = (c.connective, pieces) :: Condition.links rest := by
    simp [Condition.links, Condition.link?, hpieces]
  have hlaid : ∀ link ∈ Condition.links (c :: rest), ∃ d ∈ c :: rest,
      Condition.Laid d.field d.operator d.operand link.2 := by
    intro link hlink
    obtain ⟨d, hd, hlink⟩ := Condition.exists_of_mem_links hlink
    exact ⟨d, hd, Condition.laid_of_pieces? hlink⟩
  have hchained : chained (Condition.links (c :: rest)) =
      some (.word "(" :: (pieces ++ .word ")" :: (Condition.links rest).flatMap joint)) := by
    rw [hlinks, chained]
  have hclosed := closed_of_chained hchained fun link hlink => by
    obtain ⟨d, -, hd⟩ := hlaid link hlink
    exact hd.closable
  have hunquoted := unquoted_of_chained hchained fun link hlink => by
    obtain ⟨d, hmem, hd⟩ := hlaid link hlink
    exact hd.unquoted (h d hmem).unquoted_field
  refine ⟨_, by rw [chain?_eq, hchained, Option.map_some], ?_⟩
  rw [Piece.read_spell hclosed hunquoted]
  have hjoints := flatMap_tokens_joint hrest
  simp [chainPhrases, hphrases, htokens, hjoints, Piece.tokens, Phrase.tokens, Phrase.word]

/-- The phrases of a chain of legible conditions end where they say. -/
theorem proper_chainPhrases {conditions : List Condition} (h : ∀ c ∈ conditions, c.Legible) :
    ∀ phrase ∈ chainPhrases conditions, phrase.Proper := by
  have hphrases : ∀ c ∈ conditions, ∀ phrase ∈ c.phrases?.getD [], phrase.Proper := by
    intro c hc
    obtain ⟨-, phrases, -, hphrases, -⟩ := (h c hc).exists_pieces?
    rw [hphrases]
    exact (h c hc).proper hphrases
  have hconnective : ∀ connective : Connective, (Phrase.word connective.word ' ').Proper := by
    rintro (_ | _) <;> decide
  cases conditions with
  | nil => exact fun phrase hphrase => absurd hphrase List.not_mem_nil
  | cons c rest =>
    obtain ⟨hc, hrest⟩ := List.forall_mem_cons.mp hphrases
    refine List.forall_mem_cons.mpr ⟨by decide, List.forall_mem_append.mpr ⟨hc, ?_⟩⟩
    intro phrase hphrase
    obtain ⟨d, hd, hmem⟩ := List.mem_flatMap.mp hphrase
    have hjoint : ∀ phrase ∈ jointPhrases d, phrase.Proper := by
      refine List.forall_mem_cons.mpr ⟨by decide, ?_⟩
      refine List.forall_mem_cons.mpr ⟨hconnective _, ?_⟩
      exact List.forall_mem_cons.mpr ⟨by decide, hrest d hd⟩
    exact hjoint phrase hmem

/-- Conditions behind others are known by their phrases, together with their connectives. -/
theorem alike_of_joints_eq {conditions conditions' : List Condition}
    (h : ∀ c ∈ conditions, c.Legible) (h' : ∀ c ∈ conditions', c.Legible)
    (heq : conditions.flatMap jointPhrases = conditions'.flatMap jointPhrases) :
    List.Forall₂ Condition.Alike conditions conditions' ∧
      conditions.map Condition.connective = conditions'.map Condition.connective := by
  have hword : ∀ k l : Connective, k.word = l.word → k = l := by
    rintro (_ | _) (_ | _) <;> decide
  have hne : ∀ (c : Condition) (rest : List Condition), (c :: rest).flatMap jointPhrases ≠ [] := by
    intro c rest hnil
    simp [jointPhrases] at hnil
  induction conditions generalizing conditions' with
  | nil =>
    cases conditions' with
    | nil => exact ⟨.nil, rfl⟩
    | cons d rest' => exact absurd heq.symm (hne d rest')
  | cons c rest ih =>
    cases conditions' with
    | nil => exact absurd heq (hne c rest)
    | cons d rest' =>
      obtain ⟨hc, hrest⟩ := List.forall_mem_cons.mp h
      obtain ⟨hd, hrest'⟩ := List.forall_mem_cons.mp h'
      obtain ⟨-, phrases, -, hphrases, -⟩ := hc.exists_pieces?
      obtain ⟨-, phrases', -, hphrases', -⟩ := hd.exists_pieces?
      simp only [List.flatMap_cons, jointPhrases, hphrases, hphrases', Option.getD_some,
        List.cons_append, List.cons.injEq, Phrase.word_inj, and_true, true_and] at heq
      obtain ⟨hconnective, heq⟩ := heq
      obtain ⟨halike, heq⟩ := hc.alike_of_append_eq hd hphrases hphrases' heq
      obtain ⟨hall, hconnectives⟩ := ih hrest hrest' heq
      refine ⟨.cons halike hall, ?_⟩
      rw [List.map_cons, hword _ _ hconnective, hconnectives]
      rfl

/-- Conditions that look the same go on in the same way, if their connectives are the same. -/
theorem chainAfter_congr {conditions conditions' : List Condition}
    (h : List.Forall₂ Condition.Alike conditions conditions')
    (hconnectives : conditions.map Condition.connective = conditions'.map Condition.connective)
    (text : String) : chainAfter text conditions = chainAfter text conditions' := by
  induction h generalizing text with
  | nil => rfl
  | cons halike hrest ih =>
    obtain ⟨hconnective, hconnectives⟩ := List.cons_eq_cons.mp hconnectives
    rw [chainAfter, chainAfter, halike.text?_eq, hconnective]
    split <;> exact ih hconnectives _

/-- Conditions that look the same, with the same connectives between them, have the same chain. -/
theorem chain?_congr {conditions conditions' : List Condition}
    (h : ∀ c ∈ conditions, c.text?.isSome)
    (halike : List.Forall₂ Condition.Alike conditions conditions')
    (hconnectives : conditions.tail.map Condition.connective =
      conditions'.tail.map Condition.connective) :
    chain? conditions = chain? conditions' := by
  cases halike with
  | nil => rfl
  | cons halike hrest =>
    obtain ⟨text, htext⟩ := Option.isSome_iff_exists.mp (h _ List.mem_cons_self)
    rw [chain?, chain?, ← halike.text?_eq, htext]
    exact congrArg some (chainAfter_congr hrest hconnectives _)

/-- One text has one sequence of phrases. -/
theorem chainPhrases_eq_of_chain?_eq {conditions conditions' : List Condition}
    (h : ∀ c ∈ conditions, c.Legible) (h' : ∀ c ∈ conditions', c.Legible)
    (heq : chain? conditions = chain? conditions') :
    chainPhrases conditions = chainPhrases conditions' := by
  cases conditions with
  | nil =>
    cases conditions' with
    | nil => rfl
    | cons d rest' =>
      obtain ⟨text', htext', -⟩ := read_chain? h'
      rw [htext'] at heq
      cases heq
  | cons c rest =>
    obtain ⟨text, htext, hread⟩ := read_chain? h
    cases conditions' with
    | nil =>
      rw [htext] at heq
      cases heq
    | cons d rest' =>
      obtain ⟨text', htext', hread'⟩ := read_chain? h'
      obtain rfl : text = text' := by
        rw [htext, htext'] at heq
        exact Option.some.inj heq
      exact Phrase.flatMap_tokens_inj (proper_chainPhrases h) (proper_chainPhrases h')
        (Option.some.inj (hread.symm.trans hread'))

/-- Conditions are known by the phrases of their chain, together with the connectives in it. -/
theorem alike_of_chainPhrases_eq {conditions conditions' : List Condition}
    (h : ∀ c ∈ conditions, c.Legible) (h' : ∀ c ∈ conditions', c.Legible)
    (heq : chainPhrases conditions = chainPhrases conditions') :
    List.Forall₂ Condition.Alike conditions conditions' ∧
      conditions.tail.map Condition.connective = conditions'.tail.map Condition.connective := by
  cases conditions with
  | nil =>
    cases conditions' with
    | nil => exact ⟨.nil, rfl⟩
    | cons d rest' => cases heq
  | cons c rest =>
    cases conditions' with
    | nil => cases heq
    | cons d rest' =>
      obtain ⟨hc, hrest⟩ := List.forall_mem_cons.mp h
      obtain ⟨hd, hrest'⟩ := List.forall_mem_cons.mp h'
      obtain ⟨-, phrases, -, hphrases, -⟩ := hc.exists_pieces?
      obtain ⟨-, phrases', -, hphrases', -⟩ := hd.exists_pieces?
      simp only [chainPhrases, hphrases, hphrases', Option.getD_some, List.cons.injEq,
        true_and] at heq
      obtain ⟨halike, hjoints⟩ := hc.alike_of_append_eq hd hphrases hphrases' heq
      obtain ⟨hall, hconnectives⟩ := alike_of_joints_eq hrest hrest' hjoints
      exact ⟨.cons halike hall, hconnectives⟩

/-- **The text of a chain determines its conditions**, and nothing but what shows in them determines
the text. -/
theorem chain?_eq_iff {conditions conditions' : List Condition}
    (h : ∀ c ∈ conditions, c.Legible) (h' : ∀ c ∈ conditions', c.Legible) :
    chain? conditions = chain? conditions' ↔
      List.Forall₂ Condition.Alike conditions conditions' ∧
        conditions.tail.map Condition.connective = conditions'.tail.map Condition.connective := by
  constructor
  · intro heq
    exact alike_of_chainPhrases_eq h h' (chainPhrases_eq_of_chain?_eq h h' heq)
  · rintro ⟨halike, hconnectives⟩
    exact chain?_congr (fun c hc => (h c hc).written) halike hconnectives

/-- A note that imitates two conditions. -/
def imitation : List Condition := [{ field := "note", operand := .text "a') OR (id = '1" }]

/-- The two conditions that it imitates. -/
def imitated : List Condition :=
  [{ field := "note", operand := .text "a" },
    { field := "id", operand := .text "1", connective := .or }]

/-- What is imitated in a text is not what is imitated. -/
theorem chain?_imitation_ne :
    (∀ c ∈ imitation, c.Legible) ∧ (∀ c ∈ imitated, c.Legible) ∧
      chain? imitation ≠ chain? imitated := by
  have himitation : ∀ c ∈ imitation, c.Legible := by
    refine List.forall_mem_singleton.mpr ⟨by decide, by decide, by decide⟩
  have himitated : ∀ c ∈ imitated, c.Legible := by
    refine List.forall_mem_cons.mpr ⟨⟨by decide, by decide, by decide⟩, ?_⟩
    exact List.forall_mem_singleton.mpr ⟨by decide, by decide, by decide⟩
  refine ⟨himitation, himitated, fun heq => ?_⟩
  cases ((chain?_eq_iff himitation himitated).mp heq).1 with
  | cons _ hrest => cases hrest

end Statement

end QueryGate
