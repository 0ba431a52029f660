import QueryGate.Proofs.Sql.Literal

/-!
# Phrases of a chain

A chain of conditions, once its quotes are read, is cut wherever a blank, a parenthesis or a comma
stands outside of literals. What stands before such a mark is an *atom*, and an atom with its mark
is a *phrase* (`QueryGate.Phrase`). No two different sequences of phrases are read as the same
tokens (`QueryGate.Phrase.flatMap_tokens_inj`), so whatever a text may mean is to be seen in its
phrases.

## Conditions in phrases

A condition is made of its field, a verb, and an object which depends on the operator; a condition
that is denied from outside has a `NOT` before and a parenthesis behind all that
(`QueryGate.Condition.phrases?`). The last phrase takes the parenthesis that closes the condition in
its chain, so that a condition is over when its phrases are.
-/

namespace QueryGate

/-- **An atom with the mark that ends it.** -/
structure Phrase where
  /-- What stands before the mark. -/
  atom : List Token
  /-- The mark. -/
  mark : Char
  deriving DecidableEq, Repr

namespace Phrase

/-- The characters that end an atom. -/
def marks : List Char := [' ', '(', ')', ',']

/-- The tokens of a phrase. -/
def tokens (phrase : Phrase) : List Token := phrase.atom ++ [.plain phrase.mark]

/-- That some tokens have no marks outside of literals. -/
def Unmarked (atom : List Token) : Prop := ∀ c ∈ marks, Token.plain c ∉ atom

instance : DecidablePred Unmarked := fun atom =>
  List.decidableBAll (fun c => Token.plain c ∉ atom) marks

/-- That there are no marks among some characters. -/
def Clear (cs : List Char) : Prop := ∀ c ∈ marks, c ∉ cs

-- the instance is named, since all characters there are can be gone through as well
instance : DecidablePred Clear := fun cs => List.decidableBAll (fun c => c ∉ cs) marks

/-- **That a phrase ends where it says**: with a mark, and with none before. -/
structure Proper (phrase : Phrase) : Prop where
  /-- The atom has no marks. -/
  unmarked : Unmarked phrase.atom
  /-- The mark is one. -/
  isMark : phrase.mark ∈ marks

instance (phrase : Phrase) : Decidable phrase.Proper :=
  decidable_of_iff (Unmarked phrase.atom ∧ phrase.mark ∈ marks)
    ⟨fun h => ⟨h.1, h.2⟩, fun h => ⟨h.unmarked, h.isMark⟩⟩

/-! ### Cutting at the first mark -/

/-- **There is one first mark.** -/
theorem cut_inj {atom atom' rest rest' : List Token} {c d : Char} (h : Unmarked atom)
    (h' : Unmarked atom') (hc : c ∈ marks) (hd : d ∈ marks)
    (heq : atom ++ .plain c :: rest = atom' ++ .plain d :: rest') :
    atom = atom' ∧ c = d ∧ rest = rest' := by
  -- the atoms are gone through side by side: where one ends, the other must end as well
  induction atom generalizing atom' with
  | nil =>
    cases atom' with
    | nil =>
      obtain ⟨hmark, hrest⟩ := List.cons_eq_cons.mp heq
      exact ⟨rfl, Token.plain.inj hmark, hrest⟩
    | cons t atom' =>
      obtain ⟨rfl, -⟩ := List.cons_eq_cons.mp heq
      exact absurd List.mem_cons_self (h' c hc)
  | cons t atom ih =>
    cases atom' with
    | nil =>
      obtain ⟨rfl, -⟩ := List.cons_eq_cons.mp heq
      exact absurd List.mem_cons_self (h d hd)
    | cons t' atom' =>
      obtain ⟨rfl, hrest⟩ := List.cons_eq_cons.mp heq
      have hatom : Unmarked atom := fun c hc hmem => h c hc (List.mem_cons_of_mem _ hmem)
      have hatom' : Unmarked atom' := fun c hc hmem => h' c hc (List.mem_cons_of_mem _ hmem)
      obtain ⟨rfl, hmark, hrest⟩ := ih hatom hatom' hrest
      exact ⟨rfl, hmark, hrest⟩

/-- **Phrases are known by their tokens.** -/
theorem flatMap_tokens_inj {phrases phrases' : List Phrase} (h : ∀ phrase ∈ phrases, phrase.Proper)
    (h' : ∀ phrase ∈ phrases', phrase.Proper)
    (heq : phrases.flatMap tokens = phrases'.flatMap tokens) : phrases = phrases' := by
  have hne : ∀ (phrase : Phrase) (rest : List Phrase), (phrase :: rest).flatMap tokens ≠ [] := by
    intro phrase rest hnil
    simp [tokens] at hnil
  induction phrases generalizing phrases' with
  | nil =>
    cases phrases' with
    | nil => rfl
    | cons phrase' rest' => exact absurd heq.symm (hne phrase' rest')
  | cons phrase rest ih =>
    cases phrases' with
    | nil => exact absurd heq (hne phrase rest)
    | cons phrase' rest' =>
      obtain ⟨hphrase, hrest⟩ := List.forall_mem_cons.mp h
      obtain ⟨hphrase', hrest'⟩ := List.forall_mem_cons.mp h'
      simp only [List.flatMap_cons, tokens, List.append_assoc, List.singleton_append] at heq
      obtain ⟨hatom, hmark, heq⟩ :=
        cut_inj hphrase.unmarked hphrase'.unmarked hphrase.isMark hphrase'.isMark heq
      obtain rfl := ih hrest hrest' heq
      obtain ⟨atom, mark⟩ := phrase
      obtain ⟨atom', mark'⟩ := phrase'
      obtain rfl : atom = atom' := hatom
      obtain rfl : mark = mark' := hmark
      rfl

/-! ### Atoms -/

/-- The phrase of a word. -/
def word (w : String) (mark : Char) : Phrase := ⟨(Piece.word w).tokens, mark⟩

/-- The phrase of a value. -/
def value (s : Scalar) (mark : Char) : Phrase := ⟨(Piece.value s).tokens, mark⟩

/-- Words are known by their phrases. -/
@[simp] theorem word_inj {v w : String} {c d : Char} : word v c = word w d ↔ v = w ∧ c = d := by
  have hplain : Function.Injective Token.plain := fun c d hcd => Token.plain.inj hcd
  simp [word, Piece.tokens, List.map_inj_right hplain, String.toList_inj]

/-- A word without marks makes a phrase. -/
theorem proper_word {w : String} (h : Clear w.toList) {mark : Char}
    (hmark : mark ∈ marks) : (word w mark).Proper := by
  refine ⟨fun c hc hmem => h c hc ?_, hmark⟩
  obtain ⟨d, hd, hcd⟩ := List.mem_map.mp hmem
  exact Token.plain.inj hcd ▸ hd

/-- Marks are no digits. -/
theorem isDigit_of_mem_marks {c : Char} (h : c ∈ marks) : c.isDigit = false ∧ c ≠ '-' := by
  have hall : ∀ c ∈ marks, c.isDigit = false ∧ c ≠ '-' := by
    rw [marks, List.forall_mem_cons, List.forall_mem_cons, List.forall_mem_cons,
      List.forall_mem_singleton]
    decide
  exact hall c h

/-- A value that is spelt out makes a phrase. -/
theorem proper_value {s : Scalar} (hs : s.Spelt) {mark : Char} (hmark : mark ∈ marks) :
    (value s mark).Proper := by
  have hnumeral : ∀ n : Int, Clear (Decimal.ofInt n).toList := by
    intro n c hc
    obtain ⟨hdigit, hsign⟩ := isDigit_of_mem_marks hc
    have hdigits := Decimal.not_mem_digits hdigit
    cases n with
    | ofNat n => simpa [Decimal.ofInt, Decimal.ofNat] using hdigits n
    | negSucc n => simpa [Decimal.ofInt, Decimal.ofNat] using ⟨hsign, hdigits (n + 1)⟩
  have hword : ∀ w : String, Clear w.toList → s.literal = w → s.asText? = none →
      (value s mark).Proper := by
    rintro _ hw rfl htext
    have hvalue : value s mark = word s.literal mark :=
      congrArg (Phrase.mk · mark) (Piece.tokens_value_of_asText? htext)
    exact hvalue ▸ proper_word hw hmark
  cases s with
  | null => exact hword "NULL" (by decide) rfl rfl
  | bool b => cases b <;> exact hword _ (by decide) rfl rfl
  | int n => exact hword _ (hnumeral _) rfl rfl
  | uint n => exact hword _ (hnumeral _) (Scalar.literal_of_number? rfl) rfl
  | float x => exact hs.elim
  | text content => exact ⟨fun c _ hmem => by simp [value, Piece.tokens] at hmem, hmark⟩
  | blob bytes => exact hs.elim

/-- Values with the same phrase are the same in one form. -/
theorem normalized_eq_of_value_eq {s t : Scalar} (hs : s.Spelt) (ht : t.Spelt) {c d : Char}
    (h : value s c = value t d) : s.normalized = t.normalized ∧ c = d := by
  obtain ⟨htokens, hmark⟩ := Phrase.mk.inj h
  exact ⟨Scalar.normalized_eq_of_tokens_eq hs ht htokens, hmark⟩

end Phrase

end QueryGate
