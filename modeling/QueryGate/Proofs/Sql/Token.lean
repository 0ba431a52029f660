import QueryGate.Scalar

/-!
# Reading literals

What a database makes of the single quotes in a statement. Outside of a literal a quote opens one;
inside of it two quotes stand for one, and a quote by itself closes it. Reading a text by this rule
divides it into *tokens*: characters that stand outside, and literals, each by what it says
(`QueryGate.Token.read`). A text that ends inside a literal cannot be read.

A text that is written as a literal is read as a literal that says the text, whatever it is made of
(`QueryGate.Token.read_literal`), as long as no other quote follows at once: that one would belong
to it.
-/

namespace QueryGate

/-- **What a statement is read as**, piece by piece. -/
inductive Token where
  /-- A character outside of literals. -/
  | plain (c : Char)
  /-- A literal, by what it says. -/
  | literal (content : String)
  deriving DecidableEq, Repr

namespace Token

mutual

/-- **A text read from outside of literals**, if it does not end inside of one. -/
def read : List Char → Option (List Token)
  | [] => some []
  | c :: cs =>
    if c = '\x27' then (readInside cs).map fun found => .literal (String.ofList found.1) :: found.2
    else (read cs).map (.plain c :: ·)

/-- A text read from inside a literal: what is left of the literal, and what follows it. -/
def readInside : List Char → Option (List Char × List Token)
  | [] => none
  | c :: cs =>
    if c ≠ '\x27' then (readInside cs).map fun found => (c :: found.1, found.2)
    else
      match cs with
      | [] => some ([], [])
      | d :: ds =>
        if d = '\x27' then (readInside ds).map fun found => ('\x27' :: found.1, found.2)
        else (read (d :: ds)).map fun tokens => ([], tokens)

end

/-- What the literals among some tokens say. -/
def literals (tokens : List Token) : List String :=
  tokens.filterMap fun
    | .plain _ => none
    | .literal content => some content

/-- A token without what it says if it is a literal. -/
def blanked : Token → Token
  | .plain c => .plain c
  | .literal _ => .literal ""

/-! ### Reading what was written -/

/-- **Characters other than quotes are read as they stand.** -/
theorem read_plain {cs : List Char} (h : '\x27' ∉ cs) (rest : List Char) :
    read (cs ++ rest) = (read rest).map (cs.map .plain ++ ·) := by
  induction cs with
  | nil => simp
  | cons c cs ih =>
    obtain ⟨hc, hcs⟩ := List.ne_and_not_mem_of_not_mem_cons h
    rw [List.cons_append, read, if_neg (Ne.symm hc), ih hcs, Option.map_map]
    rfl

/-- A closing quote closes, unless another one follows. -/
theorem readInside_quote {rest : List Char} (h : rest.head? ≠ some '\x27') :
    readInside ('\x27' :: rest) = (read rest).map fun tokens => ([], tokens) := by
  cases rest with
  | nil => rfl
  | cons d ds =>
    have hd : d ≠ '\x27' := fun hd => h (congrArg some hd)
    rw [readInside, if_neg (not_not_intro rfl)]
    exact if_neg hd

/-- A character other than a quote belongs to the literal. -/
theorem readInside_cons_of_ne {c : Char} (hc : c ≠ '\x27') (cs : List Char) :
    readInside (c :: cs) = (readInside cs).map fun found => (c :: found.1, found.2) := by
  cases cs <;> exact if_pos hc

/-- Doubled quotes are read as the quotes that were doubled. -/
theorem readInside_doubled (cs : List Char) {rest : List Char} (h : rest.head? ≠ some '\x27') :
    readInside (Scalar.doubled cs ++ '\x27' :: rest) =
      (read rest).map fun tokens => (cs, tokens) := by
  induction cs with
  | nil => exact readInside_quote h
  | cons c cs ih =>
    by_cases hc : c = '\x27'
    · subst hc
      have hdoubled : Scalar.doubled ('\x27' :: cs) = '\x27' :: '\x27' :: Scalar.doubled cs := rfl
      rw [hdoubled, List.cons_append, List.cons_append, readInside, if_neg (not_not_intro rfl)]
      simp only [if_true, ih, Option.map_map]
      rfl
    · have hdoubled : Scalar.doubled (c :: cs) = c :: Scalar.doubled cs := by
        simp [Scalar.doubled, hc]
      rw [hdoubled, List.cons_append, readInside_cons_of_ne hc, ih, Option.map_map]
      rfl

/-- **A literal is read as the text that it was written for**, whatever the text. -/
theorem read_literal (s : String) {rest : List Char} (h : rest.head? ≠ some '\x27') :
    read ((Scalar.text s).literal.toList ++ rest) = (read rest).map (.literal s :: ·) := by
  have hliteral : (Scalar.text s).literal.toList ++ rest =
      '\x27' :: (Scalar.doubled s.toList ++ '\x27' :: rest) := by
    simp [Scalar.literal]
  rw [hliteral, read, if_pos rfl, readInside_doubled s.toList h, Option.map_map]
  simp [Function.comp_def]

/-! ### Tokens by what they are -/

@[simp] theorem literals_append (tokens further : List Token) :
    literals (tokens ++ further) = literals tokens ++ literals further :=
  List.filterMap_append

/-- Among plain characters there are no literals. -/
@[simp] theorem literals_map_plain (cs : List Char) : literals (cs.map .plain) = [] := by
  rw [literals, List.filterMap_map]
  exact List.filterMap_eq_nil_iff.mpr fun _ _ => rfl

/-- Plain characters stay as they are. -/
@[simp] theorem map_blanked_map_plain (cs : List Char) :
    (cs.map plain).map blanked = cs.map plain := by
  rw [List.map_map]
  rfl

end Token

end QueryGate
