import QueryGate.Proofs.Sql.Layout
import QueryGate.Proofs.Sql.Token

/-!
# Texts in statements

A statement carries texts that come from anywhere, and a database finds them again by the quotes
around them. This module shows that it finds exactly them (`QueryGate.Statement.read_text`): read by
the rule for quotes (`QueryGate.Token.read`), a statement whose names have no quotes ends outside of
literals, its literals are the texts it was written with, in order, and all that stands outside is
the same for any other texts in their places. So nothing that stands in a text can become a part of
the statement.

## What carries the proof

Reading goes over the pieces of the statement. A value that is a text becomes one literal, provided
that what follows does not begin with a quote, and what follows is a word without quotes
(`QueryGate.Piece.Closed`, `QueryGate.Piece.Unquoted`). Any other value has no quotes in its own
literal (`QueryGate.Scalar.quote_not_mem_literal`) and is read as it stands.
-/

namespace QueryGate

/-! ### Literals without quotes -/

/-- Filled digits are not quotes. -/
theorem Decimal.quote_not_mem_filled (width n : Nat) : '\x27' ∉ filled '0' width n :=
  fun h => absurd (isDigit_of_mem_filled h) (by decide)

/-- A scalar that has a text is that text. -/
theorem Scalar.eq_text_of_asText? {s : Scalar} {content : String} (h : s.asText? = some content) :
    s = .text content := by
  cases s <;> simp_all [asText?]

/-- **Only texts have quotes in their literals.** -/
theorem Scalar.quote_not_mem_literal {s : Scalar} (h : s.asText? = none) :
    '\x27' ∉ s.literal.toList := by
  have hdigits : ∀ n, '\x27' ∉ Decimal.digits n := Decimal.not_mem_digits (by decide)
  cases s with
  | null => decide
  | bool b => cases b <;> decide
  | int n =>
    rw [literal, Decimal.ofInt.eq_def]
    split <;> simp [Decimal.ofNat, hdigits]
  | uint n => simp [literal, Decimal.ofNat, hdigits]
  | float x =>
    rw [literal]
    split
    · have hsign : '\x27' ∉ (if x.negative then "-" else "").toList := by
        split <;> decide
      simp [Binary64.fixed, Decimal.ofNat, hsign, hdigits, Decimal.quote_not_mem_filled]
    · decide
  | text s => exact absurd h (by simp [asText?])
  | blob bytes => exact List.not_mem_nil

/-! ### Reading pieces -/

namespace Piece

/-- **What a piece is read as**: a text as a literal, anything else as it stands. -/
def tokens : Piece → List Token
  | .word w => w.toList.map .plain
  | .value (.text s) => [.literal s]
  | .value s => s.literal.toList.map .plain

/-- A value that is no text is read as it stands. -/
theorem tokens_value_of_asText? {s : Scalar} (h : s.asText? = none) :
    (value s).tokens = s.literal.toList.map .plain := by
  cases s <;> first | rfl | exact absurd h (by simp [Scalar.asText?])

/-- A value is read as what it is, if what follows does not begin with a quote. -/
theorem read_value (s : Scalar) {rest : List Char} (h : rest.head? ≠ some '\x27') :
    Token.read (s.literal.toList ++ rest) = (Token.read rest).map ((value s).tokens ++ ·) := by
  cases htext : s.asText? with
  | none =>
    rw [tokens_value_of_asText? htext, Token.read_plain (Scalar.quote_not_mem_literal htext)]
  | some content =>
    obtain rfl := Scalar.eq_text_of_asText? htext
    exact Token.read_literal content h

/-- **Closed pieces without quotes in their words are read one by one.** -/
theorem read_spell {pieces : List Piece} (closed : Closed pieces) (unquoted : Unquoted pieces) :
    Token.read (spell pieces).toList = some (pieces.flatMap tokens) := by
  -- a value is read together with the word behind it, whose first character is no quote
  induction pieces using Closed.induct with
  | case1 => rfl
  | case2 w rest ih =>
    obtain ⟨hw, hrest⟩ := unquoted_cons_word.mp unquoted
    rw [spell_cons, text_word, String.toList_append, Token.read_plain hw, ih closed hrest]
    rfl
  | case3 s w rest ih =>
    obtain ⟨hne, hclosed⟩ := closed
    obtain ⟨hw, hrest⟩ := unquoted_cons_word.mp (unquoted_cons_value.mp unquoted)
    have hhead : (w.toList ++ (spell rest).toList).head? ≠ some '\x27' := by
      intro hquote
      cases hchars : w.toList with
      | nil => exact hne (String.toList_eq_nil_iff.mp hchars)
      | cons c cs =>
        rw [hchars, List.cons_append, List.head?_cons] at hquote
        rw [hchars, Option.some.inj hquote] at hw
        exact hw List.mem_cons_self
    rw [spell_cons, text_value, spell_cons, text_word, String.toList_append, String.toList_append,
      read_value s hhead, Token.read_plain hw, ih hclosed hrest]
    rfl
  | case4 s rest hrest => cases rest <;> simp_all [Closed]

/-- The literals that are read are the texts among the values. -/
theorem literals_tokens (pieces : List Piece) :
    Token.literals (pieces.flatMap tokens) = (values pieces).filterMap Scalar.asText? := by
  induction pieces with
  | nil => rfl
  | cons piece rest ih =>
    rw [List.flatMap_cons, Token.literals_append, ih]
    cases piece with
    | word w => simp [tokens]
    | value s =>
      rw [values_cons_value]
      cases htext : s.asText? with
      | none =>
        rw [List.filterMap_cons_none htext, tokens_value_of_asText? htext,
          Token.literals_map_plain, List.nil_append]
      | some content =>
        obtain rfl := Scalar.eq_text_of_asText? htext
        rfl

end Piece

/-! ### Statements and their texts -/

/-- A scalar without what it says if it is a text. -/
def Scalar.blanked : Scalar → Scalar
  | .text _ => .text ""
  | s => s

/-- Pieces without their texts are read as what they are read as, without what the literals say. -/
theorem Piece.tokens_mapValue_blanked (pieces : List Piece) :
    (pieces.map (mapValue Scalar.blanked)).flatMap tokens =
      (pieces.flatMap tokens).map Token.blanked := by
  have hpiece : ∀ piece : Piece,
      (piece.mapValue Scalar.blanked).tokens = piece.tokens.map Token.blanked := by
    rintro (w | s)
    · exact (Token.map_blanked_map_plain _).symm
    · cases s <;> simp [tokens, Scalar.blanked, Token.blanked]
  rw [List.flatMap_map, List.map_flatMap]
  exact List.flatMap_congr fun piece _ => hpiece piece

namespace Statement

/-- **The texts that a statement is written with**, in order. -/
def texts (s : Statement) : List String := s.values.filterMap Scalar.asText?

/-- **A statement without what its texts say.** -/
def blanked (s : Statement) : Statement := s.mapValues Scalar.blanked

/-- A statement without quotes in its names is read piece by piece. -/
theorem read_text_eq {s : Statement} (h : s.QuoteFree) :
    Token.read s.text.toList = some (s.pieces.flatMap Piece.tokens) := by
  rw [← spell_pieces]
  exact Piece.read_spell s.closed_pieces (unquoted_pieces h)

/-- **Texts cannot change a statement**: it is read to its end, its literals say the texts it was
written with, and what stands outside of them is the same for all statements that differ from it in
what their texts say. -/
theorem read_text {s : Statement} (h : s.QuoteFree) :
    ∃ tokens, Token.read s.text.toList = some tokens ∧ Token.literals tokens = s.texts ∧
      ∀ other : Statement, other.blanked = s.blanked →
        ∃ tokens', Token.read other.text.toList = some tokens' ∧
          tokens'.map Token.blanked = tokens.map Token.blanked := by
  -- what is read is known from the pieces, and blanking commutes with all that leads there
  refine ⟨_, read_text_eq h, ?_, fun other hblanked => ?_⟩
  · rw [Piece.literals_tokens, values_pieces, texts]
  · have hpieces : ∀ s : Statement,
        (s.pieces.flatMap Piece.tokens).map Token.blanked =
          s.blanked.pieces.flatMap Piece.tokens := by
      intro s
      rw [blanked, pieces_mapValues rfl, Piece.tokens_mapValue_blanked]
    have hother : other.QuoteFree := by
      rw [QuoteFree, ← identifiers_mapValues Scalar.blanked]
      rw [QuoteFree, ← identifiers_mapValues Scalar.blanked] at h
      rwa [show other.mapValues Scalar.blanked = s.mapValues Scalar.blanked from hblanked]
    exact ⟨_, read_text_eq hother, by rw [hpieces, hpieces, hblanked]⟩

/-- A change of a name for a reason. -/
def rename (name reason : String) : Statement :=
  .update "people" [{ name := "name", value := some (.text name) }]
    [{ field := "reason", operand := .text reason }]

/-- Quotes alone are texts like any others. -/
theorem read_text_rename :
    (rename "'" "''").QuoteFree ∧
      ∃ tokens, Token.read (rename "'" "''").text.toList = some tokens ∧
        Token.literals tokens = ["'", "''"] ∧
        ∃ tokens', Token.read (rename "one" "another").text.toList = some tokens' ∧
          tokens'.map Token.blanked = tokens.map Token.blanked := by
  have hfree : (rename "'" "''").QuoteFree := by
    decide
  obtain ⟨tokens, hread, hliterals, hother⟩ := read_text hfree
  exact ⟨hfree, tokens, hread, hliterals, hother (rename "one" "another") rfl⟩

end Statement

end QueryGate
