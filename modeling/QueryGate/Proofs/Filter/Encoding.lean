import QueryGate.Proofs.Filter.Params
import QueryGate.Text.CharClass

/-!
# Query strings that are encoded

Whoever sends a request encodes its parameters: what is not a letter or a digit of ASCII, nor one of
four signs, is sent as its bytes in UTF-8, each of them as a percent sign with two hexadecimal
digits. There is some freedom in this. The digits may be of either case, a space may be a plus sign,
and the string may have a question mark in front and ampersands to spare. Whatever is made of it,
the same parameters are read (`QueryGate.Params.ofQueryString_of_encodes`).

## From bytes to characters

An encoding knows bytes only, and what is read is known for spellings, which go character by
character (`QueryGate.Form.Spells`). An encoding of a text is a spelling of it
(`QueryGate.Form.spells_of_encodes`), and this is where the bytes are put together again: no byte of
a longer character stands for itself, so all of them are escaped, side by side.
-/

namespace QueryGate

namespace Form

/-! ### Texts -/

/-- **The bytes that stand for themselves**: those of letters, digits and four signs. -/
def isUnreserved (byte : UInt8) : Bool :=
  let c := Char.ofNat byte.toNat
  CharClass.isAsciiLetter c || CharClass.isAsciiDigit c || ['-', '.', '_', '~'].contains c

/-- **That bytes are encoded.** -/
inductive Encodes : List UInt8 → List Char → Prop
  /-- Nothing is encoded. -/
  | nil : Encodes [] []
  /-- A byte stands for itself. -/
  | unreserved {byte : UInt8} (h : isUnreserved byte = true) {bytes : List UInt8}
      {encoded : List Char} (rest : Encodes bytes encoded) :
      Encodes (byte :: bytes) (Char.ofNat byte.toNat :: encoded)
  /-- A space is a plus sign. -/
  | plus {bytes : List UInt8} {encoded : List Char} (rest : Encodes bytes encoded) :
      Encodes (32 :: bytes) ('+' :: encoded)
  /-- Any byte that does not stand for itself is a percent sign with two digits, be it a space. -/
  | escaped {byte : UInt8} (h : isUnreserved byte = false) {high low : Char}
      (hhigh : Hexadecimal.value? high = some (byte.toNat / 16))
      (hlow : Hexadecimal.value? low = some (byte.toNat % 16)) {bytes : List UInt8}
      {encoded : List Char} (rest : Encodes bytes encoded) :
      Encodes (byte :: bytes) ('%' :: high :: low :: encoded)

/-- How one byte is encoded, with small digits. -/
def encodeByte (byte : UInt8) : List Char :=
  if isUnreserved byte then [Char.ofNat byte.toNat]
  else ['%', Hexadecimal.digit (byte.toNat / 16), Hexadecimal.digit (byte.toNat % 16)]

/-- **The encoding of a text**, with small digits and spaces escaped. -/
def encode (text : String) : List Char := (Utf8.encode text.toList).flatMap encodeByte

/-- Bytes are encoded one by one. -/
theorem encodes_flatMap (bytes : List UInt8) : Encodes bytes (bytes.flatMap encodeByte) := by
  induction bytes with
  | nil => exact .nil
  | cons byte bytes ih =>
    rw [List.flatMap_cons, encodeByte]
    split
    · next h => exact .unreserved h ih
    · next h =>
      have hbyte : byte.toNat < 256 := byte.toNat_lt
      have hhigh : byte.toNat / 16 < 16 := by omega
      have hlow : byte.toNat % 16 < 16 := by omega
      exact .escaped (Bool.eq_false_iff.mpr h) (Hexadecimal.value?_digit hhigh)
        (Hexadecimal.value?_digit hlow) ih

/-- Bytes that follow each other are encoded one after the other. -/
theorem exists_encodes_append {bytes further : List UInt8} {encoded : List Char}
    (h : Encodes (bytes ++ further) encoded) :
    ∃ first second, encoded = first ++ second ∧ Encodes bytes first ∧ Encodes further second := by
  induction bytes generalizing encoded with
  | nil => exact ⟨[], encoded, rfl, .nil, h⟩
  | cons byte bytes ih =>
    cases h with
    | unreserved hbyte rest =>
      obtain ⟨first, second, rfl, hfirst, hsecond⟩ := ih rest
      exact ⟨_ :: first, second, rfl, .unreserved hbyte hfirst, hsecond⟩
    | plus rest =>
      obtain ⟨first, second, rfl, hfirst, hsecond⟩ := ih rest
      exact ⟨_ :: first, second, rfl, .plus hfirst, hsecond⟩
    | escaped hbyte hhigh hlow rest =>
      obtain ⟨first, second, rfl, hfirst, hsecond⟩ := ih rest
      exact ⟨_ :: _ :: _ :: first, second, rfl, .escaped hbyte hhigh hlow hfirst, hsecond⟩

/-- A byte that is none of ASCII does not stand for itself. -/
theorem isUnreserved_eq_false {byte : UInt8} (h : 128 ≤ byte.toNat) :
    isUnreserved byte = false := by
  have hall : ∀ n : Fin 256, 128 ≤ n.val → isUnreserved (UInt8.ofNat n.val) = false := by
    decide +kernel
  have hbyte := hall ⟨byte.toNat, byte.toNat_lt⟩ h
  rwa [UInt8.ofNat_toNat] at hbyte

/-- **Bytes that are none of ASCII are all escaped.** -/
theorem escapes_of_encodes {bytes : List UInt8} {encoded : List Char} (h : Encodes bytes encoded)
    (hhigh : ∀ byte ∈ bytes, 128 ≤ byte.toNat) : Escapes bytes encoded := by
  induction h with
  | nil => exact .nil
  | @unreserved byte hbyte bytes encoded rest ih =>
    rw [isUnreserved_eq_false (hhigh byte List.mem_cons_self)] at hbyte
    cases hbyte
  | plus rest ih => exact absurd (hhigh 32 List.mem_cons_self) (by decide)
  | escaped _ hfirst hsecond _ ih =>
    exact .cons hfirst hsecond (ih fun byte hbyte => hhigh byte (List.mem_cons_of_mem _ hbyte))

/-- A character of ASCII that is encoded is spelt. -/
theorem spells_of_encodes_ascii {c : Char} (hc : c.val.toNat ≤ 127) {encoded : List Char}
    (h : Encodes [UInt8.ofNat c.val.toNat] encoded) {text spelling : List Char}
    (rest : Spells text spelling) : Spells (c :: text) (encoded ++ spelling) := by
  have hone : String.utf8EncodeChar c = [UInt8.ofNat c.val.toNat] := if_pos hc
  have hlt : c.val.toNat < 256 := by omega
  have hbyte : (UInt8.ofNat c.val.toNat).toNat = c.val.toNat := UInt8.toNat_ofNat_of_lt' hlt
  have hchar : Char.ofNat (UInt8.ofNat c.val.toNat).toNat = c := by
    rw [hbyte]
    exact Char.ofNat_toNat c
  generalize hb : UInt8.ofNat c.val.toNat = byte at h hchar hone
  cases h with
  | unreserved hunreserved hnil =>
    cases hnil
    have hall : ∀ c ∈ reserved, (!isUnreserved (UInt8.ofNat c.val.toNat)) = true :=
      List.all_eq_true.mp (by decide)
    rw [hchar]
    refine .plain (fun hreserved => ?_) rest
    have hnot := hall c hreserved
    rw [hb, hunreserved] at hnot
    cases hnot
  | plus hnil =>
    cases hnil
    obtain rfl : ' ' = c := hchar
    exact .space rest
  | escaped _ hhigh hlow hnil =>
    cases hnil
    refine .escaped ?_ rest
    rw [hone]
    exact .cons hhigh hlow .nil

/-- **An encoding of a text spells it.** -/
theorem spells_of_encodes {text encoded : List Char} (h : Encodes (Utf8.encode text) encoded) :
    Spells text encoded := by
  induction text generalizing encoded with
  | nil =>
    cases h
    exact .nil
  | cons c text ih =>
    rw [Utf8.encode_cons] at h
    obtain ⟨first, second, rfl, hfirst, hsecond⟩ := exists_encodes_append h
    by_cases hc : c.val.toNat ≤ 127
    · have hone : String.utf8EncodeChar c = [UInt8.ofNat c.val.toNat] := if_pos hc
      rw [hone] at hfirst
      exact spells_of_encodes_ascii hc hfirst (ih hsecond)
    · refine .escaped (escapes_of_encodes hfirst fun byte hbyte => ?_) (ih hsecond)
      exact le_toNat_of_mem_utf8EncodeChar (by omega) hbyte

end Form

/-! ### Pairs -/

namespace Params

/-- **That a pair is encoded**: its key and its value are, with an equals sign between them. -/
def EncodesPair (pair : String × String) (piece : List Char) : Prop :=
  ∃ key value, Form.Encodes (Utf8.encode pair.1.toList) key ∧
    Form.Encodes (Utf8.encode pair.2.toList) value ∧ piece = key ++ '=' :: value

/-- **That a query string encodes some pairs**: its pieces, with ampersands between them, encode
them one by one, unless they are empty. A question mark may stand in front. -/
def Encodes (pairs : List (String × String)) (raw : String) : Prop :=
  ∃ chunks : List (List Char),
    List.Forall₂ EncodesPair pairs (chunks.filter (!·.isEmpty)) ∧
      (raw.toList = ['&'].intercalate chunks ∨ raw.toList = '?' :: ['&'].intercalate chunks)

/-- The encoding of a pair. -/
def encodePair (pair : String × String) : List Char :=
  Form.encode pair.1 ++ '=' :: Form.encode pair.2

/-- **The encoding of some pairs**, without a question mark and without empty pieces. -/
def encode (pairs : List (String × String)) : String :=
  String.ofList (['&'].intercalate (pairs.map encodePair))

/-- The encoding of pairs encodes them. -/
theorem encodes_encode (pairs : List (String × String)) : Encodes pairs (encode pairs) := by
  have hfull : (pairs.map encodePair).filter (!·.isEmpty) = pairs.map encodePair := by
    refine List.filter_eq_self.mpr (List.forall_mem_map.mpr fun pair _ => ?_)
    simp [encodePair]
  refine ⟨pairs.map encodePair, ?_, Or.inl String.toList_ofList⟩
  rw [hfull, List.forall₂_map_right_iff, List.forall₂_same]
  exact fun pair _ => ⟨_, _, Form.encodes_flatMap _, Form.encodes_flatMap _, rfl⟩

/-- A query string that encodes pairs spells them. -/
theorem spells_of_encodes {pairs : List (String × String)} {raw : String} (h : Encodes pairs raw) :
    Spells pairs raw := by
  obtain ⟨chunks, hpairs, hraw⟩ := h
  refine ⟨chunks, hpairs.imp fun pair piece hpair => ?_, hraw⟩
  obtain ⟨key, value, hkey, hvalue, rfl⟩ := hpair
  exact ⟨key, value, Form.spells_of_encodes hkey, Form.spells_of_encodes hvalue, rfl⟩

/-- **What is encoded is read back**: there is a query string that encodes given pairs, and each one
is read as the parameters that the pairs make. -/
theorem ofQueryString_of_encodes (pairs : List (String × String)) :
    Encodes pairs (encode pairs) ∧
      ∀ raw, Encodes pairs raw → ofQueryString raw = ofPairs pairs :=
  ⟨encodes_encode pairs, fun _ hraw => ofQueryString_of_spells (spells_of_encodes hraw)⟩

/-- Pairs with the signs of a query string in them, and with nothing in them. -/
def signs : List (String × String) := [("é&", " +"), ("", ""), ("é&", "%2b=?")]

/-- They are read from an encoding in digits of both cases, with ampersands to spare. -/
theorem ofQueryString_of_encodes_signs :
    encode signs = "%c3%a9%26=%20%2b&=&%c3%a9%26=%252b%3d%3f" ∧
      Encodes signs "?&%C3%a9%26=+%2B&&=&%c3%A9%26=%252b%3D%3f" ∧
      ofQueryString "?&%C3%a9%26=+%2B&&=&%c3%A9%26=%252b%3D%3f" = ofPairs signs := by
  have hkey : Form.Encodes (Utf8.encode "é&".toList) "%C3%a9%26".toList :=
    .escaped (by decide) (by decide) (by decide) <|
      .escaped (by decide) (by decide) (by decide) <|
        .escaped (by decide) (by decide) (by decide) .nil
  have hkey' : Form.Encodes (Utf8.encode "é&".toList) "%c3%A9%26".toList :=
    .escaped (by decide) (by decide) (by decide) <|
      .escaped (by decide) (by decide) (by decide) <|
        .escaped (by decide) (by decide) (by decide) .nil
  have hvalue : Form.Encodes (Utf8.encode " +".toList) "+%2B".toList :=
    .plus <| .escaped (by decide) (by decide) (by decide) .nil
  have hvalue' : Form.Encodes (Utf8.encode "%2b=?".toList) "%252b%3D%3f".toList :=
    .escaped (by decide) (by decide) (by decide) <|
      .unreserved (by decide) <| .unreserved (by decide) <|
        .escaped (by decide) (by decide) (by decide) <|
          .escaped (by decide) (by decide) (by decide) .nil
  have hencodes : Encodes signs "?&%C3%a9%26=+%2B&&=&%c3%A9%26=%252b%3D%3f" :=
    ⟨["", "%C3%a9%26=+%2B", "", "=", "%c3%A9%26=%252b%3D%3f"].map String.toList,
      .cons ⟨_, _, hkey, hvalue, rfl⟩ <| .cons ⟨[], [], .nil, .nil, rfl⟩ <|
        .cons ⟨_, _, hkey', hvalue', rfl⟩ .nil, Or.inr (by decide)⟩
  exact ⟨by decide +kernel, hencodes, (ofQueryString_of_encodes signs).2 _ hencodes⟩

end Params

end QueryGate
