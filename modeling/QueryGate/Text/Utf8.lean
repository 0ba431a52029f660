/-!
# Characters out of bytes

A percent-decoded parameter is a sequence of bytes that nobody promises to be text. This module
reads such a sequence as UTF-8 and never fails: what is not UTF-8 is read as the replacement
character, and everything else is kept.

## How much one replacement stands for

A character is a lead byte and up to three tails. Four leads restrict their first tail, so that no
character is written longer than it has to be, no half of a surrogate pair is written at all and
nothing lies beyond the last code point. When a tail is missing or out of place, the lead and the
tails before it are one broken character, hence **one** replacement, and the byte that broke it
starts afresh: it may be a character of its own. `QueryGate.Utf8.decodeFrom` is that rule as a
machine that looks at each byte once.
-/

namespace QueryGate.Utf8

/-- The character that stands for bytes that spell none. -/
def replacement : Char := Char.ofNat 0xFFFD

/-- **Where the reader stands between two bytes**: between characters, or inside one. -/
inductive Progress where
  /-- Between characters. -/
  | boundary
  /-- Inside a character: the code point read so far, how many tails are still owed after the
  next one, and the least and the greatest byte that the next one may be. -/
  | inside (code : Nat) (owed : Nat) (least greatest : Nat)
  deriving DecidableEq, Repr

/-- **What a byte does at a boundary**: the characters it completes, and where the reader stands
after it. A byte that can lead nothing is a broken character by itself. -/
def lead (b : Nat) : List Char × Progress :=
  if b < 0x80 then ([Char.ofNat b], .boundary)
  else if b < 0xC2 then ([replacement], .boundary)
  else if b < 0xE0 then ([], .inside (b - 0xC0) 0 0x80 0xBF)
  else if b = 0xE0 then ([], .inside 0 1 0xA0 0xBF)
  else if b = 0xED then ([], .inside 0xD 1 0x80 0x9F)
  else if b < 0xF0 then ([], .inside (b - 0xE0) 1 0x80 0xBF)
  else if b = 0xF0 then ([], .inside 0 2 0x90 0xBF)
  else if b < 0xF4 then ([], .inside (b - 0xF0) 2 0x80 0xBF)
  else if b = 0xF4 then ([], .inside 4 2 0x80 0x8F)
  else ([replacement], .boundary)

/-- The code point once a tail has been read: six more bits. -/
def extend (code tail : Nat) : Nat := code * 64 + tail % 64

/-- **The characters of a byte sequence**, read from a given place. A text that stops inside a
character ends with one replacement. -/
def decodeFrom : Progress → List UInt8 → List Char
  | .boundary, [] => []
  | .inside _ _ _ _, [] => [replacement]
  | .boundary, b :: rest => (lead b.toNat).1 ++ decodeFrom (lead b.toNat).2 rest
  | .inside code owed least greatest, b :: rest =>
    if least ≤ b.toNat ∧ b.toNat ≤ greatest then
      match owed with
      | 0 => Char.ofNat (extend code b.toNat) :: decodeFrom .boundary rest
      | more + 1 => decodeFrom (.inside (extend code b.toNat) more 0x80 0xBF) rest
    else
      replacement :: ((lead b.toNat).1 ++ decodeFrom (lead b.toNat).2 rest)

/-- The characters of a byte sequence. -/
def decode (bytes : List UInt8) : List Char := decodeFrom .boundary bytes

/-- The bytes of a character sequence. -/
def encode (cs : List Char) : List UInt8 := cs.flatMap String.utf8EncodeChar

/-- How many bytes a character sequence takes. -/
def size : List Char → Nat
  | [] => 0
  | c :: cs => c.utf8Size + size cs

@[simp] theorem decode_nil : decode [] = [] := rfl

@[simp] theorem encode_nil : encode [] = [] := rfl

@[simp] theorem encode_cons (c : Char) (cs : List Char) :
    encode (c :: cs) = String.utf8EncodeChar c ++ encode cs := by simp [encode]

@[simp] theorem encode_append (cs ds : List Char) : encode (cs ++ ds) = encode cs ++ encode ds := by
  simp [encode]

end QueryGate.Utf8
