/-!
# Decimal numerals

The decimal digits of a natural number, its text with and without a sign, and the value of a run of
digits. Every number that leaves this library is written from here, so its form is settled once: no
leading zeros, a minus sign for a negative number and none for zero.
-/

namespace QueryGate.Decimal

/-- The character of a digit. -/
def digitChar (d : Nat) : Char := Char.ofNat (48 + d)

/-- **The digits of a number**, the most significant first, without leading zeros. -/
def digits (n : Nat) : List Char :=
  if n < 10 then [digitChar n] else digits (n / 10) ++ [digitChar (n % 10)]

/-- The text of a natural number. -/
def ofNat (n : Nat) : String := String.ofList (digits n)

/-- The text of an integer. -/
def ofInt : Int → String
  | .ofNat n => ofNat n
  | .negSucc n => "-" ++ ofNat (n + 1)

/-- Digits filled up on the left to a width; a number that is wider keeps all its digits. -/
def filled (fill : Char) (width n : Nat) : List Char :=
  List.replicate (width - (digits n).length) fill ++ digits n

/-- The value of a digit of ASCII. -/
def digitValue? (c : Char) : Option Nat :=
  if '0' ≤ c ∧ c ≤ '9' then some (c.toNat - 48) else none

/-- The value of a run of digits; a character that is no digit counts as zero. -/
def value (cs : List Char) : Nat :=
  cs.foldl (fun n c => 10 * n + (digitValue? c).getD 0) 0

/-- A number below ten is one digit. -/
theorem digits_of_lt {n : Nat} (h : n < 10) : digits n = [digitChar n] := by
  rw [digits, if_pos h]

/-- A number from ten on ends with its last digit. -/
theorem digits_of_ge {n : Nat} (h : 10 ≤ n) :
    digits n = digits (n / 10) ++ [digitChar (n % 10)] := by
  rw [digits, if_neg (Nat.not_lt.mpr h)]

end QueryGate.Decimal
