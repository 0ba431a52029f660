/-!
# Hexadecimal digits

Digits to the base sixteen. They are written in lower case and read in either case
(`QueryGate.Hexadecimal.value?_digit`).
-/

namespace QueryGate.Hexadecimal

/-- The character of a digit. -/
def digit (d : Nat) : Char := if d < 10 then Char.ofNat (48 + d) else Char.ofNat (87 + d)

/-- The value of a digit. -/
def value? (c : Char) : Option Nat :=
  if '0' ≤ c ∧ c ≤ '9' then some (c.toNat - 48)
  else if 'A' ≤ c ∧ c ≤ 'F' then some (c.toNat - 55)
  else if 'a' ≤ c ∧ c ≤ 'f' then some (c.toNat - 87)
  else none

/-- **The digits of a number**, the most significant first, without leading zeros. -/
def digits (n : Nat) : List Char :=
  if n < 16 then [digit n] else digits (n / 16) ++ [digit (n % 16)]

/-- A digit is read as it was written. -/
theorem value?_digit {d : Nat} (h : d < 16) : value? (digit d) = some d := by
  have all : ∀ d : Fin 16, value? (digit d) = some d.val := by decide
  exact all ⟨d, h⟩

end QueryGate.Hexadecimal
