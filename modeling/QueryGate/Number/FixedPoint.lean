import QueryGate.Number.Binary
import QueryGate.Number.Decimal

/-!
# Floating-point numbers with fixed places

A finite number with a given number of digits after the point: the decimal with that many places
that is nearest to the exact value, a tie going to the even last digit. The sign is the sign bit's,
so a negative zero and a negative number that rounds to zero both keep their minus sign.
-/

namespace QueryGate.Binary64

/-- **The text of a finite number with fixed places.** -/
def fixed (places : Nat) (x : Binary64) : String :=
  let n := roundHalfEven (x.units * Nat.pow 10 places) one
  (if x.negative then "-" else "") ++ Decimal.ofNat (n / Nat.pow 10 places) ++ "." ++
    String.ofList (Decimal.filled '0' places (n % Nat.pow 10 places))

end QueryGate.Binary64
