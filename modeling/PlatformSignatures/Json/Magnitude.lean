import PlatformSignatures.Text.Digits

/-!
# The size of numbers

A number is a significand times a power of ten.  The significand has the first digits of the
number, as many as fit in 64 bits; the other digits before the point only count for the power of
ten, and the other digits after it for nothing.  The significand, the power and at last their
product are rounded to double precision, and the number is too large if the product is no finite
number.  Since it is rounded three times, a number may come out as too large although a
double-precision number is near.
-/

namespace PlatformSignatures

namespace Json

/-! ### Double precision -/

/-- The nearest number that has at most 53 significant bits; of two that are equally near, the one
that is an even multiple of its last place. -/
def roundToDouble (n : Nat) : Nat :=
  let place := Nat.pow 2 (Nat.log2 n - 52)
  let multiple := n / place
  let rest := 2 * (n % place)
  if rest < place ∨ rest = place ∧ multiple % 2 = 0 then multiple * place
  else (multiple + 1) * place

/-- The least number that is too large for double precision. -/
def doubleBound : Nat := Nat.pow 2 1024

/-! ### Significands -/

/-- The least number that does not fit in 64 bits. -/
def significandBound : Nat := Nat.pow 2 64

/-- Writes digits after a significand as long as it fits in 64 bits, and gives the digits that are
left. -/
def extendSignificand (significand : Nat) : List Char → Nat × List Char
  | [] => (significand, [])
  | d :: ds =>
    if Text.withDigit significand d < significandBound then
      extendSignificand (Text.withDigit significand d) ds
    else (significand, d :: ds)

/-! ### Numbers -/

/-- Whether a significand times a power of ten is too large. -/
def isTooLarge (significand : Nat) (exponent : Int) : Bool :=
  if significand = 0 ∨ exponent < 0 then false
  else if 308 < exponent then true
  else
    doubleBound ≤
      roundToDouble (roundToDouble significand * roundToDouble (Nat.pow 10 exponent.toNat))

/-- Whether a number with the given digits before the point, digits after it and power of ten is
too large. -/
def overflows (whole fraction : List Char) (exponent : Int) : Bool :=
  let (significand, left) := extendSignificand 0 whole
  let (significand, dropped) := extendSignificand significand fraction
  isTooLarge significand (exponent + left.length - (fraction.length - dropped.length : Nat))

end Json

end PlatformSignatures
