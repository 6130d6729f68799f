/-!
# Digits

Decimal and hexadecimal digits, and the question whether a decimal number is too large for a
double-precision number.
-/

namespace PlatformSignatures

namespace Text

/-- Whether a character is a decimal digit. -/
def isDigit (c : Char) : Bool :=
  '0' ≤ c && c ≤ '9'

/-- A number with one more decimal digit written after it. -/
def withDigit (n : Nat) (d : Char) : Nat :=
  n * 10 + (d.toNat - 48)

/-- The number written by decimal digits. -/
def ofDigits (ds : List Char) : Nat :=
  ds.foldl withDigit 0

/-- The value of a hexadecimal digit. -/
def hexValue? (c : Char) : Option Nat :=
  if '0' ≤ c ∧ c ≤ '9' then some (c.toNat - 48)
  else if 'a' ≤ c ∧ c ≤ 'f' then some (c.toNat - 87)
  else if 'A' ≤ c ∧ c ≤ 'F' then some (c.toNat - 55)
  else none

/-- The number written by hexadecimal digits, if they all are. -/
def ofHex? (ds : List Char) : Option Nat :=
  ds.foldlM (fun n d => do return n * 16 + (← hexValue? d)) 0

/-- The least number that is rounded to infinity. -/
def overflowBound : Nat := Nat.pow 2 1024 - Nat.pow 2 970

/-- Whether a number with the given significant digits and power of ten is too large. -/
def overflows (significand : List Char) (exponent : Int) : Bool :=
  let ds := significand.dropWhile (· = '0')
  let magnitude := (ds.length : Int) + exponent
  if ds.isEmpty || magnitude < 308 then false
  else if 310 < magnitude then true
  else if 0 ≤ exponent then overflowBound ≤ ofDigits ds * Nat.pow 10 exponent.toNat
  else overflowBound * Nat.pow 10 (-exponent).toNat ≤ ofDigits ds

end Text

end PlatformSignatures
