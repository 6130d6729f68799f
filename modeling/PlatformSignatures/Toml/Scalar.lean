import PlatformSignatures.Toml.Basic
import PlatformSignatures.Toml.Lexical

/-!
# Numbers, dates and times of TOML

Digits of a number may be set apart by single underscores.  A whole number has 64 bits.  A
fractional number may not be too large, while one that is too small in the negative is taken to be
infinite.
-/

namespace PlatformSignatures

namespace Toml

/-! ### Digits -/

/-- Reads one digit that satisfies a test. -/
def digit (test : Char → Bool) : List Char → Option (Char × List Char)
  | c :: cs => if test c then some (c, cs) else none
  | [] => none

/-- Reads further digits, each of which may have an underscore before it.  The number bounds how
many there may be. -/
def moreDigits (test : Char → Bool) : Nat → List Char → Option (List Char × List Char)
  | 0, cs => some ([], cs)
  | fuel + 1, cs =>
    match cs with
    | '_' :: cs => do
      let (d, cs) ← digit test cs
      let (ds, cs) ← moreDigits test fuel cs
      return (d :: ds, cs)
    | c :: cs =>
      if test c then do
        let (ds, cs) ← moreDigits test fuel cs
        return (c :: ds, cs)
      else some ([], c :: cs)
    | [] => some ([], [])

/-- Reads digits, of which there must be one. -/
def digits (test : Char → Bool) (cs : List Char) : Option (List Char × List Char) := do
  let (d, cs) ← digit test cs
  let (ds, cs) ← moreDigits test cs.length cs
  return (d :: ds, cs)

/-- Reads a sign, if there is one; it is told whether the sign is a minus. -/
def sign : List Char → Bool × List Char
  | '+' :: cs => (false, cs)
  | '-' :: cs => (true, cs)
  | cs => (false, cs)

/-- Reads decimal digits without a leading zero. -/
def wholeDigits : List Char → Option (List Char × List Char)
  | '0' :: cs => some (['0'], cs)
  | cs => digits Text.isDigit cs

/-! ### Whole numbers -/

/-- A whole number, if it has no more than 64 bits. -/
def bounded (n : Int) : Option Toml :=
  if -9223372036854775808 ≤ n ∧ n ≤ 9223372036854775807 then some (integer n) else none

/-- The number written by digits to a base. -/
def ofBase (base : Nat) (ds : List Char) : Nat :=
  ds.foldl (fun n d => n * base + (Text.hexValue? d).getD 0) 0

/-- Reads a whole number to a base of its own. -/
def basedInteger (base : Nat) (cs : List Char) : Option (Toml × List Char) := do
  let (ds, cs) ← digits (fun c => (Text.hexValue? c).any (· < base)) cs
  return (← bounded (ofBase base ds), cs)

/-- Reads a whole number. -/
def wholeNumber : List Char → Option (Toml × List Char)
  | '0' :: 'x' :: cs => basedInteger 16 cs
  | '0' :: 'o' :: cs => basedInteger 8 cs
  | '0' :: 'b' :: cs => basedInteger 2 cs
  | cs => do
    let (negative, cs) := sign cs
    let (ds, cs) ← wholeDigits cs
    let n : Int := Text.ofDigits ds
    return (← bounded (if negative then -n else n), cs)

/-! ### Fractional numbers -/

/-- Reads a point and the digits after it. -/
def fraction : List Char → Option (List Char × List Char)
  | '.' :: cs => digits Text.isDigit cs
  | _ => none

/-- Reads a power of ten. -/
def power : List Char → Option (Int × List Char)
  | e :: cs => do
    if e ≠ 'e' ∧ e ≠ 'E' then none
    let (negative, cs) := sign cs
    let (ds, cs) ← digits Text.isDigit cs
    let n : Int := Text.ofDigits ds
    return (if negative then -n else n, cs)
  | [] => none

/-- What is left after a fractional number in digits. -/
def decimalEnd (cs : List Char) : Option (List Char) := do
  let (negative, cs) := sign cs
  let (whole, cs) ← wholeDigits cs
  let (part, exponent, cs) ← match fraction cs with
    | none => do
      let (exponent, cs) ← power cs
      pure ([], exponent, cs)
    | some (part, cs) =>
      match power cs with
      | none => pure (part, 0, cs)
      | some (exponent, cs) => pure (part, exponent, cs)
  if !negative && Text.overflows (whole ++ part) (exponent - part.length) then none
  else return cs

/-- What is left after an infinity or an undefined number. -/
def specialEnd (cs : List Char) : Option (List Char) :=
  match (sign cs).2 with
  | 'i' :: 'n' :: 'f' :: cs => some cs
  | 'n' :: 'a' :: 'n' :: cs => some cs
  | _ => none

/-! ### Dates and times -/

/-- Reads a number of a fixed count of digits. -/
def fixedDigits (count : Nat) (cs : List Char) : Option (Nat × List Char) :=
  let ds := cs.take count
  if ds.length = count ∧ ds.all Text.isDigit then some (Text.ofDigits ds, cs.drop count) else none

/-- The characters after a fixed one. -/
def skip? (c : Char) : List Char → Option (List Char)
  | d :: cs => if d = c then some cs else none
  | [] => none

/-- The number of days of a month. -/
def daysOfMonth (year month : Nat) : Nat :=
  if month = 2 then
    if year % 4 = 0 ∧ (year % 100 ≠ 0 ∨ year % 400 = 0) then 29 else 28
  else if month ∈ [4, 6, 9, 11] then 30
  else 31

/-- What is left after a date. -/
def dateEnd (cs : List Char) : Option (List Char) := do
  let (year, cs) ← fixedDigits 4 cs
  let (month, cs) ← fixedDigits 2 (← skip? '-' cs)
  let (day, cs) ← fixedDigits 2 (← skip? '-' cs)
  if 1 ≤ month ∧ month ≤ 12 ∧ 1 ≤ day ∧ day ≤ daysOfMonth year month then return cs else none

/-- What is left after hours and minutes. -/
def minutesEnd (cs : List Char) : Option (List Char) := do
  let (hour, cs) ← fixedDigits 2 cs
  let (minute, cs) ← fixedDigits 2 (← skip? ':' cs)
  if hour ≤ 23 ∧ minute ≤ 59 then return cs else none

/-- What is left after a time of day, which may have a leap second and a fraction. -/
def timeEnd (cs : List Char) : Option (List Char) := do
  let (second, cs) ← fixedDigits 2 (← skip? ':' (← minutesEnd cs))
  if 60 < second then none
  match cs with
  | '.' :: d :: rest => if Text.isDigit d then return rest.dropWhile Text.isDigit else return cs
  | _ => return cs

/-- What is left after an offset from universal time, if there is one. -/
def offsetEnd : List Char → Option (List Char)
  | 'Z' :: cs => some cs
  | 'z' :: cs => some cs
  | '+' :: cs => minutesEnd cs
  | '-' :: cs => minutesEnd cs
  | cs => some cs

/-- What is left after a date, a time of day, or both. -/
def dateTimeEnd (cs : List Char) : Option (List Char) :=
  match dateEnd cs with
  | none => timeEnd cs
  | some rest =>
    match rest with
    | c :: after =>
      if c = 'T' ∨ c = 't' ∨ c = ' ' then
        match timeEnd after with
        | some after => offsetEnd after
        | none => some rest
      else some rest
    | [] => some []

/-! ### Numbers, dates and times -/

/-- The literal between two places of a text. -/
def literalBetween (start rest : List Char) : String :=
  String.ofList (start.take (start.length - rest.length))

/-- Reads a number, a date or a time. -/
def numberLike (cs : List Char) : Option (Toml × List Char) :=
  match dateTimeEnd cs with
  | some rest => some (dateTime (literalBetween cs rest), rest)
  | none =>
    match (decimalEnd cs).or (specialEnd cs) with
    | some rest => some (float (literalBetween cs rest), rest)
    | none => wholeNumber cs

end Toml

end PlatformSignatures
