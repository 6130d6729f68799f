import PlatformSignatures.Json.Basic
import PlatformSignatures.Json.Magnitude

/-!
# Reading JSON

A reader takes a list of characters and gives what it has read and the characters that are left.
There are two faults: the text ends too early, or it is malformed.  Arrays and objects may be
nested to a depth of 127.  A number must not be too large.
-/

namespace PlatformSignatures

namespace Json

/-- Why a text cannot be read. -/
inductive Fault where
  /-- The text ends too early. -/
  | ended
  /-- The text goes on with something that cannot stand there. -/
  | malformed
  deriving DecidableEq

/-- The greatest depth of arrays and objects in one another. -/
def maxDepth : Nat := 127

/-! ### Space and fixed words -/

/-- Whether a character is space between tokens. -/
def isSpace (c : Char) : Bool :=
  c = ' ' || c = '\t' || c = '\n' || c = '\r'

/-- The characters after the space at the start of a text. -/
def skipSpace (cs : List Char) : List Char :=
  cs.dropWhile isSpace

/-- Reads the rest of a fixed word. -/
def word {α : Type} (value : α) : List Char → List Char → Except Fault (α × List Char)
  | [], cs => .ok (value, cs)
  | _ :: _, [] => .error .ended
  | w :: ws, c :: cs => if c = w then word value ws cs else .error .malformed

/-! ### Strings -/

/-- The number of bytes that the characters take in UTF-8. -/
def byteLength (cs : List Char) : Nat :=
  cs.foldl (fun n c => n + c.utf8Size) 0

/-- Reads the four digits of an escaped code; with fewer than four bytes left the text ends too
early. -/
def code (cs : List Char) : Except Fault (Nat × List Char) :=
  let read := match cs with
    | a :: b :: c :: d :: rest => (Text.ofHex? [a, b, c, d]).map fun n => (n, rest)
    | _ => none
  match read with
  | some r => .ok r
  | none => .error (if byteLength cs < 4 then .ended else .malformed)

/-- Whether a code is the first half of a pair. -/
def isLeading (n : Nat) : Bool :=
  0xD800 ≤ n && n ≤ 0xDBFF

/-- Whether a code is the second half of a pair. -/
def isTrailing (n : Nat) : Bool :=
  0xDC00 ≤ n && n ≤ 0xDFFF

/-- Reads the second half of a pair. -/
def trailing (leading : Nat) : List Char → Except Fault (Char × List Char)
  | [] => .error .ended
  | ['\\'] => .error .ended
  | '\\' :: 'u' :: cs => do
    let (n, rest) ← code cs
    if isTrailing n then
      return (Char.ofNat (0x10000 + (leading - 0xD800) * 0x400 + (n - 0xDC00)), rest)
    else .error .malformed
  | _ => .error .malformed

/-- Reads the character that an escaped code stands for, which may be written as a pair. -/
def escapedCode (cs : List Char) : Except Fault (Char × List Char) := do
  let (n, rest) ← code cs
  if isTrailing n then .error .malformed
  else if isLeading n then trailing n rest
  else return (Char.ofNat n, rest)

/-- Reads what follows a backslash. -/
def escaped : List Char → Except Fault (Char × List Char)
  | [] => .error .ended
  | '"' :: cs => .ok ('"', cs)
  | '\\' :: cs => .ok ('\\', cs)
  | '/' :: cs => .ok ('/', cs)
  | 'b' :: cs => .ok ('\x08', cs)
  | 'f' :: cs => .ok ('\x0c', cs)
  | 'n' :: cs => .ok ('\n', cs)
  | 'r' :: cs => .ok ('\r', cs)
  | 't' :: cs => .ok ('\t', cs)
  | 'u' :: cs => escapedCode cs
  | _ => .error .malformed

/-- Reads a string to its closing quote.  The characters read so far are given in reverse, and the
number bounds how many more there may be. -/
def stringRest : Nat → List Char → List Char → Except Fault (String × List Char)
  | 0, _, _ => .error .ended
  | fuel + 1, done, cs =>
    match cs with
    | [] => .error .ended
    | '"' :: rest => .ok (String.ofList done.reverse, rest)
    | '\\' :: rest => do
      let (c, rest) ← escaped rest
      stringRest fuel (c :: done) rest
    | c :: rest => if c.toNat < 32 then .error .malformed else stringRest fuel (c :: done) rest

/-- Reads a string after its opening quote. -/
def stringBody (cs : List Char) : Except Fault (String × List Char) :=
  stringRest (cs.length + 1) [] cs

/-! ### Numbers -/

/-- The digits at the start of a text, of which there must be one. -/
def digits (cs : List Char) : Except Fault (List Char × List Char) :=
  match cs.span Text.isDigit with
  | ([], []) => .error .ended
  | ([], _ :: _) => .error .malformed
  | (ds, rest) => .ok (ds, rest)

/-- Reads the digits before the point, which have no leading zero. -/
def integerPart : List Char → Except Fault (List Char × List Char)
  | '0' :: d :: rest => if Text.isDigit d then .error .malformed else .ok (['0'], d :: rest)
  | cs => digits cs

/-- Reads a point and the digits after it, if there is one. -/
def fraction : List Char → Except Fault (List Char × List Char)
  | '.' :: cs => digits cs
  | cs => .ok ([], cs)

/-- Reads a power of ten, if there is one, as it is written and as a number. -/
def exponentPart : List Char → Except Fault ((List Char × Int) × List Char)
  | [] => .ok (([], 0), [])
  | e :: cs =>
    if e ≠ 'e' ∧ e ≠ 'E' then .ok (([], 0), e :: cs)
    else match cs with
      | '-' :: cs => do
        let (ds, rest) ← digits cs
        return ((e :: '-' :: ds, - (Text.ofDigits ds : Int)), rest)
      | '+' :: cs => do
        let (ds, rest) ← digits cs
        return ((e :: '+' :: ds, (Text.ofDigits ds : Int)), rest)
      | cs => do
        let (ds, rest) ← digits cs
        return ((e :: ds, (Text.ofDigits ds : Int)), rest)

/-- Reads a number without sign. -/
def magnitude (cs : List Char) : Except Fault (List Char × List Char) := do
  let (whole, cs) ← integerPart cs
  let (part, cs) ← fraction cs
  let ((power, exponent), cs) ← exponentPart cs
  if overflows whole part exponent then .error .malformed
  else return (whole ++ (if part.isEmpty then [] else '.' :: part) ++ power, cs)

/-- Reads a number. -/
def numeral : List Char → Except Fault (Json × List Char)
  | '-' :: cs => do
    let (literal, rest) ← magnitude cs
    return (number (String.ofList ('-' :: literal)), rest)
  | cs => do
    let (literal, rest) ← magnitude cs
    return (number (String.ofList literal), rest)

/-! ### Arrays and objects -/

/-- Reads the values of an array from its first value to its closing bracket, by a reader for one
value.  The number bounds how many values there may be. -/
def elements (value : List Char → Except Fault (Json × List Char)) :
    Nat → List Char → Except Fault (List Json × List Char)
  | 0, _ => .error .ended
  | fuel + 1, cs => do
    let (v, cs) ← value cs
    match skipSpace cs with
    | [] => .error .ended
    | ']' :: cs => return ([v], cs)
    | ',' :: cs => do
      let (vs, cs) ← elements value fuel cs
      return (v :: vs, cs)
    | _ => .error .malformed

/-- Reads one member of an object, by a reader for its value. -/
def member (value : List Char → Except Fault (Json × List Char)) (cs : List Char) :
    Except Fault ((String × Json) × List Char) := do
  match skipSpace cs with
  | [] => .error .ended
  | '"' :: cs => do
    let (name, cs) ← stringBody cs
    match skipSpace cs with
    | [] => .error .ended
    | ':' :: cs => do
      let (v, cs) ← value cs
      return ((name, v), cs)
    | _ => .error .malformed
  | _ => .error .malformed

/-- Reads the members of an object from its first member to its closing brace, by a reader for one
value.  The number bounds how many members there may be. -/
def members (value : List Char → Except Fault (Json × List Char)) :
    Nat → List Char → Except Fault (List (String × Json) × List Char)
  | 0, _ => .error .ended
  | fuel + 1, cs => do
    let (m, cs) ← member value cs
    match skipSpace cs with
    | [] => .error .ended
    | '\x7d' :: cs => return ([m], cs)
    | ',' :: cs => do
      let (ms, cs) ← members value fuel cs
      return (m :: ms, cs)
    | _ => .error .malformed

/-- Reads what is inside an array, by a reader for one value. -/
def arrayBody (value : List Char → Except Fault (Json × List Char)) (cs : List Char) :
    Except Fault (Json × List Char) :=
  match skipSpace cs with
  | ']' :: rest => .ok (array [], rest)
  | cs => do
    let (vs, rest) ← elements value cs.length cs
    return (array vs, rest)

/-- Reads what is inside an object, by a reader for one value. -/
def objectBody (value : List Char → Except Fault (Json × List Char)) (cs : List Char) :
    Except Fault (Json × List Char) :=
  match skipSpace cs with
  | '\x7d' :: rest => .ok (object [], rest)
  | cs => do
    let (ms, rest) ← members value cs.length cs
    return (object ms, rest)

/-- Reads a value in which arrays and objects are nested to no more than a depth. -/
def value : Nat → List Char → Except Fault (Json × List Char)
  | room, cs =>
    match skipSpace cs with
    | [] => .error .ended
    | 'n' :: cs => word null ['u', 'l', 'l'] cs
    | 't' :: cs => word (bool true) ['r', 'u', 'e'] cs
    | 'f' :: cs => word (bool false) ['a', 'l', 's', 'e'] cs
    | '"' :: cs => do
      let (s, rest) ← stringBody cs
      return (string s, rest)
    | '[' :: cs =>
      match room with
      | 0 => .error .malformed
      | room + 1 => arrayBody (value room) cs
    | '\x7b' :: cs =>
      match room with
      | 0 => .error .malformed
      | room + 1 => objectBody (value room) cs
    | c :: cs => if c = '-' || Text.isDigit c then numeral (c :: cs) else .error .malformed

/-- Reads a text that is one value with space around it. -/
def read (text : String) : Except Fault Json := do
  let (v, rest) ← value maxDepth text.toList
  if (skipSpace rest).isEmpty then return v else .error .malformed

end Json

end PlatformSignatures
