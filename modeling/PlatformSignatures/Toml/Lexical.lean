import PlatformSignatures.Text.Digits

/-!
# Space, line ends and strings of TOML

Readers take a list of characters and give what they have read and the characters that are left.
A line ends with a line feed, which may follow a carriage return; inside strings on several lines
a line end counts as a line feed.
-/

namespace PlatformSignatures

namespace Toml

/-! ### Space and lines -/

/-- Whether a character is space inside a line. -/
def isBlank (c : Char) : Bool :=
  c = ' ' || c = '\t'

/-- The characters after the space at the start of a text. -/
def skipBlanks (cs : List Char) : List Char :=
  cs.dropWhile isBlank

/-- Whether a character may stand inside a line: a tab or no control character. -/
def isPlain (c : Char) : Bool :=
  c = '\t' || (32 ≤ c.toNat && c.toNat ≠ 127)

/-- The characters after a line end, if the text begins with one. -/
def newline? : List Char → Option (List Char)
  | '\n' :: cs => some cs
  | '\r' :: '\n' :: cs => some cs
  | _ => none

/-- The characters after a comment, if there is one. -/
def skipComment : List Char → List Char
  | '#' :: cs => cs.dropWhile isPlain
  | cs => cs

/-- The characters after the rest of a line, on which there is at most a comment. -/
def lineEnd? (cs : List Char) : Option (List Char) :=
  match skipComment (skipBlanks cs) with
  | [] => some []
  | cs => newline? cs

/-- The characters after space, comments and line ends.  The number bounds how many lines there
may be. -/
def skipLines : Nat → List Char → Option (List Char)
  | 0, cs => some cs
  | fuel + 1, cs =>
    match skipBlanks cs with
    | [] => some []
    | c :: rest =>
      if c = '#' || c = '\n' || c = '\r' then do skipLines fuel (← lineEnd? (c :: rest))
      else some (c :: rest)

/-- The characters after all space, comments and line ends. -/
def skipSpace (cs : List Char) : Option (List Char) :=
  skipLines (cs.length + 1) cs

/-! ### Escapes -/

/-- Reads the digits of an escaped code, of which there is a fixed number. -/
def escapedCode (count : Nat) (cs : List Char) : Option (Char × List Char) := do
  let ds := cs.take count
  let n ← Text.ofHex? ds
  if ds.length = count ∧ n.isValidChar then return (Char.ofNat n, cs.drop count) else none

/-- Reads what follows a backslash. -/
def escaped : List Char → Option (Char × List Char)
  | 'b' :: cs => some ('\x08', cs)
  | 't' :: cs => some ('\t', cs)
  | 'n' :: cs => some ('\n', cs)
  | 'f' :: cs => some ('\x0c', cs)
  | 'r' :: cs => some ('\r', cs)
  | '"' :: cs => some ('"', cs)
  | '\\' :: cs => some ('\\', cs)
  | 'u' :: cs => escapedCode 4 cs
  | 'U' :: cs => escapedCode 8 cs
  | _ => none

/-- The characters after space and line ends.  The number bounds how many lines there may be. -/
def skipBlankLines : Nat → List Char → List Char
  | 0, cs => cs
  | fuel + 1, cs =>
    match newline? (skipBlanks cs) with
    | some rest => skipBlankLines fuel rest
    | none => skipBlanks cs

/-- The characters after the rest of a line that ends in a backslash, and after all space and line
ends that follow. -/
def continuation? (cs : List Char) : Option (List Char) := do
  let rest ← newline? (skipBlanks cs)
  return skipBlankLines (rest.length + 1) rest

/-! ### Strings -/

/-- Reads a string with escapes to its closing quote.  The characters read so far are given in
reverse, and the number bounds how many more there may be. -/
def basicRest : Nat → List Char → List Char → Option (String × List Char)
  | 0, _, _ => none
  | fuel + 1, done, cs =>
    match cs with
    | [] => none
    | '"' :: rest => some (String.ofList done.reverse, rest)
    | '\\' :: rest => do
      let (c, rest) ← escaped rest
      basicRest fuel (c :: done) rest
    | c :: rest => if isPlain c then basicRest fuel (c :: done) rest else none

/-- Reads a string without escapes after its opening quote. -/
def literalBody (cs : List Char) : Option (String × List Char) :=
  match cs.span fun c => isPlain c && c ≠ '\'' with
  | (body, '\'' :: rest) => some (String.ofList body, rest)
  | _ => none

/-- The quotes at the end of a string on several lines that still belong to it; there may be two. -/
def extraQuotes (quote : Char) : List Char → List Char × List Char
  | a :: b :: rest =>
    if a = quote then
      if b = quote then ([a, b], rest) else ([a], b :: rest)
    else ([], a :: b :: rest)
  | [a] => if a = quote then ([a], []) else ([], [a])
  | [] => ([], [])

/-- Reads a string with escapes on several lines to its closing quotes. -/
def multilineBasicRest : Nat → List Char → List Char → Option (String × List Char)
  | 0, _, _ => none
  | fuel + 1, done, cs =>
    match cs with
    | [] => none
    | '"' :: '"' :: '"' :: rest =>
      let (quotes, rest) := extraQuotes '"' rest
      some (String.ofList (done.reverse ++ quotes), rest)
    | '\\' :: rest =>
      match continuation? rest with
      | some rest => multilineBasicRest fuel done rest
      | none => do
        let (c, rest) ← escaped rest
        multilineBasicRest fuel (c :: done) rest
    | c :: rest =>
      match newline? (c :: rest) with
      | some rest => multilineBasicRest fuel ('\n' :: done) rest
      | none => if isPlain c then multilineBasicRest fuel (c :: done) rest else none

/-- Reads a string without escapes on several lines to its closing quotes. -/
def multilineLiteralRest : Nat → List Char → List Char → Option (String × List Char)
  | 0, _, _ => none
  | fuel + 1, done, cs =>
    match cs with
    | [] => none
    | '\'' :: '\'' :: '\'' :: rest =>
      let (quotes, rest) := extraQuotes '\'' rest
      some (String.ofList (done.reverse ++ quotes), rest)
    | c :: rest =>
      match newline? (c :: rest) with
      | some rest => multilineLiteralRest fuel ('\n' :: done) rest
      | none => if isPlain c then multilineLiteralRest fuel (c :: done) rest else none

/-- The characters after a line end right after the opening quotes, which does not count. -/
def skipNewline (cs : List Char) : List Char :=
  (newline? cs).getD cs

/-- Reads a string on one line. -/
def lineString : List Char → Option (String × List Char)
  | '"' :: cs => basicRest (cs.length + 1) [] cs
  | '\'' :: cs => literalBody cs
  | _ => none

/-- Reads a string. -/
def stringLiteral : List Char → Option (String × List Char)
  | '"' :: '"' :: '"' :: cs => multilineBasicRest (cs.length + 1) [] (skipNewline cs)
  | '\'' :: '\'' :: '\'' :: cs => multilineLiteralRest (cs.length + 1) [] (skipNewline cs)
  | cs => lineString cs

end Toml

end PlatformSignatures
