import PlatformSignatures.Json.Basic

/-!
# Writing JSON

A value is written either without any space or on several lines with an indentation of two spaces.
Quotes, backslashes and control characters of strings are escaped, and all other characters stand
for themselves.
-/

namespace PlatformSignatures

namespace Json

/-- A hexadecimal digit. -/
def hexDigit (n : Nat) : Char :=
  if n < 10 then Char.ofNat (n + 48) else Char.ofNat (n + 87)

/-- A character as it is written in a string. -/
def escape (c : Char) : List Char :=
  if c = '"' then ['\\', '"']
  else if c = '\\' then ['\\', '\\']
  else if c = '\x08' then ['\\', 'b']
  else if c = '\x0c' then ['\\', 'f']
  else if c = '\n' then ['\\', 'n']
  else if c = '\r' then ['\\', 'r']
  else if c = '\t' then ['\\', 't']
  else if c.toNat < 32 then ['\\', 'u', '0', '0', hexDigit (c.toNat / 16), hexDigit (c.toNat % 16)]
  else [c]

/-- A string between quotes. -/
def quote (s : String) : String :=
  "\"" ++ String.ofList (s.toList.flatMap escape) ++ "\""

/-! ### Without spaces -/

mutual

/-- A value written without any space. -/
def compact : Json → String
  | null => "null"
  | bool b => if b then "true" else "false"
  | number literal => literal
  | string s => quote s
  | array values => "[" ++ compactList values ++ "]"
  | object members => "\x7b" ++ compactMembers members ++ "\x7d"

/-- Values separated by commas. -/
def compactList : List Json → String
  | [] => ""
  | [v] => compact v
  | v :: vs => compact v ++ "," ++ compactList vs

/-- Members separated by commas. -/
def compactMembers : List (String × Json) → String
  | [] => ""
  | [(name, v)] => quote name ++ ":" ++ compact v
  | (name, v) :: ms => quote name ++ ":" ++ compact v ++ "," ++ compactMembers ms

end

/-! ### On several lines -/

/-- A new line at a level of indentation. -/
def newline (level : Nat) : String :=
  "\n" ++ "".pushn ' ' (2 * level)

mutual

/-- A value written on several lines, the following ones indented at least to a level. -/
def pretty (level : Nat) : Json → String
  | array [] => "[]"
  | array (v :: vs) => "[" ++ prettyList (level + 1) (v :: vs) ++ newline level ++ "]"
  | object [] => "\x7b\x7d"
  | object (m :: ms) => "\x7b" ++ prettyMembers (level + 1) (m :: ms) ++ newline level ++ "\x7d"
  | v => compact v

/-- Values on lines of their own. -/
def prettyList (level : Nat) : List Json → String
  | [] => ""
  | [v] => newline level ++ pretty level v
  | v :: vs => newline level ++ pretty level v ++ "," ++ prettyList level vs

/-- Members on lines of their own. -/
def prettyMembers (level : Nat) : List (String × Json) → String
  | [] => ""
  | [(name, v)] => newline level ++ quote name ++ ": " ++ pretty level v
  | (name, v) :: ms =>
    newline level ++ quote name ++ ": " ++ pretty level v ++ "," ++ prettyMembers level ms

end

end Json

end PlatformSignatures
