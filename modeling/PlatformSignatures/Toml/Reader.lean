import PlatformSignatures.Toml.Scalar
import PlatformSignatures.Toml.Table

/-!
# Reading TOML

A document is a sequence of lines: headers of tables and of arrays of tables, and keys with values.
Arrays and tables written in braces may be nested to a depth of 79, and a key has at most 79 parts.
-/

namespace PlatformSignatures

namespace Toml

/-- The greatest depth of arrays and tables in braces in one another. -/
def maxDepth : Nat := 79

/-- The greatest number of parts of a key. -/
def maxParts : Nat := 79

/-! ### Keys -/

/-- Whether a character may stand in a key without quotes. -/
def isBare (c : Char) : Bool :=
  c.isAlphanum || c = '-' || c = '_'

/-- Reads one part of a key. -/
def keyPart (cs : List Char) : Option (String × List Char) :=
  match cs.span isBare with
  | ([], rest) => lineString rest
  | (name, rest) => some (String.ofList name, rest)

/-- Reads the parts of a key, which are separated by dots.  The number bounds how many there may
be. -/
def keyParts : Nat → List Char → Option (List String × List Char)
  | 0, _ => none
  | fuel + 1, cs => do
    let (part, cs) ← keyPart (skipBlanks cs)
    match skipBlanks cs with
    | '.' :: cs => do
      let (parts, cs) ← keyParts fuel cs
      return (part :: parts, cs)
    | cs => return ([part], cs)

/-- Reads a key, given as the path to its last part and its last part. -/
def key (cs : List Char) : Option ((List String × String) × List Char) := do
  let (parts, cs) ← keyParts maxParts cs
  return ((parts.dropLast, ← parts.getLast?), cs)

/-- Reads a key with its value, by a reader for the value. -/
def pair (value : List Char → Option (Toml × List Char)) (cs : List Char) :
    Option ((List String × String × Toml) × List Char) := do
  let ((path, k), cs) ← key cs
  let (v, cs) ← value (skipBlanks (← skip? '=' cs))
  return ((path, k, v), cs)

/-! ### Values -/

/-- Reads the values of an array from its first value to its closing bracket, by a reader for one
value.  The number bounds how many values there may be. -/
def elements (value : List Char → Option (Toml × List Char)) :
    Nat → List Char → Option (List Toml × List Char)
  | 0, _ => none
  | fuel + 1, cs => do
    match ← skipSpace cs with
    | ']' :: cs => return ([], cs)
    | cs => do
      let (v, cs) ← value cs
      match ← skipSpace cs with
      | ']' :: cs => return ([v], cs)
      | ',' :: cs => do
        let (vs, cs) ← elements value fuel cs
        return (v :: vs, cs)
      | _ => none

/-- Reads the pairs of a table in braces from its first pair to its closing brace, by a reader for
one value.  The number bounds how many pairs there may be. -/
def pairs (value : List Char → Option (Toml × List Char)) :
    Nat → List Char → Option (List (List String × String × Toml) × List Char)
  | 0, _ => none
  | fuel + 1, cs => do
    let (p, cs) ← pair value cs
    match skipBlanks cs with
    | '\x7d' :: cs => return ([p], cs)
    | ',' :: cs => do
      let (ps, cs) ← pairs value fuel cs
      return (p :: ps, cs)
    | _ => none

/-- Reads what is inside a table in braces, by a reader for one value. -/
def braces (value : List Char → Option (Toml × List Char)) (cs : List Char) :
    Option (Toml × List Char) :=
  match skipBlanks cs with
  | '\x7d' :: rest => some (table [], rest)
  | cs => do
    let (ps, rest) ← pairs value cs.length cs
    return (← ofPairs ps, rest)

/-- Reads a value in which arrays and tables are nested to no more than a depth. -/
def value : Nat → List Char → Option (Toml × List Char)
  | room, cs =>
    match cs with
    | '"' :: _ => do
      let (s, rest) ← stringLiteral cs
      return (string s, rest)
    | '\'' :: _ => do
      let (s, rest) ← stringLiteral cs
      return (string s, rest)
    | 't' :: 'r' :: 'u' :: 'e' :: rest => some (bool true, rest)
    | 'f' :: 'a' :: 'l' :: 's' :: 'e' :: rest => some (bool false, rest)
    | '[' :: rest =>
      match room with
      | 0 => none
      | room + 1 => do
        let (vs, rest) ← elements (value room) (rest.length + 1) rest
        return (array vs, rest)
    | '\x7b' :: rest =>
      match room with
      | 0 => none
      | room + 1 => braces (value room) rest
    | _ => numberLike cs

/-! ### Documents -/

/-- What has been read of a document: its members so far, and the path of the table that the next
keys belong to. -/
structure Progress where
  members : List (String × Item)
  path : List String

/-- Reads the rest of a header after its opening brackets, up to the end of its line. -/
def header (closing : List Char) (cs : List Char) :
    Option ((List String × String) × List Char) := do
  let (k, cs) ← key cs
  let cs ← closing.foldlM (fun cs c => skip? c cs) cs
  return (k, ← lineEnd? cs)

/-- Reads one line that is not empty. -/
def line (progress : Progress) : List Char → Option (Progress × List Char)
  | '[' :: '[' :: cs => do
    let ((path, k), cs) ← header [']', ']'] cs
    return (⟨← Item.openElement path k progress.members, path ++ [k]⟩, cs)
  | '[' :: cs => do
    let ((path, k), cs) ← header [']'] cs
    return (⟨← Item.openTable path k progress.members, path ++ [k]⟩, cs)
  | cs => do
    let ((path, k, v), cs) ← pair (value maxDepth) cs
    let members ← Item.enter (Item.define k v path) progress.path progress.members
    return (⟨members, progress.path⟩, ← lineEnd? cs)

/-- Reads the lines of a document.  The number bounds how many there may be. -/
def lines : Nat → Progress → List Char → Option Progress
  | 0, _, _ => none
  | fuel + 1, progress, cs => do
    match ← skipSpace cs with
    | [] => return progress
    | cs => do
      let (progress, cs) ← line progress cs
      lines fuel progress cs

/-- Reads the text of a document, before which there may be a byte-order mark. -/
def read (text : String) : Option Toml := do
  let cs := match text.toList with
    | '\uFEFF' :: cs => cs
    | cs => cs
  let progress ← lines (cs.length + 1) ⟨[], []⟩ cs
  return table (Item.freezeMembers progress.members)

end Toml

end PlatformSignatures
