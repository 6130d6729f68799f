/-!
# JSON values

A number is kept as the literal it is written by.  The members of an object are kept in the order
in which they are written, and a name may occur more than once.
-/

namespace PlatformSignatures

/-- A JSON value. -/
inductive Json where
  | null
  | bool (b : Bool)
  | number (literal : String)
  | string (s : String)
  | array (values : List Json)
  | object (members : List (String × Json))
  deriving Inhabited

namespace Json

mutual

/-- How deep arrays and objects are nested in a value. -/
def depth : Json → Nat
  | array values => depthOfList values + 1
  | object members => depthOfMembers members + 1
  | _ => 0

/-- The greatest depth in a list of values. -/
def depthOfList : List Json → Nat
  | [] => 0
  | v :: vs => max v.depth (depthOfList vs)

/-- The greatest depth of the values of a list of members. -/
def depthOfMembers : List (String × Json) → Nat
  | [] => 0
  | (_, v) :: ms => max v.depth (depthOfMembers ms)

end

/-- A list of values as an array. -/
def list {α : Type} (encode : α → Json) (as : List α) : Json :=
  array (as.map encode)

/-- A value that may be absent, which is then null. -/
def option {α : Type} (encode : α → Json) : Option α → Json
  | none => null
  | some a => encode a

end Json

end PlatformSignatures
