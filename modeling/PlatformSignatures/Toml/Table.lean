import PlatformSignatures.Toml.Basic

/-!
# Assembling tables

A table grows while a document is read.  It may be opened by a header, implied by a header further
inside, or come from a key with dots.  A header may open a table that so far is only implied, and a
key with dots may only add to a table that comes from such a key.  A key is never given twice.
-/

namespace PlatformSignatures

namespace Toml

/-- Where a table comes from. -/
inductive Origin where
  | header
  /-- A header or a key that goes further inside. -/
  | implied
  /-- A key with dots. -/
  | dotted
  deriving DecidableEq

/-- Something under a key of a table that may still grow. -/
inductive Item where
  | value (v : Toml)
  | table (origin : Origin) (members : List (String × Item))
  /-- An array of tables, each given by its members. -/
  | tables (elements : List (List (String × Item)))

namespace Item

mutual

/-- The value of an item when nothing is added any more. -/
def freeze : Item → Toml
  | value v => v
  | table _ members => .table (freezeMembers members)
  | tables elements => .array (freezeElements elements)

/-- The members of a table when nothing is added any more. -/
def freezeMembers : List (String × Item) → List (String × Toml)
  | [] => []
  | (k, i) :: ms => (k, freeze i) :: freezeMembers ms

/-- The tables of an array when nothing is added any more. -/
def freezeElements : List (List (String × Item)) → List Toml
  | [] => []
  | ms :: es => .table (freezeMembers ms) :: freezeElements es

end

/-! ### Changing one place -/

/-- Members with the item under a key changed; the change is told whether there is one so far. -/
def alter (k : String) (change : Option Item → Option Item) :
    List (String × Item) → Option (List (String × Item))
  | [] => do return [(k, ← change none)]
  | (l, i) :: ms => do
    if l = k then return (l, ← change (some i)) :: ms
    else return (l, i) :: (← alter k change ms)

/-- A list with its last element changed, if there is one. -/
def alterLast {α : Type} (change : α → Option α) : List α → Option (List α)
  | [] => none
  | [a] => do return [← change a]
  | a :: as => do return a :: (← alterLast change as)

/-- Changes the table at a path of headers.  Tables on the way that are not there are implied, and
an array of tables stands for its last table. -/
def enter (change : List (String × Item) → Option (List (String × Item))) :
    List String → List (String × Item) → Option (List (String × Item))
  | [], members => change members
  | k :: path, members =>
    members |> alter k fun
      | none => do return table .implied (← enter change path [])
      | some (table origin inner) => do return table origin (← enter change path inner)
      | some (tables elements) => do return tables (← alterLast (enter change path) elements)
      | some (value _) => none

/-! ### Headers -/

/-- Opens the table of a header. -/
def openTable (path : List String) (k : String) :
    List (String × Item) → Option (List (String × Item)) :=
  path |> enter (alter k fun
    | none => some (table .header [])
    | some (table .implied members) => some (table .header members)
    | _ => none)

/-- Opens the next table of an array of tables. -/
def openElement (path : List String) (k : String) :
    List (String × Item) → Option (List (String × Item)) :=
  path |> enter (alter k fun
    | none => some (tables [[]])
    | some (tables elements) => some (tables (elements ++ [[]]))
    | _ => none)

/-! ### Keys with values -/

/-- Adds a value under a key at a path of dots. -/
def define (k : String) (v : Toml) :
    List String → List (String × Item) → Option (List (String × Item))
  | [], members =>
    members |> alter k fun
      | none => some (value v)
      | some _ => none
  | l :: path, members =>
    members |> alter l fun
      | none => do return table .dotted (← define k v path [])
      | some (table .dotted inner) => do return table .dotted (← define k v path inner)
      | some (table .implied inner) =>
        if path.isEmpty then none
        else do return table .implied (← define k v path inner)
      | some (tables elements) =>
        if path.isEmpty then none
        else do return tables (← alterLast (define k v path) elements)
      | _ => none

end Item

/-- A table of keys, perhaps with dots, and values. -/
def ofPairs (pairs : List (List String × String × Toml)) : Option Toml := do
  let members ← pairs.foldlM (fun ms (path, k, v) => Item.define k v path ms) []
  return table (Item.freezeMembers members)

end Toml

end PlatformSignatures
