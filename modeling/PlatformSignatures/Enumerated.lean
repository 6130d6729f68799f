/-!
# Enumerations

A type with finitely many values that each have a name.  The name is how a value is written in
documents; some values may be written in other ways too.
-/

namespace PlatformSignatures

/-- The values of a type with the names they are written by. -/
class Enumerated (α : Type) where
  values : List α
  name : α → String
  aliases : List (String × α) := []

/-- The value that a name stands for. -/
def Enumerated.ofName? {α : Type} [Enumerated α] (s : String) : Option α :=
  (values.find? fun a => name a == s).or (aliases.lookup s)

end PlatformSignatures
