import PlatformSignatures.Json.Decoding
import PlatformSignatures.Symbol

/-!
# Symbols, platforms and names in documents

The JSON forms of symbols, of sets and maps of platforms, and of the values of enumerations.
-/

namespace PlatformSignatures

/-- A symbol as a record of its three parts. -/
def SymbolId.toJson (id : SymbolId) : Json :=
  .object [
    ("package", .option .string id.package),
    ("class_names", .option .string id.classNames),
    ("callable", .option .string id.callable)]

/-- The symbol that a document gives. -/
def SymbolId.ofJson? (rules : Json.Rules) (j : Json) : Option SymbolId := do
  let fields ← j.record? rules ["package", "class_names", "callable"]
  return {
    package := ← Json.optional Json.string? fields "package"
    classNames := ← Json.optional Json.string? fields "class_names"
    callable := ← Json.optional Json.string? fields "callable" }

/-- A set of platforms as an array of names. -/
def PlatformSet.toJson (ps : PlatformSet) : Json :=
  .list .string ps.elements

/-- A map from platforms as an object. -/
def PlatformMap.toJson {α : Type} (encode : α → Json) (m : PlatformMap α) : Json :=
  .object (m.entries.map fun e => (e.1, encode e.2))

/-- A value of an enumeration as its name. -/
def Enumerated.toJson {α : Type} [Enumerated α] (a : α) : Json :=
  .string (Enumerated.name a)

end PlatformSignatures
