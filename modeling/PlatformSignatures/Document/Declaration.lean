import PlatformSignatures.Declaration
import PlatformSignatures.Document.Annotation
import PlatformSignatures.Document.TypeExpr

/-!
# Declarations in documents

A declaration is a record of its fields beside a field `declaration` for what it is.  The fields
are set aside until it is known what the declaration is.
-/

namespace PlatformSignatures

/-! ### Facets -/

/-- Facets as a record. -/
def Facets.toJson (f : Facets) : Json :=
  .object [
    ("annotations", .list Annotation.toJson f.annotations),
    ("modifiers", .list Enumerated.toJson f.modifiers.elements),
    ("actual_typealias", .option (PlatformMap.toJson TypeExpr.toJson) f.actualAlias),
    ("primary_constructor", .bool f.primaryConstructor)]

/-- The facets that a document gives. -/
def Facets.ofJson? (rules : Json.Rules) (j : Json) : Option Facets := do
  let fields ←
    j.record? rules ["annotations", "modifiers", "actual_typealias", "primary_constructor"]
  let modifiers ← Json.withDefault [] (Json.list? (Json.enumeration? rules)) fields "modifiers"
  return {
    annotations := ← Json.withDefault [] (Json.annotations? rules) fields "annotations"
    modifiers := OrderedSet.ofList modifiers
    actualAlias :=
      ← Json.optional (Json.platformMap? (TypeExpr.ofJson? rules)) fields "actual_typealias"
    primaryConstructor := ← Json.withDefault false Json.bool? fields "primary_constructor" }

/-! ### Fields of declarations -/

namespace Declaration

/-- The rules for the fields of a declaration. -/
def rules : Json.Rules := Json.Rules.json.aside

/-- The symbol that a declaration gives in a place. -/
def decodeId (j : Json) : Option SymbolId :=
  SymbolId.ofJson? rules j

/-- The type that a declaration gives in a place. -/
def decodeType (j : Json) : Option TypeExpr :=
  TypeExpr.ofJson? rules j

/-- The facets of a declaration. -/
def decodeFacets (fields : List (String × Json)) : Option Facets :=
  Json.withDefault {} (Facets.ofJson? rules) fields "extras"

/-- The visibility of a declaration. -/
def decodeVisibility (fields : List (String × Json)) : Option (PlatformMap Visibility) :=
  Json.withDefault PlatformMap.empty (Json.platformMap? (Json.enumeration? rules)) fields
    "visibility"

/-- The modality of a declaration. -/
def decodeModality (fields : List (String × Json)) : Option (PlatformMap Modality) :=
  Json.withDefault PlatformMap.empty (Json.platformMap? (Json.enumeration? rules)) fields
    "modifier"

end Declaration

/-! ### Type parameters and parameters -/

/-- The members of a type parameter. -/
def TypeParameter.members (t : TypeParameter) : List (String × Json) :=
  [ ("id", t.id.toJson),
    ("name", .string t.name),
    ("platforms", PlatformSet.toJson t.platforms),
    ("bounds", .list TypeExpr.toJson t.bounds),
    ("extras", t.facets.toJson)]

/-- A type parameter as a record. -/
def TypeParameter.toJson (t : TypeParameter) : Json :=
  .object t.members

/-- The type parameter that a document gives. -/
def TypeParameter.ofJson? (j : Json) : Option TypeParameter := do
  let fields ← j.record? Declaration.rules ["id", "name", "platforms", "bounds", "extras"]
  return {
    id := ← Json.required Declaration.decodeId fields "id"
    name := ← Json.required Json.string? fields "name"
    platforms := ← Json.required Json.platformSet? fields "platforms"
    bounds := ← Json.withDefault [] (Json.list? Declaration.decodeType) fields "bounds"
    facets := ← Declaration.decodeFacets fields }

/-- The type parameters of a declaration. -/
def Declaration.decodeGenerics (fields : List (String × Json)) : Option (List TypeParameter) :=
  Json.withDefault [] (Json.list? TypeParameter.ofJson?) fields "generics"

/-- A parameter as a record. -/
def Parameter.toJson (p : Parameter) : Json :=
  .object [
    ("id", p.id.toJson),
    ("name", .option .string p.name),
    ("type", p.type.toJson),
    ("extras", p.facets.toJson)]

/-- The parameter that a document gives. -/
def Parameter.ofJson? (j : Json) : Option Parameter := do
  let fields ← j.record? Declaration.rules ["id", "name", "type", "extras"]
  return {
    id := ← Json.required Declaration.decodeId fields "id"
    name := ← Json.optional Json.string? fields "name"
    type := ← Json.required Declaration.decodeType fields "type"
    facets := ← Declaration.decodeFacets fields }

/-! ### Functions -/

/-- The members of a function. -/
def Function.members (f : Function) : List (String × Json) :=
  [ ("id", f.id.toJson),
    ("name", .string f.name),
    ("is_constructor", .bool f.isConstructor),
    ("platforms", PlatformSet.toJson f.platforms),
    ("visibility", f.visibility.toJson Enumerated.toJson),
    ("modifier", f.modality.toJson Enumerated.toJson),
    ("generics", .list TypeParameter.toJson f.generics),
    ("receiver", .option Parameter.toJson f.receiver),
    ("parameters", .list Parameter.toJson f.parameters),
    ("return_type", f.returnType.toJson),
    ("extras", f.facets.toJson)]

/-- A function as a record. -/
def Function.toJson (f : Function) : Json :=
  .object f.members

/-- The function that a document gives. -/
def Function.ofJson? (j : Json) : Option Function := do
  let fields ← j.record? Declaration.rules ["id", "name", "is_constructor", "platforms",
    "visibility", "modifier", "generics", "receiver", "parameters", "return_type", "extras"]
  return {
    id := ← Json.required Declaration.decodeId fields "id"
    name := ← Json.required Json.string? fields "name"
    isConstructor := ← Json.withDefault false Json.bool? fields "is_constructor"
    platforms := ← Json.required Json.platformSet? fields "platforms"
    visibility := ← Declaration.decodeVisibility fields
    modality := ← Declaration.decodeModality fields
    generics := ← Declaration.decodeGenerics fields
    receiver := ← Json.optional Parameter.ofJson? fields "receiver"
    parameters := ← Json.withDefault [] (Json.list? Parameter.ofJson?) fields "parameters"
    returnType := ← Json.required Declaration.decodeType fields "return_type"
    facets := ← Declaration.decodeFacets fields }

/-! ### Properties -/

/-- The members of a property. -/
def Property.members (p : Property) : List (String × Json) :=
  [ ("id", p.id.toJson),
    ("name", .string p.name),
    ("platforms", PlatformSet.toJson p.platforms),
    ("visibility", p.visibility.toJson Enumerated.toJson),
    ("modifier", p.modality.toJson Enumerated.toJson),
    ("generics", .list TypeParameter.toJson p.generics),
    ("receiver", .option Parameter.toJson p.receiver),
    ("type", p.type.toJson),
    ("getter", .option Function.toJson p.getter),
    ("setter", .option Function.toJson p.setter),
    ("extras", p.facets.toJson)]

/-- The property that a document gives. -/
def Property.ofJson? (j : Json) : Option Property := do
  let fields ← j.record? Declaration.rules ["id", "name", "platforms", "visibility", "modifier",
    "generics", "receiver", "type", "getter", "setter", "extras"]
  return {
    id := ← Json.required Declaration.decodeId fields "id"
    name := ← Json.required Json.string? fields "name"
    platforms := ← Json.required Json.platformSet? fields "platforms"
    visibility := ← Declaration.decodeVisibility fields
    modality := ← Declaration.decodeModality fields
    generics := ← Declaration.decodeGenerics fields
    receiver := ← Json.optional Parameter.ofJson? fields "receiver"
    type := ← Json.required Declaration.decodeType fields "type"
    getter := ← Json.optional Function.ofJson? fields "getter"
    setter := ← Json.optional Function.ofJson? fields "setter"
    facets := ← Declaration.decodeFacets fields }

/-! ### Type aliases -/

/-- The members of a type alias. -/
def TypeAlias.members (t : TypeAlias) : List (String × Json) :=
  [ ("id", t.id.toJson),
    ("name", .string t.name),
    ("platforms", PlatformSet.toJson t.platforms),
    ("visibility", t.visibility.toJson Enumerated.toJson),
    ("type", t.type.toJson),
    ("underlying", t.underlying.toJson TypeExpr.toJson),
    ("generics", .list TypeParameter.toJson t.generics),
    ("extras", t.facets.toJson)]

/-- The type alias that a document gives. -/
def TypeAlias.ofJson? (j : Json) : Option TypeAlias := do
  let fields ← j.record? Declaration.rules ["id", "name", "platforms", "visibility", "type",
    "underlying", "generics", "extras"]
  return {
    id := ← Json.required Declaration.decodeId fields "id"
    name := ← Json.required Json.string? fields "name"
    platforms := ← Json.required Json.platformSet? fields "platforms"
    visibility := ← Declaration.decodeVisibility fields
    type := ← Json.required Declaration.decodeType fields "type"
    underlying := ← Json.required (Json.platformMap? Declaration.decodeType) fields "underlying"
    generics := ← Declaration.decodeGenerics fields
    facets := ← Declaration.decodeFacets fields }

/-! ### Classes and their like -/

/-- The members of a class-like declaration. -/
def Classlike.members (c : Classlike) : List (String × Json) :=
  [ ("kind", Enumerated.toJson c.kind),
    ("id", c.id.toJson),
    ("name", .option .string c.name),
    ("platforms", PlatformSet.toJson c.platforms),
    ("visibility", c.visibility.toJson Enumerated.toJson),
    ("modifier", c.modality.toJson Enumerated.toJson),
    ("generics", .list TypeParameter.toJson c.generics),
    ("supertypes", c.supertypes.toJson (.list SymbolId.toJson)),
    ("constructors", .list Function.toJson c.constructors),
    ("extras", c.facets.toJson)]

/-- The class-like declaration that a document gives. -/
def Classlike.ofJson? (j : Json) : Option Classlike := do
  let fields ← j.record? Declaration.rules ["kind", "id", "name", "platforms", "visibility",
    "modifier", "generics", "supertypes", "constructors", "extras"]
  return {
    kind := ← Json.required (Json.enumeration? Declaration.rules) fields "kind"
    id := ← Json.required Declaration.decodeId fields "id"
    name := ← Json.optional Json.string? fields "name"
    platforms := ← Json.required Json.platformSet? fields "platforms"
    visibility := ← Declaration.decodeVisibility fields
    modality := ← Declaration.decodeModality fields
    generics := ← Declaration.decodeGenerics fields
    supertypes := ← Json.withDefault PlatformMap.empty
      (Json.platformMap? (Json.list? Declaration.decodeId)) fields "supertypes"
    constructors := ← Json.withDefault [] (Json.list? Function.ofJson?) fields "constructors"
    facets := ← Declaration.decodeFacets fields }

/-! ### Enum entries -/

/-- The members of an enum entry. -/
def EnumEntry.members (e : EnumEntry) : List (String × Json) :=
  [ ("id", e.id.toJson),
    ("name", .string e.name),
    ("platforms", PlatformSet.toJson e.platforms),
    ("extras", e.facets.toJson)]

/-- The enum entry that a document gives. -/
def EnumEntry.ofJson? (j : Json) : Option EnumEntry := do
  let fields ← j.record? Declaration.rules ["id", "name", "platforms", "extras"]
  return {
    id := ← Json.required Declaration.decodeId fields "id"
    name := ← Json.required Json.string? fields "name"
    platforms := ← Json.required Json.platformSet? fields "platforms"
    facets := ← Declaration.decodeFacets fields }

/-! ### Declarations -/

namespace Declaration

/-- What a declaration is, and its members. -/
def members : Declaration → String × List (String × Json)
  | classlike c => ("classlike", c.members)
  | function f => ("function", f.members)
  | property p => ("property", p.members)
  | typeAlias t => ("type-alias", t.members)
  | typeParameter t => ("type-parameter", t.members)
  | enumEntry e => ("enum-entry", e.members)

/-- A declaration as a record of its fields beside what it is. -/
def toJson (d : Declaration) : Json :=
  .object (("declaration", .string d.members.1) :: d.members.2)

/-- The declaration of a kind that a record of its fields gives. -/
def ofRecord? (kind : String) (record : Json) : Option Declaration :=
  match kind with
  | "classlike" => (Classlike.ofJson? record).map classlike
  | "function" => (Function.ofJson? record).map function
  | "property" => (Property.ofJson? record).map property
  | "type-alias" => (TypeAlias.ofJson? record).map typeAlias
  | "type-parameter" => (TypeParameter.ofJson? record).map typeParameter
  | "enum-entry" => (EnumEntry.ofJson? record).map enumEntry
  | _ => none

/-- The declaration that a document gives, as an object or as an array that begins with what the
declaration is. -/
def ofJson? : Json → Option Declaration
  | .array (kind :: values) => do ofRecord? (← kind.string?) (.array values)
  | .object members =>
    match members.partition fun m => m.1 == "declaration" with
    | ([(_, kind)], others) => do ofRecord? (← kind.string?) (.object others)
    | _ => none
  | _ => none

end Declaration

end PlatformSignatures
