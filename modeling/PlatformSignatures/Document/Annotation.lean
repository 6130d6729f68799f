import PlatformSignatures.Annotation
import PlatformSignatures.Document.Symbol

/-!
# Annotations in documents

An annotation is a record of its symbol and its arguments, each of which is a pair of a name and a
value with a kind.
-/

namespace PlatformSignatures

namespace AnnotationValue

mutual

/-- The value of an argument as a value with a kind. -/
def toJson : AnnotationValue → Json
  | literal text => .object [("kind", .string "string"), ("value", .string text)]
  | enumEntry name id =>
    .object [("kind", .string "enum"), ("value", .object [
      ("name", .string name), ("id", id.toJson)])]
  | classLiteral name id =>
    .object [("kind", .string "class"), ("value", .object [
      ("name", .string name), ("id", id.toJson)])]
  | nested id arguments =>
    .object [("kind", .string "annotation"), ("value", .object [
      ("id", id.toJson), ("params", .array (toJsonArguments arguments))])]
  | array values => .object [("kind", .string "array"), ("value", .array (toJsonList values))]

/-- The values of a list as values with a kind. -/
def toJsonList : List AnnotationValue → List Json
  | [] => []
  | v :: vs => toJson v :: toJsonList vs

/-- Arguments as pairs. -/
def toJsonArguments : List (String × AnnotationValue) → List Json
  | [] => []
  | (name, v) :: as => .array [.string name, toJson v] :: toJsonArguments as

end

/-- The kinds of values in their order. -/
def kinds : List String :=
  ["string", "enum", "class", "annotation", "array"]

/-- The symbol and the arguments of an annotation, by a decoder for the values. -/
def decodeParts (rules : Json.Rules) (value : Json → Option AnnotationValue) (j : Json) :
    Option (SymbolId × List (String × AnnotationValue)) := do
  let fields ← j.record? rules ["id", "params"]
  return (
    ← Json.required (SymbolId.ofJson? rules) fields "id",
    ← Json.withDefault [] (Json.list? (Json.pair? rules Json.string? value)) fields "params")

/-- A name and a symbol. -/
def decodeReference (rules : Json.Rules) (j : Json) : Option (String × SymbolId) := do
  let fields ← j.objectRecord? ["name", "id"]
  return (
    ← Json.required Json.string? fields "name",
    ← Json.required (SymbolId.ofJson? rules) fields "id")

/-- The value that a document gives, if it is nested less deep than the given number. -/
def decode : Nat → Json.Rules → Json → Option AnnotationValue
  | 0, _, _ => none
  | depth + 1, rules, j => do
    match ← j.tagged? rules kinds with
    | ("string", some value, _) => do return literal (← value.string?)
    | ("enum", some value, rules) => do
      let (name, id) ← decodeReference rules value
      return enumEntry name id
    | ("class", some value, rules) => do
      let (name, id) ← decodeReference rules value
      return classLiteral name id
    | ("annotation", some value, rules) => do
      let (id, arguments) ← decodeParts rules (decode depth rules) value
      return nested id arguments
    | ("array", some value, rules) => do return array (← value.list? (decode depth rules))
    | _ => none

/-- The value that a document gives. -/
def ofJson? (rules : Json.Rules) (j : Json) : Option AnnotationValue :=
  decode (j.depth + 1) rules j

end AnnotationValue

namespace Annotation

/-- An annotation as a record of its symbol and its arguments. -/
def toJson (a : Annotation) : Json :=
  .object [
    ("id", a.id.toJson),
    ("params", .array (AnnotationValue.toJsonArguments a.arguments))]

/-- The annotation that a document gives. -/
def ofJson? (rules : Json.Rules) (j : Json) : Option Annotation := do
  let (id, arguments) ← AnnotationValue.decodeParts rules (AnnotationValue.ofJson? rules) j
  return ⟨id, arguments⟩

end Annotation

/-- The annotations that a document gives in a list. -/
def Json.annotations? (rules : Json.Rules) : Json → Option (List Annotation) :=
  Json.list? fun j => Annotation.ofJson? rules j

end PlatformSignatures
