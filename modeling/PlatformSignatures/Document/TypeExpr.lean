import PlatformSignatures.Document.Symbol
import PlatformSignatures.TypeExpr

/-!
# Type expressions in documents

A type is written as a value with a kind.
-/

namespace PlatformSignatures

namespace TypeExpr

mutual

/-- A type as a value with a kind. -/
def toJson : TypeExpr → Json
  | named id arguments marker =>
    .object [("kind", .string "named"), ("value", .object [
      ("id", id.toJson),
      ("arguments", .array (toJsonList arguments)),
      ("function", Enumerated.toJson marker)])]
  | variance v inner =>
    .object [("kind", .string "variance"), ("value", .array [Enumerated.toJson v, toJson inner])]
  | nullable inner => .object [("kind", .string "nullable"), ("value", toJson inner)]
  | star => .object [("kind", .string "star")]
  | root => .object [("kind", .string "platform-object")]
  | primitive name => .object [("kind", .string "primitive"), ("value", .string name)]
  | void => .object [("kind", .string "void")]
  | dynamic => .object [("kind", .string "dynamic")]
  | typeParameter name =>
    .object [("kind", .string "type-parameter-ref"), ("value", .string name)]

/-- The types of a list as values with a kind. -/
def toJsonList : List TypeExpr → List Json
  | [] => []
  | t :: ts => toJson t :: toJsonList ts

end

/-- The kinds of types in their order. -/
def kinds : List String :=
  ["named", "variance", "nullable", "star", "platform-object", "primitive", "void", "dynamic",
    "type-parameter-ref"]

/-- The type that a value gives, if the value is nested less deep than the given number. -/
def decode : Nat → Json.Rules → Json → Option TypeExpr
  | 0, _, _ => none
  | depth + 1, rules, j => do
    match ← j.tagged? rules kinds with
    | ("named", some value, rules) => do
      let fields ← value.objectRecord? ["id", "arguments", "function"]
      return named
        (← Json.required (SymbolId.ofJson? rules) fields "id")
        (← Json.withDefault [] (Json.list? (decode depth rules)) fields "arguments")
        (← Json.withDefault .notFunction (Json.enumeration? rules) fields "function")
    | ("variance", some value, rules) => do
      let (v, inner) ← value.pair? rules (Json.enumeration? rules) (decode depth rules)
      return variance v inner
    | ("nullable", some value, rules) => do return nullable (← decode depth rules value)
    | ("star", value, _) => Json.unit? star value
    | ("platform-object", value, _) => Json.unit? root value
    | ("primitive", some value, _) => do return primitive (← value.string?)
    | ("void", value, _) => Json.unit? void value
    | ("dynamic", value, _) => Json.unit? dynamic value
    | ("type-parameter-ref", some value, _) => do return typeParameter (← value.string?)
    | _ => none

/-- The type that a document gives. -/
def ofJson? (rules : Json.Rules) (j : Json) : Option TypeExpr :=
  decode (j.depth + 1) rules j

end TypeExpr

end PlatformSignatures
