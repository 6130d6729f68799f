import PlatformSignatures.Conventions
import PlatformSignatures.Document.Annotation
import PlatformSignatures.Toml.Reader

/-!
# Configurations in documents

A configuration is a TOML document with at most one section for each language, which overrides the
customary conventions.  Sections and keys that are not known are faults.
-/

namespace PlatformSignatures

/-! ### Sections -/

namespace Overrides

/-- The keys of a section. -/
def keys : List String :=
  ["at_strategy", "list_brackets", "class_suffix", "ignored_visibilities", "ignored_modifiers",
    "ignored_annotations"]

/-- The overrides that a section gives. -/
def ofJson? (j : Json) : Option Overrides := do
  let fields ← j.closedRecord? .toml keys
  let names {α : Type} [Enumerated α] : Json → Option (List α) :=
    Json.list? (Json.enumeration? .toml)
  return {
    atSign := ← Json.given (Json.enumeration? .toml) fields "at_strategy"
    brackets := ← Json.given Json.string? fields "list_brackets"
    classSuffix := ← Json.given Json.string? fields "class_suffix"
    ignoredVisibilities := ← Json.given names fields "ignored_visibilities"
    ignoredModalities := ← Json.given names fields "ignored_modifiers"
    ignoredAnnotations := ← Json.given (Json.annotations? .toml) fields
      "ignored_annotations" }

end Overrides

/-! ### Configurations -/

namespace Configuration

/-- Why a text is not that of a configuration. -/
inductive ReadFault where
  /-- The text is not TOML, or TOML of another shape. -/
  | document
  /-- The brackets of a section are not two characters. -/
  | brackets (text : String)
  deriving DecidableEq

/-- The report of brackets that are not two characters. -/
def bracketsMessage (text : String) : String :=
  "invalid list brackets '" ++ text ++ "': expected exactly two characters"

/-- The sections for the two languages that a document gives. -/
def sections? (j : Json) : Option (Option Overrides × Option Overrides) := do
  let fields ← j.closedRecord? .toml ["kotlin", "java"]
  return (
    ← Json.given Overrides.ofJson? fields "kotlin",
    ← Json.given Overrides.ofJson? fields "java")

/-- Reads the text of a configuration.  Brackets are looked at when all else is in order. -/
def read (text : String) : Except ReadFault Configuration :=
  match (Toml.read text).bind fun document => sections? document.toJson with
  | none => .error .document
  | some (kotlin, java) =>
    match ofOverrides kotlin java with
    | .ok c => .ok c
    | .error text => .error (.brackets text)

end Configuration

end PlatformSignatures
