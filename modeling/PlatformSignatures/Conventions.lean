import PlatformSignatures.Annotation
import PlatformSignatures.Modifier

/-!
# Conventions

The two languages in which signatures are written, each with its conventions: where the sign of
annotations is put, how arrays and class literals look inside them, and which visibilities,
modalities and annotations are not shown.  A configuration has the conventions of both.
-/

namespace PlatformSignatures

/-! ### The sign of annotations -/

/-- Which annotations have the sign in front of them. -/
inductive AtSign where
  /-- Every annotation, at whatever depth. -/
  | always
  /-- Only an annotation that is not inside another one. -/
  | outermost
  | never
  deriving DecidableEq

namespace AtSign

instance : Enumerated AtSign where
  values := [always, outermost, never]
  name
    | always => "always"
    | outermost => "only-once"
    | never => "never"

/-- Whether the sign is shown at the present depth. -/
def shown : AtSign → Bool
  | always => true
  | outermost => true
  | never => false

/-- Where the sign is put one level further inside. -/
def nested : AtSign → AtSign
  | always => always
  | outermost => never
  | never => never

end AtSign

/-! ### Languages -/

/-- A language in which signatures are written. -/
inductive Dialect where
  | kotlin
  | java
  deriving DecidableEq

instance : Enumerated Dialect where
  values := [.kotlin, .java]
  name
    | .kotlin => "kotlin"
    | .java => "java"

/-- Whether a modifier belongs to a language. -/
def Dialect.owns : Dialect → Modifier → Bool
  | kotlin, m => m.isKotlin
  | java, m => m.isJava

/-! ### Conventions of a language -/

/-- The brackets around an array inside an annotation. -/
structure Brackets where
  opening : Char
  closing : Char
  deriving DecidableEq

/-- The brackets that a text of exactly two characters gives. -/
def Brackets.ofString? (s : String) : Option Brackets :=
  match s.toList with
  | [a, b] => some ⟨a, b⟩
  | _ => none

/-- The conventions of one language. -/
structure Conventions where
  atSign : AtSign
  brackets : Brackets
  /-- What follows the name of a class literal. -/
  classSuffix : String
  ignoredVisibilities : List Visibility
  ignoredModalities : List Modality
  ignoredAnnotations : List Annotation
  deriving DecidableEq

namespace Conventions

/-- The customary conventions of Kotlin. -/
def kotlin : Conventions where
  atSign := .outermost
  brackets := ⟨'[', ']'⟩
  classSuffix := "::class"
  ignoredVisibilities := [.publicAccess]
  ignoredModalities := [.final]
  ignoredAnnotations := []

/-- The customary conventions of Java, where annotations that only bridge to Java are not shown. -/
def java : Conventions where
  atSign := .always
  brackets := ⟨'\x7b', '\x7d'⟩
  classSuffix := ".class"
  ignoredVisibilities := [.packageAccess]
  ignoredModalities := [.overridable, .unspecified, .sealed]
  ignoredAnnotations :=
    ["Transient", "Volatile", "Transitive", "Strictfp", "JvmStatic"].map fun name =>
      Annotation.plain (SymbolId.ofClass "kotlin.jvm" name)

/-- The keyword of a visibility with a space after it, or nothing if it is not shown. -/
def visibilityToken (c : Conventions) (v : Visibility) : String :=
  if v ∈ c.ignoredVisibilities ∨ v.keyword = "" then "" else v.keyword ++ " "

/-- The keyword of a modality with a space after it, or nothing if it is not shown. -/
def modalityToken (c : Conventions) (m : Modality) : String :=
  if m ∈ c.ignoredModalities ∨ m.keyword = "" then "" else m.keyword ++ " "

/-- The annotations of a list that are shown.  An annotation is compared with its arguments. -/
def visible (c : Conventions) (as : List Annotation) : List Annotation :=
  as.filter fun a => a ∉ c.ignoredAnnotations

end Conventions

/-- Conventions of both languages. -/
structure Configuration where
  kotlin : Conventions
  java : Conventions
  deriving DecidableEq

namespace Configuration

/-- The customary conventions of both languages. -/
def default : Configuration := ⟨Conventions.kotlin, Conventions.java⟩

/-- The conventions of a language. -/
def conventions (c : Configuration) : Dialect → Conventions
  | .kotlin => c.kotlin
  | .java => c.java

end Configuration

/-! ### Overriding -/

/-- Conventions that take the place of the customary ones. -/
structure Overrides where
  atSign : Option AtSign := none
  brackets : Option String := none
  classSuffix : Option String := none
  ignoredVisibilities : Option (List Visibility) := none
  ignoredModalities : Option (List Modality) := none
  ignoredAnnotations : Option (List Annotation) := none
  deriving DecidableEq

/-- Conventions with what is overridden replaced; brackets that are not two characters are
refused. -/
def Overrides.apply (o : Overrides) (c : Conventions) : Except String Conventions := do
  let brackets ← match o.brackets with
    | none => .ok c.brackets
    | some text =>
      match Brackets.ofString? text with
      | some brackets => .ok brackets
      | none => .error text
  return {
    atSign := o.atSign.getD c.atSign
    brackets := brackets
    classSuffix := o.classSuffix.getD c.classSuffix
    ignoredVisibilities := o.ignoredVisibilities.getD c.ignoredVisibilities
    ignoredModalities := o.ignoredModalities.getD c.ignoredModalities
    ignoredAnnotations := o.ignoredAnnotations.getD c.ignoredAnnotations }

/-- The customary configuration with what is overridden replaced.  The brackets of Kotlin are
looked at before those of Java. -/
def Configuration.ofOverrides (kotlin java : Option Overrides) : Except String Configuration := do
  return {
    kotlin := ← (kotlin.getD {}).apply Conventions.kotlin
    java := ← (java.getD {}).apply Conventions.java }

end PlatformSignatures
