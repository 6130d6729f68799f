import Mathlib.Data.List.Basic
import PlatformSignatures.Model
import PlatformSignatures.Conventions
import PlatformSignatures.Proofs.Capitals
import PlatformSignatures.Proofs.PlatformMaps
import PlatformSignatures.Text.Blank

/-!
# Strings of models and configurations

All that is free text in a model or a configuration: names, parts of symbols, literals, platforms,
and the brackets and the suffix of the conventions.  A text is unbroken if there is no line feed
in it.
-/

namespace PlatformSignatures

/-! ### Unbroken texts -/

namespace Text

/-- There is no line feed in a text. -/
def Unbroken (s : String) : Prop :=
  '\n' ∉ s.toList

instance (s : String) : Decidable (Unbroken s) :=
  inferInstanceAs (Decidable (_ ∉ _))

theorem unbroken_append {s t : String} (hs : Unbroken s) (ht : Unbroken t) :
  Unbroken (s ++ t)
  := by
  rw [Unbroken, String.toList_append, List.mem_append]
  rintro (h | h)
  · apply hs h
  · apply ht h

theorem unbroken_join_iff (ss : List String) :
  Unbroken (String.join ss) ↔ ∀ s ∈ ss, Unbroken s
  := by
  induction ss with
  | nil => simp [Unbroken, String.join]
  | cons s ss ih =>
      rw [String.join_cons, List.forall_mem_cons, ← ih]
      simp [Unbroken]

theorem unbroken_intercalate {separator : String} (h : Unbroken separator) {ss : List String}
    (hss : ∀ s ∈ ss, Unbroken s) :
  Unbroken (separator.intercalate ss)
  := by
  induction ss with
  | nil => exact List.not_mem_nil
  | cons s ss ih =>
      obtain ⟨hs, hrest⟩ := List.forall_mem_cons.mp hss
      cases ss with
      | nil =>
          rw [String.intercalate_singleton]
          apply hs
      | cons t ts =>
          rw [String.intercalate_cons_cons]
          exact unbroken_append (unbroken_append hs h) (ih hrest)

theorem unbroken_plainSpaces {s : String} (h : Unbroken s) :
  Unbroken (plainSpaces s)
  := by
  rw [Unbroken, plainSpaces, String.toList_ofList, List.mem_map]
  rintro ⟨c, hc, heq⟩
  split at heq
  · exact absurd heq (by decide)
  · apply h (heq ▸ hc)

theorem unbroken_capitalize {s : String} (h : Unbroken s) :
  Unbroken (capitalize s)
  := by
  rw [capitalize]
  split
  case h_1 => decide
  case h_2 c cs hcons =>
    rw [Unbroken, hcons, List.mem_cons, not_or] at h
    rw [Unbroken, String.toList_ofList, List.mem_append, not_or]
    constructor
    · obtain hself | ⟨-, hcodes⟩ := uppercase_cases c
      · rw [hself, List.mem_singleton]
        apply h.1
      · intro hmem
        exact absurd (hcodes _ hmem) (by decide)
    · apply h.2

theorem unbroken_simpleName {s : String} (h : Unbroken s) :
  Unbroken (simpleName s)
  := by
  rw [Unbroken, simpleName, String.toList_ofList, List.mem_reverse]
  intro hmem
  apply h
  rw [← List.mem_reverse]
  apply (List.takeWhile_sublist _).subset hmem

end Text

/-! ### Strings of models -/

/-- The parts of a symbol. -/
def SymbolId.strings (id : SymbolId) : List String :=
  id.package.toList ++ id.classNames.toList ++ id.callable.toList

theorem SymbolId.unbroken_displayName {id : SymbolId} (h : ∀ s ∈ id.strings, Text.Unbroken s) :
  Text.Unbroken id.displayName
  := by
  rw [displayName]
  cases hname : id.classNames.or id.callable with
  | none => decide
  | some name =>
      apply h name
      have hparts : id.classNames = some name ∨ id.callable = some name := by
        cases hclass : id.classNames with
        | none => exact Or.inr (by simpa [hclass] using hname)
        | some part => exact Or.inl (by simpa [hclass] using hname)
      simp [strings, hparts]

/-- The strings of a map from platforms, given those of its values. -/
def PlatformMap.strings {α : Type} (ofValue : α → List String) (m : PlatformMap α) : List String :=
  m.keys.elements ++ m.entries.flatMap fun e => ofValue e.2

theorem PlatformMap.mem_strings_of_get? {α : Type} {ofValue : α → List String} {m : PlatformMap α}
    {p : Platform} {a : α} (ha : m.get? p = some a) {s : String} (hs : s ∈ ofValue a) :
  s ∈ m.strings ofValue
  := by
  apply List.mem_append_right
  exact List.mem_flatMap_of_mem ((m.get?_eq_some_iff p a).mp ha) hs

namespace TypeExpr

mutual

/-- The strings of a type. -/
def strings : TypeExpr → List String
  | named id arguments _ => id.strings ++ stringsOfList arguments
  | variance _ inner => strings inner
  | nullable inner => strings inner
  | primitive name => [name]
  | typeParameter name => [name]
  | _ => []

/-- The strings of a list of types. -/
def stringsOfList : List TypeExpr → List String
  | [] => []
  | t :: ts => strings t ++ stringsOfList ts

end

end TypeExpr

namespace AnnotationValue

mutual

/-- The strings of a value of an annotation argument. -/
def strings : AnnotationValue → List String
  | literal text => [text]
  | enumEntry name id => name :: id.strings
  | classLiteral name id => name :: id.strings
  | nested id arguments => id.strings ++ stringsOfArguments arguments
  | array values => stringsOfList values

/-- The strings of a list of values. -/
def stringsOfList : List AnnotationValue → List String
  | [] => []
  | v :: vs => strings v ++ stringsOfList vs

/-- The strings of a list of arguments. -/
def stringsOfArguments : List (String × AnnotationValue) → List String
  | [] => []
  | (name, v) :: as => name :: strings v ++ stringsOfArguments as

end

end AnnotationValue

/-- The strings of an annotation. -/
def Annotation.strings (a : Annotation) : List String :=
  a.id.strings ++ AnnotationValue.stringsOfArguments a.arguments

/-- The strings of the facets of a declaration or a parameter. -/
def Facets.strings (f : Facets) : List String :=
  f.annotations.flatMap Annotation.strings ++
    f.actualAlias.toList.flatMap (PlatformMap.strings TypeExpr.strings)

/-- The strings of a type parameter. -/
def TypeParameter.strings (t : TypeParameter) : List String :=
  t.id.strings ++ t.name :: t.platforms.elements ++ t.bounds.flatMap TypeExpr.strings ++
    t.facets.strings

/-- The strings of a parameter. -/
def Parameter.strings (p : Parameter) : List String :=
  p.id.strings ++ p.name.toList ++ p.type.strings ++ p.facets.strings

/-- The strings of a function. -/
def Function.strings (f : Function) : List String :=
  f.id.strings ++ f.name :: f.platforms.elements ++ f.visibility.keys.elements ++
    f.modality.keys.elements ++ f.generics.flatMap TypeParameter.strings ++
    f.receiver.toList.flatMap Parameter.strings ++ f.parameters.flatMap Parameter.strings ++
    f.returnType.strings ++ f.facets.strings

/-- The strings of a property. -/
def Property.strings (p : Property) : List String :=
  p.id.strings ++ p.name :: p.platforms.elements ++ p.visibility.keys.elements ++
    p.modality.keys.elements ++ p.generics.flatMap TypeParameter.strings ++
    p.receiver.toList.flatMap Parameter.strings ++ p.type.strings ++
    p.getter.toList.flatMap Function.strings ++ p.setter.toList.flatMap Function.strings ++
    p.facets.strings

/-- The strings of a type alias. -/
def TypeAlias.strings (t : TypeAlias) : List String :=
  t.id.strings ++ t.name :: t.platforms.elements ++ t.visibility.keys.elements ++
    t.type.strings ++ t.underlying.strings TypeExpr.strings ++
    t.generics.flatMap TypeParameter.strings ++ t.facets.strings

/-- The strings of a class-like declaration. -/
def Classlike.strings (c : Classlike) : List String :=
  c.id.strings ++ c.name.toList ++ c.platforms.elements ++ c.visibility.keys.elements ++
    c.modality.keys.elements ++ c.generics.flatMap TypeParameter.strings ++
    c.supertypes.strings (·.flatMap SymbolId.strings) ++
    c.constructors.flatMap Function.strings ++ c.facets.strings

/-- The strings of an enum entry. -/
def EnumEntry.strings (e : EnumEntry) : List String :=
  e.id.strings ++ e.name :: e.platforms.elements ++ e.facets.strings

/-- The strings of a declaration. -/
def Declaration.strings : Declaration → List String
  | classlike c => c.strings
  | function f => f.strings
  | property p => p.strings
  | typeAlias t => t.strings
  | typeParameter t => t.strings
  | enumEntry e => e.strings

/-- The strings of a model. -/
def Model.strings (m : Model) : List String :=
  m.declarations.flatMap Declaration.strings

/-! ### Strings of configurations -/

/-- The strings of the conventions of a language. -/
def Conventions.strings (c : Conventions) : List String :=
  [String.singleton c.brackets.opening, String.singleton c.brackets.closing, c.classSuffix] ++
    c.ignoredAnnotations.flatMap Annotation.strings

/-- The strings of a configuration. -/
def Configuration.strings (c : Configuration) : List String :=
  c.kotlin.strings ++ c.java.strings

end PlatformSignatures
