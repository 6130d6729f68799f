import PlatformSignatures.Proofs.MarkedTypes
import PlatformSignatures.Signature

/-!
# Correspondences of emissions

A correspondence relates the nodes that are written in one scope to the nodes that are written in
another one, and is respected by the ways in which a factory makes nodes.  Whatever is put together
from texts, links and groups is then related to itself: types, annotations and parameters are, in
both languages.  A law about whole trees is proved by giving the correspondence it speaks about.
-/

namespace PlatformSignatures

variable {ν μ : Type}

/-- A relation between what is written in two scopes that text, links and groups respect. -/
structure Correspondence (ν μ : Type) where
  scopes : Scope ν → Scope μ → Prop
  nodes : Scope ν → Scope μ → List ν → List μ → Prop
  nil {s t} : scopes s t → nodes s t [] []
  append {s t l l' k k'} : nodes s t l l' → nodes s t k k' → nodes s t (l ++ k) (l' ++ k')
  text {s t} (text styles) : scopes s t → text ≠ "" →
    nodes s t [s.factory.text text styles s.platforms] [t.factory.text text styles t.platforms]
  link {s t} (text target) : scopes s t →
    nodes s t [s.factory.link text target s.platforms] [t.factory.link text target t.platforms]
  group {s t l l'} (styles) : scopes s t → nodes s t l l' →
    nodes s t [s.factory.group l styles s.platforms] [t.factory.group l' styles t.platforms]

namespace Correspondence

/-- Two emissions write related nodes wherever their scopes are related. -/
def Relates (R : Correspondence ν μ) (e : Emission ν) (f : Emission μ) : Prop :=
  ∀ ⦃s t⦄, R.scopes s t → R.nodes s t (e s) (f t)

variable {R : Correspondence ν μ}

/-! ### Ways of putting emissions together -/

namespace Relates

theorem nothing :
  R.Relates .nothing .nothing
  := fun _ _ h => R.nil h

theorem append {e₁ e₂ : Emission ν} {f₁ f₂ : Emission μ} (h₁ : R.Relates e₁ f₁)
    (h₂ : R.Relates e₂ f₂) :
  R.Relates (e₁ ++ e₂) (f₁ ++ f₂)
  := fun _ _ h => R.append (h₁ h) (h₂ h)

theorem concat {es : List (Emission ν)} {fs : List (Emission μ)}
    (h : List.Forall₂ R.Relates es fs) :
  R.Relates (.concat es) (.concat fs)
  := by
  induction h with
  | nil => apply nothing
  | cons h _ ih => apply h.append ih

theorem onlyIf (condition : Prop) [Decidable condition] {e : Emission ν} {f : Emission μ}
    (h : R.Relates e f) :
  R.Relates (if condition then e else .nothing) (if condition then f else .nothing)
  := by
  split
  · apply h
  · apply nothing

theorem styledText (text : String) (styles : List TextStyle) :
  R.Relates (.styledText text styles) (.styledText text styles)
  := by
  intro s t h
  unfold Emission.styledText
  split
  case isTrue => exact R.nil h
  case isFalse hne => exact R.text text styles h hne

theorem text (text : String) :
  R.Relates (.text text) (.text text)
  := styledText text []

theorem nbsp :
  R.Relates .nbsp .nbsp
  := text _

theorem link (text : String) (target : SymbolId) :
  R.Relates (.link text target) (.link text target)
  := fun _ _ h => R.link text target h

theorem linkTo (target : SymbolId) :
  R.Relates (.linkTo target) (.linkTo target)
  := link _ target

theorem group (styles : List TextStyle) {e : Emission ν} {f : Emission μ} (h : R.Relates e f) :
  R.Relates (.group styles e) (.group styles f)
  := fun _ _ hs => R.group styles hs (h hs)

theorem separated (separator : String) {es : List (Emission ν)} {fs : List (Emission μ)}
    (h : List.Forall₂ R.Relates es fs) :
  R.Relates (.separated separator es) (.separated separator fs)
  := by
  induction h with
  | nil => apply nothing
  | @cons e f es fs h hs ih =>
      cases hs with
      | nil => apply h
      | cons => exact (h.append (text separator)).append ih

theorem enclosed (opening closing separator : String) {es : List (Emission ν)}
    {fs : List (Emission μ)} (h : List.Forall₂ R.Relates es fs) :
  R.Relates (.enclosed opening closing separator es) (.enclosed opening closing separator fs)
  := by
  cases h with
  | nil => apply nothing
  | cons h hs =>
      exact ((text opening).append (separated separator (.cons h hs))).append (text closing)

/-- Items that are each related to themselves make related lists. -/
theorem map {α : Type} {item : α → Emission ν} {item' : α → Emission μ}
    (h : ∀ a, R.Relates (item a) (item' a)) (as : List α) :
  List.Forall₂ R.Relates (as.map item) (as.map item')
  := by
  rw [List.forall₂_map_left_iff, List.forall₂_map_right_iff, List.forall₂_same]
  intro a _
  apply h a

end Relates

/-! ### Types -/

namespace Relates

theorem receiver {e : Option (Emission ν)} {f : Option (Emission μ)}
    (h : Option.Rel R.Relates e f) :
  R.Relates (Kotlin.receiver e) (Kotlin.receiver f)
  := by
  cases h with
  | none => apply nothing
  | some h => apply h.append (text ".")

theorem namedType (id : SymbolId) {es : List (Emission ν)} {fs : List (Emission μ)}
    (h : List.Forall₂ R.Relates es fs) :
  R.Relates (Kotlin.namedType id es) (Kotlin.namedType id fs)
  := group [] ((linkTo id).append (enclosed "<" ">" ", " h))

theorem arrow {r : Option (Emission ν)} {r' : Option (Emission μ)} {es : List (Emission ν)}
    {fs : List (Emission μ)} {e : Emission ν} {f : Emission μ} (hr : Option.Rel R.Relates r r')
    (hs : List.Forall₂ R.Relates es fs) (h : R.Relates e f) :
  R.Relates (Kotlin.arrow r es e) (Kotlin.arrow r' fs f)
  := group [] (((((receiver hr).append (text "(")).append (separated ", " hs)).append
    (text ") -> ")).append h)

theorem markedType (id : SymbolId) (marker : FunctionMarker) {es : List (Emission ν)}
    {fs : List (Emission μ)} (h : List.Forall₂ R.Relates es fs) :
  R.Relates (Kotlin.markedType id marker es) (Kotlin.markedType id marker fs)
  := by
  rw [Kotlin.markedType_eq_marked, Kotlin.markedType_eq_marked]
  apply Kotlin.marked_rel (namedType id) arrow marker h

mutual

theorem kotlinType (t : TypeExpr) :
  R.Relates (Kotlin.typeExpr t) (Kotlin.typeExpr t)
  := by
  cases t with
  | named id arguments marker => apply markedType id marker (kotlinTypes arguments)
  | variance v inner =>
      cases v with
      | covariant => apply group [] ((text "out ").append (kotlinType inner))
      | contravariant => apply group [] ((text "in ").append (kotlinType inner))
  | nullable inner => apply group [] ((kotlinType inner).append (text "?"))
  | star => apply text "*"
  | root => apply linkTo _
  | primitive name => apply namedType _ .nil
  | void => apply linkTo _
  | dynamic => apply text "dynamic"
  | typeParameter name => apply text name

theorem kotlinTypes (ts : List TypeExpr) :
  List.Forall₂ R.Relates (Kotlin.typeExprs ts) (Kotlin.typeExprs ts)
  := by
  cases ts with
  | nil => exact .nil
  | cons t ts => exact .cons (kotlinType t) (kotlinTypes ts)

end

mutual

theorem javaType (t : TypeExpr) :
  R.Relates (Java.typeExpr t) (Java.typeExpr t)
  := by
  cases t with
  | named id arguments marker =>
      apply group [] ((linkTo id).append (enclosed "<" ">" ", " (javaTypes arguments)))
  | variance v inner =>
      cases v with
      | covariant => apply group [] ((text "? extends ").append (javaType inner))
      | contravariant => apply group [] ((text "? super ").append (javaType inner))
  | nullable inner => apply javaType inner
  | star => apply text "?"
  | root => apply link _ _
  | primitive name => apply text name
  | void => apply text "void"
  | dynamic => apply link _ _
  | typeParameter name => apply text name

theorem javaTypes (ts : List TypeExpr) :
  List.Forall₂ R.Relates (Java.typeExprs ts) (Java.typeExprs ts)
  := by
  cases ts with
  | nil => exact .nil
  | cons t ts => exact .cons (javaType t) (javaTypes ts)

end

/-- A type is related to itself in either language. -/
theorem typeExpr (d : Dialect) (t : TypeExpr) :
  R.Relates (d.typeExpr t) (d.typeExpr t)
  := by
  cases d with
  | kotlin => apply kotlinType t
  | java => apply javaType t

/-! ### Annotations -/

theorem annotationWith (sign : AtSign) (id : SymbolId) {es : List (Emission ν)}
    {fs : List (Emission μ)} (h : List.Forall₂ R.Relates es fs) :
  R.Relates (annotationWith sign id es) (annotationWith sign id fs)
  := by
  have hsign := onlyIf (R := R) sign.shown (text "@")
  exact (((hsign.append (linkTo id)).append (text "(")).append (separated ", " h)).append (text ")")

mutual

theorem annotationValue (c : Conventions) (sign : AtSign) (v : AnnotationValue) :
  R.Relates (c.annotationValue sign v) (c.annotationValue sign v)
  := by
  cases v with
  | literal value => apply text value
  | enumEntry name id => apply link name id
  | classLiteral name id => apply link _ id
  | nested id arguments =>
      apply annotationWith sign id (annotationArguments c sign.nested arguments)
  | array values =>
      exact ((text _).append (separated ", " (annotationValues c sign values))).append (text _)

theorem annotationValues (c : Conventions) (sign : AtSign) (vs : List AnnotationValue) :
  List.Forall₂ R.Relates (c.annotationValues sign vs) (c.annotationValues sign vs)
  := by
  cases vs with
  | nil => exact .nil
  | cons v vs => exact .cons (annotationValue c sign v) (annotationValues c sign vs)

theorem annotationArguments (c : Conventions) (sign : AtSign)
    (as : List (String × AnnotationValue)) :
  List.Forall₂ R.Relates (c.annotationArguments sign as) (c.annotationArguments sign as)
  := by
  match as with
  | [] => exact .nil
  | (name, v) :: as =>
      exact .cons ((text (name ++ " = ")).append (annotationValue c sign v))
        (annotationArguments c sign as)

end

theorem annotationIn (c : Conventions) (sign : AtSign) (a : Annotation) :
  R.Relates (c.annotationIn sign a) (c.annotationIn sign a)
  := annotationWith sign a.id (annotationArguments c sign.nested a.arguments)

theorem blockAnnotations (c : Conventions) (f : Facets) :
  R.Relates (c.blockAnnotations f) (c.blockAnnotations f)
  := concat (map (fun a => group [.block] (annotationIn c c.atSign a)) _)

theorem inlineAnnotations (c : Conventions) (f : Facets) :
  R.Relates (c.inlineAnnotations f) (c.inlineAnnotations f)
  := concat (map (fun a => (annotationIn c c.atSign a).append nbsp) _)

end Relates

end Correspondence

end PlatformSignatures
