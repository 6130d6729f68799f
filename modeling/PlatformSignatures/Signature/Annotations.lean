import PlatformSignatures.Content.Emission
import PlatformSignatures.Conventions
import PlatformSignatures.Declaration

/-!
# Annotations in signatures

An annotation is written as its symbol with its arguments in parentheses, which are there even if
there are no arguments.  Whether it has the sign in front of it depends on how deep it is nested.
The annotations of a declaration stand on lines of their own, those of a parameter in the text.
-/

namespace PlatformSignatures

variable {ν : Type}

/-- An annotation written by its symbol and its written arguments. -/
def annotationWith (sign : AtSign) (id : SymbolId) (arguments : List (Emission ν)) :
    Emission ν :=
  (if sign.shown then .text "@" else .nothing) ++ .linkTo id ++ .text "(" ++
    .separated ", " arguments ++ .text ")"

namespace Conventions

mutual

/-- The value of an argument, for a place where nested annotations have the given sign. -/
def annotationValue (c : Conventions) (sign : AtSign) : AnnotationValue → Emission ν
  | .literal text => .text text
  | .enumEntry name id => .link name id
  | .classLiteral name id => .link (name ++ c.classSuffix) id
  | .nested id arguments =>
    annotationWith sign id (annotationArguments c sign.nested arguments)
  | .array values =>
    .text (String.singleton c.brackets.opening) ++
      .separated ", " (annotationValues c sign values) ++
      .text (String.singleton c.brackets.closing)

/-- The values of an array. -/
def annotationValues (c : Conventions) (sign : AtSign) : List AnnotationValue → List (Emission ν)
  | [] => []
  | v :: vs => annotationValue c sign v :: annotationValues c sign vs

/-- The arguments of an annotation, each with its name. -/
def annotationArguments (c : Conventions) (sign : AtSign) :
    List (String × AnnotationValue) → List (Emission ν)
  | [] => []
  | (name, v) :: as =>
    (.text (name ++ " = ") ++ annotationValue c sign v) :: annotationArguments c sign as

end

/-- An annotation in a place where it has the given sign. -/
def annotationIn (c : Conventions) (sign : AtSign) (a : Annotation) : Emission ν :=
  annotationWith sign a.id (annotationArguments c sign.nested a.arguments)

/-- The annotations that are shown, each in a block of its own. -/
def blockAnnotations (c : Conventions) (f : Facets) : Emission ν :=
  .concat ((c.visible f.annotations).map fun a => .group [.block] (c.annotationIn c.atSign a))

/-- The annotations that are shown, each followed by a non-breaking space. -/
def inlineAnnotations (c : Conventions) (f : Facets) : Emission ν :=
  .concat ((c.visible f.annotations).map fun a => c.annotationIn c.atSign a ++ .nbsp)

/-- Whether any annotation is shown. -/
def showsAny (c : Conventions) (f : Facets) : Bool :=
  !(c.visible f.annotations).isEmpty

end Conventions

end PlatformSignatures
