import PlatformSignatures.Signature.Parts
import PlatformSignatures.Text.Uppercase

/-!
# Kotlin signatures

Types and declarations as they are written in Kotlin.
-/

namespace PlatformSignatures

namespace Kotlin

variable {ν : Type}

/-! ### Types -/

/-- A named type with its written arguments. -/
def namedType (id : SymbolId) (arguments : List (Emission ν)) : Emission ν :=
  .group [] (.linkTo id ++ .enclosed "<" ">" ", " arguments)

/-- A receiver with the dot after it, if there is one. -/
def receiver : Option (Emission ν) → Emission ν
  | none => .nothing
  | some e => e ++ .text "."

/-- A function type, perhaps with a receiver. -/
def arrow (ofReceiver : Option (Emission ν)) (parameters : List (Emission ν))
    (result : Emission ν) : Emission ν :=
  .group [] (receiver ofReceiver ++ .text "(" ++ .separated ", " parameters ++ .text ") -> " ++
    result)

/-- A named type with its written arguments, as an arrow if it is a function type and has enough
arguments for that. -/
def markedType (id : SymbolId) (marker : FunctionMarker) (arguments : List (Emission ν)) :
    Emission ν :=
  match marker, arguments with
  | .function, a :: as => arrow none (a :: as).dropLast ((a :: as).getLast (by simp))
  | .extension, r :: a :: as => arrow (some r) (a :: as).dropLast ((a :: as).getLast (by simp))
  | _, as => namedType id as

mutual

/-- A type. -/
def typeExpr : TypeExpr → Emission ν
  | .named id arguments marker => markedType id marker (typeExprs arguments)
  | .variance .covariant inner => .group [] (.text "out " ++ typeExpr inner)
  | .variance .contravariant inner => .group [] (.text "in " ++ typeExpr inner)
  | .nullable inner => .group [] (typeExpr inner ++ .text "?")
  | .star => .text "*"
  | .root => .linkTo SymbolId.kotlinAny
  | .primitive name => namedType (SymbolId.ofClass "kotlin" (Text.capitalize name)) []
  | .void => .linkTo SymbolId.kotlinUnit
  | .dynamic => .text "dynamic"
  | .typeParameter name => .text name

/-- The types of a list. -/
def typeExprs : List TypeExpr → List (Emission ν)
  | [] => []
  | t :: ts => typeExpr t :: typeExprs ts

end

/-! ### Parts of declarations -/

/-- The modifiers of Kotlin. -/
def modifiers (f : Facets) : String :=
  Signature.modifiers .kotlin f

/-- A type parameter with its bounds. -/
def typeParameterBody (t : TypeParameter) : Emission ν :=
  .text (modifiers t.facets) ++ .link t.name t.id ++
    .enclosed " : " "" ", " (t.bounds.map typeExpr)

/-- Type parameters in front of a name. -/
def leadingGenerics (ts : List TypeParameter) : Emission ν :=
  .enclosed "<" "> " ", " (ts.map typeParameterBody)

/-- A parameter of a function. -/
def parameter (c : Conventions) (p : Parameter) : Emission ν :=
  c.inlineAnnotations p.facets ++ .text (modifiers p.facets) ++ .text (p.name.getD "") ++
    .text ": " ++ typeExpr p.type

/-- A parameter of a primary constructor. -/
def constructorParameter (c : Conventions) (p : Parameter) : Emission ν :=
  c.inlineAnnotations p.facets ++ .styledText (p.name.getD "") [.bold] ++ .text ": " ++
    typeExpr p.type

/-- The primary constructor after the name of its class.  It is written out only if annotations of
it are shown. -/
def primaryConstructor (c : Conventions) (k : Function) : Emission ν :=
  if c.showsAny k.facets then
    .nbsp ++ c.inlineAnnotations k.facets ++ .text "constructor" ++
      Signature.parameterList (k.parameters.map (constructorParameter c))
  else .enclosed "(" ")" ", " (k.parameters.map (constructorParameter c))

/-! ### Declarations -/

/-- The keyword of a class-like declaration; that of an ordinary class has its modifiers in front
of it. -/
def classKeyword (d : Classlike) : String :=
  match d.kind with
  | .ordinary => modifiers d.facets ++ "class "
  | .interface => "interface "
  | .enumeration => "enum "
  | .object => "object "
  | .annotationType => "annotation class "

/-- The modality of an ordinary class; a data class shows none. -/
def classModality (c : Conventions) (d : Classlike) : Emission ν :=
  if d.kind = .ordinary ∧ .data ∉ d.facets.modifiers then Signature.modality c d.modality
  else .nothing

/-- The primary constructor of an ordinary class, if it has one. -/
def classConstructor (c : Conventions) (d : Classlike) : Emission ν :=
  match d.kind, d.primaryConstructor with
  | .ordinary, some k => primaryConstructor c k
  | _, _ => .nothing

/-- The header of a class-like declaration on some platforms. -/
def classHeader (c : Conventions) (d : Classlike) (platforms : PlatformSet) : NodeFactory ν → ν :=
  Signature.symbol d.id platforms (
    c.blockAnnotations d.facets ++
    Signature.visibility c d.visibility ++
    classModality c d ++
    .text (classKeyword d) ++
    Signature.classLink d ++
    .enclosed "<" ">" ", " (d.generics.map typeParameterBody) ++
    classConstructor c d ++
    Signature.supertypes " : " d.supertypes)

/-- A class-like declaration. -/
def classlike (c : Conventions) (d : Classlike) : NodeFactory ν → ν :=
  match d.facets.actualAlias with
  | none => classHeader c d d.platforms
  | some aliased =>
    Signature.aliasedClasslike d aliased (classHeader c d) fun target =>
      .text "actual typealias " ++ Signature.classLink d ++ .text " = " ++ typeExpr target

/-- Whether the return type of a function is shown; that of a constructor and that of a function
without a result are not. -/
def showsReturnType (f : Function) : Bool :=
  !(f.isConstructor || f.returnType = .void || f.returnType.isNamed SymbolId.kotlinUnit)

/-- A function or constructor. -/
def function (c : Conventions) (f : Function) : NodeFactory ν → ν :=
  Signature.symbol f.id f.platforms (
    c.blockAnnotations f.facets ++
    Signature.visibility c f.visibility ++
    Signature.modality c f.modality ++
    .text (modifiers f.facets) ++
    .text "fun " ++
    leadingGenerics f.generics ++
    receiver (f.receiver.map fun r => typeExpr r.type) ++
    .link f.name f.id ++
    Signature.parameterList (f.parameters.map (parameter c)) ++
    if showsReturnType f then .text ": " ++ typeExpr f.returnType else .nothing)

/-- A property. -/
def property (c : Conventions) (p : Property) : NodeFactory ν → ν :=
  Signature.symbol p.id p.platforms (
    c.blockAnnotations p.facets ++
    Signature.visibility c p.visibility ++
    Signature.modality c p.modality ++
    .text (modifiers p.facets) ++
    .text (if p.isMutable then "var " else "val ") ++
    leadingGenerics p.generics ++
    receiver (p.receiver.map fun r => typeExpr r.type) ++
    .link p.name p.id ++
    .text ": " ++
    typeExpr p.type)

/-- A type alias. -/
def typeAlias (c : Conventions) (t : TypeAlias) : NodeFactory ν → ν :=
  Signature.typeAlias t fun underlying =>
    c.blockAnnotations t.facets ++
    Signature.visibility c t.visibility ++
    .text (modifiers t.facets) ++
    .text "typealias " ++
    typeExpr t.type ++
    .text " = " ++
    typeExpr underlying

/-- A type parameter. -/
def typeParameter (c : Conventions) (t : TypeParameter) : NodeFactory ν → ν :=
  Signature.symbol t.id t.platforms (c.blockAnnotations t.facets ++ typeParameterBody t)

/-- The signature of a declaration. -/
def signature (c : Conventions) : Declaration → NodeFactory ν → ν
  | .classlike d => classlike c d
  | .function f => function c f
  | .property p => property c p
  | .typeAlias t => typeAlias c t
  | .typeParameter t => typeParameter c t
  | .enumEntry e => Signature.enumEntry e

end Kotlin

end PlatformSignatures
