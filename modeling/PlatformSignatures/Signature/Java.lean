import PlatformSignatures.Signature.Parts

/-!
# Java signatures

Types and declarations as they are seen from Java.  Types do not show whether they admit null, and
function types are generic interfaces like others.
-/

namespace PlatformSignatures

namespace Java

variable {ν : Type}

/-! ### Types -/

mutual

/-- A type. -/
def typeExpr : TypeExpr → Emission ν
  | .named id arguments _ =>
    .group [] (.linkTo id ++ .enclosed "<" ">" ", " (typeExprs arguments))
  | .variance .covariant inner => .group [] (.text "? extends " ++ typeExpr inner)
  | .variance .contravariant inner => .group [] (.text "? super " ++ typeExpr inner)
  | .nullable inner => typeExpr inner
  | .star => .text "?"
  | .root => .link "Object" SymbolId.javaObject
  | .primitive name => .text name
  | .void => .text "void"
  | .dynamic => .link "Object" SymbolId.javaObject
  | .typeParameter name => .text name

/-- The types of a list. -/
def typeExprs : List TypeExpr → List (Emission ν)
  | [] => []
  | t :: ts => typeExpr t :: typeExprs ts

end

/-! ### Parts of declarations -/

/-- The modifiers of Java. -/
def modifiers (f : Facets) : String :=
  Signature.modifiers .java f

/-- A type parameter with its bounds. -/
def typeParameterBody (t : TypeParameter) : Emission ν :=
  .text (simpleName t.name) ++ .enclosed " extends " "" " & " (t.bounds.map typeExpr)

/-- A type in front of the name it belongs to. -/
def typeBefore (t : TypeExpr) : Emission ν :=
  typeExpr t ++ .nbsp

/-- A parameter of a function. -/
def parameter (c : Conventions) (p : Parameter) : Emission ν :=
  c.inlineAnnotations p.facets ++ .text (modifiers p.facets) ++ typeBefore p.type ++
    .link (p.name.getD "") p.id

/-! ### Declarations -/

/-- The keyword of a class-like declaration. -/
def classKeyword : ClasslikeKind → String
  | .ordinary => "class "
  | .interface => "interface "
  | .enumeration => "enum "
  | .object => "class "
  | .annotationType => "@interface "

/-- What only an ordinary class has before its keyword. -/
def classModifiers (c : Conventions) (d : Classlike) : Emission ν :=
  if d.kind = .ordinary then
    Signature.modality c d.modality ++ .text (modifiers d.facets)
  else .nothing

/-- The header of a class-like declaration on some platforms. -/
def classHeader (c : Conventions) (d : Classlike) (platforms : PlatformSet) : NodeFactory ν → ν :=
  Signature.symbol d.id platforms (
    c.blockAnnotations d.facets ++
    Signature.visibility c d.visibility ++
    classModifiers c d ++
    .text (classKeyword d.kind) ++
    Signature.classLink d ++
    .enclosed "<" ">" ", " (d.generics.map typeParameterBody) ++
    Signature.supertypes " extends " d.supertypes)

/-- A class-like declaration. -/
def classlike (c : Conventions) (d : Classlike) : NodeFactory ν → ν :=
  match d.facets.actualAlias with
  | none => classHeader c d d.platforms
  | some aliased =>
    Signature.aliasedClasslike d aliased (classHeader c d) fun target =>
      Signature.classLink d ++ .text " = " ++ typeExpr target

/-- A function, or a constructor, which has no return type. -/
def function (c : Conventions) (f : Function) : NodeFactory ν → ν :=
  Signature.symbol f.id f.platforms (
    c.blockAnnotations f.facets ++
    Signature.visibility c f.visibility ++
    Signature.modality c f.modality ++
    .text (modifiers f.facets) ++
    .enclosed "<" "> " ", " (f.generics.map typeParameterBody) ++
    (if f.isConstructor then .nothing else typeBefore f.returnType) ++
    .link f.name f.id ++
    Signature.parameterList (f.parameters.map (parameter c)))

/-- A property, as a field. -/
def property (c : Conventions) (p : Property) : NodeFactory ν → ν :=
  Signature.symbol p.id p.platforms (
    c.blockAnnotations p.facets ++
    Signature.visibility c p.visibility ++
    Signature.modality c p.modality ++
    .text (modifiers p.facets) ++
    typeBefore p.type ++
    .link p.name p.id)

/-- A type alias. -/
def typeAlias (c : Conventions) (t : TypeAlias) : NodeFactory ν → ν :=
  Signature.typeAlias t fun underlying =>
    c.blockAnnotations t.facets ++
    Signature.visibility c t.visibility ++
    typeExpr t.type ++
    .text " = " ++
    typeExpr underlying

/-- A type parameter. -/
def typeParameter (c : Conventions) (t : TypeParameter) : NodeFactory ν → ν :=
  Signature.symbol t.id t.platforms (c.blockAnnotations t.facets ++ typeParameterBody t)

/-- The signature of a declaration. -/
def signature (c : Conventions) : Declaration → NodeFactory ν → ν
  | .classlike d => classlike c d
  | .function f => function c f
  | .property p => property c p
  | .typeAlias t => typeAlias c t
  | .typeParameter t => typeParameter c t
  | .enumEntry e => Signature.enumEntry e

end Java

end PlatformSignatures
