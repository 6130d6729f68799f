import PlatformSignatures.Signature

/-!
# What Java does not have

In Java types do not say whether they admit null, function types are interfaces like others, and
there are no receivers and no accessors.  A declaration is erased by taking all this away, together
with its constructors and the modifiers of Kotlin.  Erasing a declaration does not change its
signature in Java.
-/

namespace PlatformSignatures

variable {ν : Type}

/-! ### Erased types -/

namespace TypeExpr

mutual

/-- A type that nowhere says whether it admits null, in which no type is marked as a function type
and types that are not checked are the root type. -/
def erased : TypeExpr → TypeExpr
  | named id arguments _ => named id (erasedList arguments) .notFunction
  | variance v inner => variance v (erased inner)
  | nullable inner => erased inner
  | dynamic => root
  | star => star
  | root => root
  | primitive name => primitive name
  | void => void
  | typeParameter name => typeParameter name

/-- The erased types of a list. -/
def erasedList : List TypeExpr → List TypeExpr
  | [] => []
  | t :: ts => erased t :: erasedList ts

end

end TypeExpr

namespace Java

mutual

/-- An erased type is written like the type. -/
@[simp]
theorem typeExpr_erased (t : TypeExpr) :
  (typeExpr t.erased : Emission ν) = typeExpr t
  := by
  cases t with
  | named id arguments marker =>
      rw [TypeExpr.erased, typeExpr, typeExpr, typeExprs_erasedList arguments]
  | variance v inner =>
      cases v with
      | covariant => rw [TypeExpr.erased, typeExpr, typeExpr, typeExpr_erased inner]
      | contravariant => rw [TypeExpr.erased, typeExpr, typeExpr, typeExpr_erased inner]
  | nullable inner => rw [TypeExpr.erased, typeExpr, typeExpr_erased inner]
  | _ => rfl

theorem typeExprs_erasedList (ts : List TypeExpr) :
  (typeExprs (TypeExpr.erasedList ts) : List (Emission ν)) = typeExprs ts
  := by
  cases ts with
  | nil => rfl
  | cons t ts =>
      rw [TypeExpr.erasedList, typeExprs, typeExprs, typeExpr_erased t, typeExprs_erasedList ts]

end

end Java

/-! ### Erased declarations -/

/-- Facets without the modifiers of Kotlin. -/
def Facets.erased (f : Facets) : Facets := { f with
  modifiers := f.modifiers.filter fun m => !m.isKotlin }

/-- A type parameter with erased bounds. -/
def TypeParameter.erased (t : TypeParameter) : TypeParameter := { t with
  bounds := t.bounds.map TypeExpr.erased
  facets := t.facets.erased }

/-- A parameter of an erased type. -/
def Parameter.erased (p : Parameter) : Parameter := { p with
  type := p.type.erased
  facets := p.facets.erased }

/-- A function without receiver, between erased types. -/
def Function.erased (f : Function) : Function := { f with
  generics := f.generics.map TypeParameter.erased
  receiver := none
  parameters := f.parameters.map Parameter.erased
  returnType := f.returnType.erased
  facets := f.facets.erased }

/-- A property of an erased type, without receiver and accessors. -/
def Property.erased (q : Property) : Property := { q with
  generics := q.generics.map TypeParameter.erased
  receiver := none
  type := q.type.erased
  getter := none
  setter := none
  facets := q.facets.erased }

/-- A type alias that is an erased type itself; the types it stands for are kept. -/
def TypeAlias.erased (t : TypeAlias) : TypeAlias := { t with
  type := t.type.erased
  generics := t.generics.map TypeParameter.erased
  facets := t.facets.erased }

/-- A class-like declaration without constructors; the types that it is an alias of are kept. -/
def Classlike.erased (k : Classlike) : Classlike := { k with
  generics := k.generics.map TypeParameter.erased
  constructors := []
  facets := k.facets.erased }

/-- A declaration without what Java does not have. -/
def Declaration.erased : Declaration → Declaration
  | classlike k => classlike k.erased
  | function f => function f.erased
  | property q => property q.erased
  | typeAlias t => typeAlias t.erased
  | typeParameter t => typeParameter t.erased
  | enumEntry e => enumEntry { e with facets := e.facets.erased }

/-! ### Parts of erased declarations -/

namespace Java

variable (c : Conventions)

/-- The modifiers of Java are those that are no modifiers of Kotlin. -/
@[simp]
theorem modifiers_erased (f : Facets) :
  modifiers f.erased = modifiers f
  := by
  have hjava : (Dialect.java.owns · : Modifier → Bool) = fun m => !m.isKotlin := by
    funext m
    exact (Bool.not_not m.isJava).symm
  unfold modifiers Signature.modifiers Facets.erased OrderedSet.filter
  simp only [hjava, List.filter_filter, Bool.and_self]

@[simp]
theorem blockAnnotations_erased (f : Facets) :
  (c.blockAnnotations f.erased : Emission ν) = c.blockAnnotations f
  := rfl

@[simp]
theorem typeParameterBody_erased (t : TypeParameter) :
  (typeParameterBody t.erased : Emission ν) = typeParameterBody t
  := by
  unfold typeParameterBody TypeParameter.erased
  simp only [List.map_map, Function.comp_def, typeExpr_erased]

@[simp]
theorem map_typeParameterBody_erased (ts : List TypeParameter) :
  ((ts.map TypeParameter.erased).map typeParameterBody : List (Emission ν))
    = ts.map typeParameterBody
  := by
  simp only [List.map_map, Function.comp_def, typeParameterBody_erased]

@[simp]
theorem typeBefore_erased (t : TypeExpr) :
  (typeBefore t.erased : Emission ν) = typeBefore t
  := by
  rw [typeBefore, typeExpr_erased, typeBefore]

@[simp]
theorem parameter_erased (p : Parameter) :
  (parameter c p.erased : Emission ν) = parameter c p
  := by
  unfold parameter Parameter.erased
  rw [modifiers_erased, typeBefore_erased]
  rfl

@[simp]
theorem map_parameter_erased (ps : List Parameter) :
  ((ps.map Parameter.erased).map (parameter c) : List (Emission ν)) = ps.map (parameter c)
  := by
  simp only [List.map_map, Function.comp_def, parameter_erased]

/-! ### Erased declarations -/

theorem classHeader_erased (k : Classlike) :
  (classHeader c k.erased : PlatformSet → NodeFactory ν → ν) = classHeader c k
  := by
  have hmodifiers : (classModifiers c k.erased : Emission ν) = classModifiers c k := by
    unfold classModifiers Classlike.erased
    rw [modifiers_erased]
  funext platforms
  unfold classHeader
  rw [hmodifiers]
  simp only [Classlike.erased, map_typeParameterBody_erased, blockAnnotations_erased]
  rfl

theorem classlike_erased (k : Classlike) :
  (classlike c k.erased : NodeFactory ν → ν) = classlike c k
  := by
  unfold classlike
  rw [classHeader_erased]
  rfl

theorem function_erased (f : Function) :
  (function c f.erased : NodeFactory ν → ν) = function c f
  := by
  unfold function
  simp only [Function.erased, blockAnnotations_erased, modifiers_erased,
    map_typeParameterBody_erased, typeBefore_erased, map_parameter_erased]

theorem property_erased (q : Property) :
  (property c q.erased : NodeFactory ν → ν) = property c q
  := by
  unfold property
  simp only [Property.erased, blockAnnotations_erased, modifiers_erased, typeBefore_erased]

theorem typeAlias_erased (t : TypeAlias) :
  (typeAlias c t.erased : NodeFactory ν → ν) = typeAlias c t
  := by
  unfold typeAlias
  simp only [TypeAlias.erased, blockAnnotations_erased, typeExpr_erased]
  rfl

theorem typeParameter_erased (t : TypeParameter) :
  (typeParameter c t.erased : NodeFactory ν → ν) = typeParameter c t
  := by
  unfold typeParameter
  rw [typeParameterBody_erased]
  rfl

/-- A signature in Java is that of the erased declaration. -/
theorem signature_eq_erased (declaration : Declaration) (factory : NodeFactory ν) :
  Dialect.java.signature c declaration factory
    = Dialect.java.signature c declaration.erased factory
  := by
  cases declaration with
  | classlike k => exact congrFun (classlike_erased c k).symm factory
  | function f => exact congrFun (function_erased c f).symm factory
  | property q => exact congrFun (property_erased c q).symm factory
  | typeAlias t => exact congrFun (typeAlias_erased c t).symm factory
  | typeParameter t => exact congrFun (typeParameter_erased c t).symm factory
  | enumEntry e => rfl

end Java

end PlatformSignatures
