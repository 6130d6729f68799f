import PlatformSignatures.Proofs.Following
import PlatformSignatures.Proofs.Lines

/-!
# Parts that are not shown

Conventions say which visibilities, modalities and annotations are not shown.  Not showing them is
the same as deleting them from the declaration and then showing everything.
-/

namespace PlatformSignatures

variable {ν α : Type}

/-! ### Declarations without what is not shown -/

/-- Conventions with nothing left out, and otherwise as before. -/
def Conventions.showingAll (c : Conventions) : Conventions := { c with
  ignoredVisibilities := []
  ignoredModalities := []
  ignoredAnnotations := [] }

/-- Facets without the annotations that are not shown.  An annotation inside another one stays. -/
def Facets.shownIn (c : Conventions) (f : Facets) : Facets := { f with
  annotations := f.annotations.filter fun a => a ∉ c.ignoredAnnotations }

/-- A parameter without the annotations that are not shown. -/
def Parameter.shownIn (c : Conventions) (p : Parameter) : Parameter := { p with
  facets := p.facets.shownIn c }

/-- A function without the annotations that are not shown, of its own and of its parameters. -/
def Function.annotatedIn (c : Conventions) (f : Function) : Function := { f with
  parameters := f.parameters.map (·.shownIn c)
  facets := f.facets.shownIn c }

/-- A function without what is not shown. -/
def Function.shownIn (c : Conventions) (f : Function) : Function := { f.annotatedIn c with
  visibility := f.visibility.filter fun _ v => v ∉ c.ignoredVisibilities
  modality := f.modality.filter fun _ m => m ∉ c.ignoredModalities }

/-- A class-like declaration without what is not shown; of its constructors only annotations are
taken away. -/
def Classlike.shownIn (c : Conventions) (k : Classlike) : Classlike := { k with
  visibility := k.visibility.filter fun _ v => v ∉ c.ignoredVisibilities
  modality := k.modality.filter fun _ m => m ∉ c.ignoredModalities
  constructors := k.constructors.map (·.annotatedIn c)
  facets := k.facets.shownIn c }

/-- A property without what is not shown. -/
def Property.shownIn (c : Conventions) (q : Property) : Property := { q with
  visibility := q.visibility.filter fun _ v => v ∉ c.ignoredVisibilities
  modality := q.modality.filter fun _ m => m ∉ c.ignoredModalities
  facets := q.facets.shownIn c }

/-- A type alias without what is not shown. -/
def TypeAlias.shownIn (c : Conventions) (t : TypeAlias) : TypeAlias := { t with
  visibility := t.visibility.filter fun _ v => v ∉ c.ignoredVisibilities
  facets := t.facets.shownIn c }

/-- A declaration without the visibilities, modalities and annotations that are not shown. -/
def Declaration.shownIn (c : Conventions) : Declaration → Declaration
  | classlike k => classlike (k.shownIn c)
  | function f => function (f.shownIn c)
  | property q => property (q.shownIn c)
  | typeAlias t => typeAlias (t.shownIn c)
  | typeParameter t => typeParameter { t with facets := t.facets.shownIn c }
  | enumEntry e => enumEntry { e with facets := e.facets.shownIn c }

/-! ### Tokens -/

namespace Emission

/-- The tokens of an attribute are grouped after the blank ones are left out. -/
theorem perPlatform_eq (values : PlatformMap α) (token : α → String) (scope : Scope ν) :
  perPlatform values token scope
    = (groupByValue (scope.platforms.elements.filterMap fun p =>
        (((values.get? p).map token).filter fun t => !Text.isBlank t).map (Prod.mk p))).map fun g =>
          scope.factory.text g.1 [] g.2
  := by
  have htokens : ∀ p, (((values.get? p).map fun a => (p, token a)).filter fun e =>
        !Text.isBlank e.2)
      = (((values.get? p).map token).filter fun t => !Text.isBlank t).map (Prod.mk p) := by
    intro p
    cases values.get? p with
    | none => rfl
    | some a => cases h : Text.isBlank (token a) <;> simp [Option.filter, h]
  unfold perPlatform
  simp only [← groupByValue_filter (fun t => !Text.isBlank t), List.filter_filterMap, htokens]

/-- Values whose tokens are blank may be taken away. -/
theorem perPlatform_filter (shown : α → Bool) (token token' : α → String)
    (hblank : ∀ a, shown a = false → Text.isBlank (token a))
    (hsame : ∀ a, shown a = true → token' a = token a) (values : PlatformMap α) :
  (perPlatform (values.filter fun _ a => shown a) token' : Emission ν) = perPlatform values token
  := by
  have htokens : ∀ p, ((((values.filter fun _ a => shown a).get? p).map token').filter fun t =>
        !Text.isBlank t)
      = ((values.get? p).map token).filter fun t => !Text.isBlank t := by
    intro p
    rw [PlatformMap.get?_filter]
    cases values.get? p with
    | none => rfl
    | some a =>
        cases h : shown a with
        | true => simp [Option.filter, h, hsame]
        | false => simp [Option.filter, h, hblank]
  funext scope
  rw [perPlatform_eq, perPlatform_eq]
  simp only [htokens]

end Emission

namespace Conventions

variable (c : Conventions)

@[simp]
theorem visibility_showingAll (values : PlatformMap Visibility) :
  (Signature.visibility c.showingAll (values.filter fun _ v => v ∉ c.ignoredVisibilities) :
      Emission ν)
    = Signature.visibility c values
  := by
  apply Emission.perPlatform_filter fun v => decide (v ∉ c.ignoredVisibilities)
  · intro v hv
    have hignored : v ∈ c.ignoredVisibilities := by simpa using hv
    simp [visibilityToken, hignored, Text.isBlank]
  · intro v hv
    have hshown : v ∉ c.ignoredVisibilities := by simpa using hv
    simp [visibilityToken, hshown, showingAll]

@[simp]
theorem modality_showingAll (values : PlatformMap Modality) :
  (Signature.modality c.showingAll (values.filter fun _ m => m ∉ c.ignoredModalities) :
      Emission ν)
    = Signature.modality c values
  := by
  apply Emission.perPlatform_filter fun m => decide (m ∉ c.ignoredModalities)
  · intro m hm
    have hignored : m ∈ c.ignoredModalities := by simpa using hm
    simp [modalityToken, hignored, Text.isBlank]
  · intro m hm
    have hshown : m ∉ c.ignoredModalities := by simpa using hm
    simp [modalityToken, hshown, showingAll]

/-! ### Annotations -/

mutual

theorem annotationValue_showingAll (sign : AtSign) (v : AnnotationValue) :
  (c.showingAll.annotationValue sign v : Emission ν) = c.annotationValue sign v
  := by
  cases v with
  | nested id arguments =>
      rw [annotationValue, annotationValue, annotationArguments_showingAll sign.nested arguments]
  | array values =>
      rw [annotationValue, annotationValue, annotationValues_showingAll sign values]
      rfl
  | _ => rfl

theorem annotationValues_showingAll (sign : AtSign) (vs : List AnnotationValue) :
  (c.showingAll.annotationValues sign vs : List (Emission ν)) = c.annotationValues sign vs
  := by
  cases vs with
  | nil => rfl
  | cons v vs =>
      rw [annotationValues, annotationValues, annotationValue_showingAll sign v,
        annotationValues_showingAll sign vs]

theorem annotationArguments_showingAll (sign : AtSign) (as : List (String × AnnotationValue)) :
  (c.showingAll.annotationArguments sign as : List (Emission ν)) = c.annotationArguments sign as
  := by
  match as with
  | [] => rfl
  | (name, v) :: as =>
      rw [annotationArguments, annotationArguments, annotationValue_showingAll sign v,
        annotationArguments_showingAll sign as]

end

theorem annotationIn_showingAll (a : Annotation) :
  (c.showingAll.annotationIn c.showingAll.atSign a : Emission ν) = c.annotationIn c.atSign a
  := by
  unfold annotationIn
  rw [annotationArguments_showingAll]
  rfl

theorem visible_showingAll (f : Facets) :
  c.showingAll.visible (f.shownIn c).annotations = c.visible f.annotations
  := by
  simp [visible, showingAll, Facets.shownIn]

@[simp]
theorem blockAnnotations_showingAll (f : Facets) :
  (c.showingAll.blockAnnotations (f.shownIn c) : Emission ν) = c.blockAnnotations f
  := by
  simp only [blockAnnotations, visible_showingAll, annotationIn_showingAll]

@[simp]
theorem inlineAnnotations_showingAll (f : Facets) :
  (c.showingAll.inlineAnnotations (f.shownIn c) : Emission ν) = c.inlineAnnotations f
  := by
  simp only [inlineAnnotations, visible_showingAll, annotationIn_showingAll]

@[simp]
theorem showsAny_showingAll (f : Facets) :
  c.showingAll.showsAny (f.shownIn c) = c.showsAny f
  := by
  rw [showsAny, visible_showingAll, showsAny]

/-! ### Parameters and constructors -/

theorem kotlinParameter_showingAll (p : Parameter) :
  (Kotlin.parameter c.showingAll (p.shownIn c) : Emission ν) = Kotlin.parameter c p
  := by
  unfold Kotlin.parameter Parameter.shownIn
  rw [inlineAnnotations_showingAll]
  rfl

theorem constructorParameter_showingAll (p : Parameter) :
  (Kotlin.constructorParameter c.showingAll (p.shownIn c) : Emission ν)
    = Kotlin.constructorParameter c p
  := by
  unfold Kotlin.constructorParameter Parameter.shownIn
  rw [inlineAnnotations_showingAll]

theorem javaParameter_showingAll (p : Parameter) :
  (Java.parameter c.showingAll (p.shownIn c) : Emission ν) = Java.parameter c p
  := by
  unfold Java.parameter Parameter.shownIn
  rw [inlineAnnotations_showingAll]
  rfl

theorem map_shownIn {item item' : Parameter → Emission ν}
    (h : ∀ p : Parameter, item' (p.shownIn c) = item p) (ps : List Parameter) :
  (ps.map (·.shownIn c)).map item' = ps.map item
  := by
  rw [List.map_map]
  apply List.map_congr_left
  intro p _
  apply h

theorem primaryConstructor_shownIn (k : Classlike) :
  (k.shownIn c).primaryConstructor = k.primaryConstructor.map (·.annotatedIn c)
  := by
  have hmarked : ((k.constructors.map (·.annotatedIn c)).filter (·.facets.primaryConstructor))
      = (k.constructors.filter (·.facets.primaryConstructor)).map (·.annotatedIn c) := by
    rw [List.filter_map]
    rfl
  unfold Classlike.primaryConstructor Classlike.shownIn
  simp only [hmarked]
  generalize k.constructors.filter (·.facets.primaryConstructor) = marked
  match marked with
  | [] => rfl
  | [_] => rfl
  | _ :: _ :: _ => rfl

theorem primaryConstructor_showingAll (k : Function) :
  (Kotlin.primaryConstructor c.showingAll (k.annotatedIn c) : Emission ν)
    = Kotlin.primaryConstructor c k
  := by
  unfold Kotlin.primaryConstructor Function.annotatedIn
  simp only [showsAny_showingAll, inlineAnnotations_showingAll,
    c.map_shownIn c.constructorParameter_showingAll]

theorem classConstructor_showingAll (k : Classlike) :
  (Kotlin.classConstructor c.showingAll (k.shownIn c) : Emission ν) = Kotlin.classConstructor c k
  := by
  have hkind : (k.shownIn c).kind = k.kind := rfl
  unfold Kotlin.classConstructor
  rw [primaryConstructor_shownIn, hkind]
  cases k.primaryConstructor with
  | none => cases k.kind <;> rfl
  | some primary =>
      cases k.kind with
      | ordinary => apply primaryConstructor_showingAll
      | _ => rfl

/-! ### Declarations -/

theorem kotlinHeader_showingAll (k : Classlike) (platforms : PlatformSet) :
  (Kotlin.classHeader c.showingAll (k.shownIn c) platforms : NodeFactory ν → ν)
    = Kotlin.classHeader c k platforms
  := by
  have hmodality : (Kotlin.classModality c.showingAll (k.shownIn c) : Emission ν)
      = Kotlin.classModality c k := by
    unfold Kotlin.classModality Classlike.shownIn
    rw [modality_showingAll]
    rfl
  unfold Kotlin.classHeader
  rw [hmodality, classConstructor_showingAll]
  simp only [Classlike.shownIn, blockAnnotations_showingAll, visibility_showingAll]
  rfl

theorem javaHeader_showingAll (k : Classlike) (platforms : PlatformSet) :
  (Java.classHeader c.showingAll (k.shownIn c) platforms : NodeFactory ν → ν)
    = Java.classHeader c k platforms
  := by
  have hmodifiers : (Java.classModifiers c.showingAll (k.shownIn c) : Emission ν)
      = Java.classModifiers c k := by
    unfold Java.classModifiers Classlike.shownIn
    rw [modality_showingAll]
    rfl
  unfold Java.classHeader
  rw [hmodifiers]
  simp only [Classlike.shownIn, blockAnnotations_showingAll, visibility_showingAll]
  rfl

theorem classlike_showingAll (d : Dialect) (k : Classlike) :
  (d.signature c.showingAll (.classlike (k.shownIn c)) : NodeFactory ν → ν)
    = d.signature c (.classlike k)
  := by
  have hheader : (d.classHeader c.showingAll (k.shownIn c) : PlatformSet → NodeFactory ν → ν)
      = d.classHeader c k := by
    funext platforms
    cases d with
    | kotlin => apply kotlinHeader_showingAll
    | java => apply javaHeader_showingAll
  cases halias : k.facets.actualAlias with
  | none =>
      have hnone : (k.shownIn c).facets.actualAlias = none := halias
      rw [Dialect.signature_classlike d c halias, Dialect.signature_classlike d _ hnone, hheader]
      rfl
  | some aliased =>
      have hsome : (k.shownIn c).facets.actualAlias = some aliased := halias
      rw [Dialect.signature_aliasedClasslike d c halias,
        Dialect.signature_aliasedClasslike d _ hsome, hheader]
      cases d <;> rfl

theorem function_showingAll (d : Dialect) (f : Function) :
  (d.signature c.showingAll (.function (f.shownIn c)) : NodeFactory ν → ν)
    = d.signature c (.function f)
  := by
  cases d with
  | kotlin =>
      change Kotlin.function c.showingAll (f.shownIn c) = Kotlin.function c f
      unfold Kotlin.function
      simp only [Function.shownIn, Function.annotatedIn, blockAnnotations_showingAll,
        visibility_showingAll, modality_showingAll, c.map_shownIn c.kotlinParameter_showingAll]
      rfl
  | java =>
      change Java.function c.showingAll (f.shownIn c) = Java.function c f
      unfold Java.function
      simp only [Function.shownIn, Function.annotatedIn, blockAnnotations_showingAll,
        visibility_showingAll, modality_showingAll, c.map_shownIn c.javaParameter_showingAll]
      rfl

theorem property_showingAll (d : Dialect) (q : Property) :
  (d.signature c.showingAll (.property (q.shownIn c)) : NodeFactory ν → ν)
    = d.signature c (.property q)
  := by
  cases d with
  | kotlin =>
      change Kotlin.property c.showingAll (q.shownIn c) = Kotlin.property c q
      unfold Kotlin.property
      simp only [Property.shownIn, blockAnnotations_showingAll, visibility_showingAll,
        modality_showingAll]
      rfl
  | java =>
      change Java.property c.showingAll (q.shownIn c) = Java.property c q
      unfold Java.property
      simp only [Property.shownIn, blockAnnotations_showingAll, visibility_showingAll,
        modality_showingAll]
      rfl

theorem typeAlias_showingAll (d : Dialect) (t : TypeAlias) :
  (d.signature c.showingAll (.typeAlias (t.shownIn c)) : NodeFactory ν → ν)
    = d.signature c (.typeAlias t)
  := by
  have hline : (d.aliasLine c.showingAll (t.shownIn c) : TypeExpr → Emission ν)
      = d.aliasLine c t := by
    funext underlying
    unfold Dialect.aliasLine
    simp only [TypeAlias.shownIn, blockAnnotations_showingAll, visibility_showingAll]
    cases d <;> rfl
  rw [Dialect.signature_typeAlias, Dialect.signature_typeAlias, hline]
  rfl

theorem typeParameter_showingAll (d : Dialect) (t : TypeParameter) :
  (d.signature c.showingAll (Declaration.shownIn c (.typeParameter t)) : NodeFactory ν → ν)
    = d.signature c (.typeParameter t)
  := by
  have hannotations := c.blockAnnotations_showingAll (ν := ν) t.facets
  cases d with
  | kotlin =>
      change Signature.symbol _ _ (c.showingAll.blockAnnotations (t.facets.shownIn c) ++ _) = _
      rw [hannotations]
      rfl
  | java =>
      change Signature.symbol _ _ (c.showingAll.blockAnnotations (t.facets.shownIn c) ++ _) = _
      rw [hannotations]
      rfl

end Conventions

/-- A signature is the one that shows everything, of the declaration without what is not shown. -/
theorem signature_eq_showingAll (d : Dialect) (c : Conventions) (declaration : Declaration)
    (factory : NodeFactory ν) :
  d.signature c declaration factory
    = d.signature c.showingAll (declaration.shownIn c) factory
  := by
  cases declaration with
  | classlike k => exact congrFun (c.classlike_showingAll d k).symm factory
  | function f => exact congrFun (c.function_showingAll d f).symm factory
  | property q => exact congrFun (c.property_showingAll d q).symm factory
  | typeAlias t => exact congrFun (c.typeAlias_showingAll d t).symm factory
  | typeParameter t => exact congrFun (c.typeParameter_showingAll d t).symm factory
  | enumEntry e => cases d <;> rfl

end PlatformSignatures
