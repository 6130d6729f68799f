import PlatformSignatures.Proofs.PrimaryConstructors

/-!
# What a signature does not show

A signature does not look at everything that a declaration has.  Two declarations agree for a
language if they are the same where its signatures look: at attributes on the platforms where they
are written, at the primary constructor, at modifiers of the language, at the type of a receiver.
Declarations that agree have the same signature.
-/

namespace PlatformSignatures

variable {ν : Type}

/-! ### Agreement -/

/-- Two attributes agree on platforms if each of these has the same value, or none, in both. -/
def PlatformMap.AgreeOn {α : Type} (platforms : PlatformSet) (m n : PlatformMap α) : Prop :=
  ∀ p ∈ platforms, m.get? p = n.get? p

instance {α : Type} [DecidableEq α] (platforms : PlatformSet) (m n : PlatformMap α) :
    Decidable (m.AgreeOn platforms n) :=
  inferInstanceAs (Decidable (∀ p ∈ platforms.elements, m.get? p = n.get? p))

/-- Facets agree on modifiers if they have the same ones of a language. -/
def Facets.SameModifiers (d : Dialect) (f g : Facets) : Prop :=
  ∀ m, d.owns m = true → (m ∈ f.modifiers ↔ m ∈ g.modifiers)

/-- Type parameters agree whatever their platforms and annotations are. -/
structure TypeParameter.Agree (d : Dialect) (s t : TypeParameter) : Prop where
  id : s.id = t.id
  name : s.name = t.name
  bounds : s.bounds = t.bounds
  modifiers : s.facets.SameModifiers d t.facets

/-- Parameters agree whatever modifiers of other languages they have. -/
structure Parameter.Agree (d : Dialect) (p q : Parameter) : Prop where
  id : p.id = q.id
  name : p.name = q.name
  type : p.type = q.type
  annotations : p.facets.annotations = q.facets.annotations
  modifiers : p.facets.SameModifiers d q.facets

/-- Primary constructors agree if their parameters and annotations do, wherever they exist. -/
structure Function.AgreeAsPrimary (d : Dialect) (f g : Function) : Prop where
  parameters : List.Forall₂ (Parameter.Agree d) f.parameters g.parameters
  annotations : f.facets.annotations = g.facets.annotations

/-- Functions agree whatever their visibility and modality are on other platforms than their own,
and whatever their receivers are besides the type. -/
structure Function.Agree (d : Dialect) (f g : Function) : Prop where
  id : f.id = g.id
  name : f.name = g.name
  isConstructor : f.isConstructor = g.isConstructor
  platforms : f.platforms = g.platforms
  visibility : f.visibility.AgreeOn f.platforms g.visibility
  modality : f.modality.AgreeOn f.platforms g.modality
  generics : List.Forall₂ (TypeParameter.Agree d) f.generics g.generics
  receiver : f.receiver.map (·.type) = g.receiver.map (·.type)
  parameters : List.Forall₂ (Parameter.Agree d) f.parameters g.parameters
  returnType : f.returnType = g.returnType
  annotations : f.facets.annotations = g.facets.annotations
  modifiers : f.facets.SameModifiers d g.facets

/-- Properties agree whatever their accessors are, as long as both can be set or none can. -/
structure Property.Agree (d : Dialect) (q r : Property) : Prop where
  id : q.id = r.id
  name : q.name = r.name
  platforms : q.platforms = r.platforms
  visibility : q.visibility.AgreeOn q.platforms r.visibility
  modality : q.modality.AgreeOn q.platforms r.modality
  generics : List.Forall₂ (TypeParameter.Agree d) q.generics r.generics
  receiver : q.receiver.map (·.type) = r.receiver.map (·.type)
  type : q.type = r.type
  isMutable : q.setter.isSome = r.setter.isSome
  annotations : q.facets.annotations = r.facets.annotations
  modifiers : q.facets.SameModifiers d r.facets

/-- Class-like declarations agree whatever their attributes are where they have no header, and
whatever constructors they have besides the primary one. -/
structure Classlike.Agree (d : Dialect) (k l : Classlike) : Prop where
  kind : k.kind = l.kind
  id : k.id = l.id
  name : k.name = l.name
  platforms : k.platforms = l.platforms
  actualAlias : k.facets.actualAlias = l.facets.actualAlias
  visibility : k.visibility.AgreeOn k.headerPlatforms l.visibility
  modality : k.modality.AgreeOn k.headerPlatforms l.modality
  generics : List.Forall₂ (TypeParameter.Agree d) k.generics l.generics
  supertypes : k.supertypes.AgreeOn k.headerPlatforms l.supertypes
  primaryConstructor :
    Option.Rel (Function.AgreeAsPrimary d) k.primaryConstructor l.primaryConstructor
  annotations : k.facets.annotations = l.facets.annotations
  modifiers : k.facets.SameModifiers d l.facets

/-- Two declarations of a class, a function or a property agree for a language. -/
inductive Declaration.Agree (d : Dialect) : Declaration → Declaration → Prop
  | classlike {k l : Classlike} (h : k.Agree d l) : Agree d (.classlike k) (.classlike l)
  | function {f g : Function} (h : f.Agree d g) : Agree d (.function f) (.function g)
  | property {q r : Property} (h : q.Agree d r) : Agree d (.property q) (.property r)

/-! ### Attributes -/

namespace Emission

/-- Two emissions write the same on some platforms. -/
def SameOn (platforms : PlatformSet) (e e' : Emission ν) : Prop :=
  ∀ factory owner, e ⟨factory, owner, platforms⟩ = e' ⟨factory, owner, platforms⟩

namespace SameOn

variable {platforms : PlatformSet} {e₁ e₂ e₁' e₂' : Emission ν}

theorem of_eq (h : e₁ = e₁') :
  SameOn platforms e₁ e₁'
  := by
  rw [h]
  intro factory owner
  rfl

theorem append (h₁ : SameOn platforms e₁ e₁') (h₂ : SameOn platforms e₂ e₂') :
  SameOn platforms (e₁ ++ e₂) (e₁' ++ e₂')
  := by
  intro factory owner
  exact congrArg₂ (· ++ ·) (h₁ factory owner) (h₂ factory owner)

/-- What comes after is the same. -/
theorem append_right (h : SameOn platforms e₁ e₁') :
  SameOn platforms (e₁ ++ e₂) (e₁' ++ e₂)
  := h.append (of_eq rfl)

theorem symbol (owner : SymbolId) (h : SameOn platforms e₁ e₁') :
  Signature.symbol owner platforms e₁ = Signature.symbol owner platforms e₁'
  := by
  funext factory
  have hbody := h factory owner
  unfold Signature.symbol Emission.make Emission.group
  rw [hbody]

variable {α : Type} {m n : PlatformMap α}

/-- An attribute is written by its values on the platforms of the scope. -/
theorem perPlatform (h : m.AgreeOn platforms n) (token : α → String) :
  SameOn platforms (perPlatform m token : Emission ν) (perPlatform n token)
  := by
  intro factory owner
  have htokens : (platforms.elements.filterMap fun p => (m.get? p).map fun a => (p, token a))
      = platforms.elements.filterMap fun p => (n.get? p).map fun a => (p, token a) := by
    apply List.filterMap_congr
    intro p hp
    rw [h p hp]
  unfold Emission.perPlatform
  simp only [htokens]

end SameOn

end Emission

/-- The groups of an attribute on platforms are those of its values there. -/
theorem groupWithin_eq_of_agreeOn {α : Type} [DecidableEq α] {platforms : PlatformSet}
    {m n : PlatformMap α} (h : m.AgreeOn platforms n) :
  groupWithin m platforms = groupWithin n platforms
  := by
  rw [groupWithin, groupWithin, PlatformMap.filter_entries_eq, PlatformMap.filter_entries_eq]
  apply congrArg groupByValue
  apply List.filterMap_congr
  intro p hp
  rw [h p hp]

theorem Emission.SameOn.supertypes {platforms : PlatformSet}
    {m n : PlatformMap (List SymbolId)} (h : m.AgreeOn platforms n) (opening : String) :
  SameOn platforms (Signature.supertypes opening m : Emission ν) (Signature.supertypes opening n)
  := by
  intro factory owner
  unfold Signature.supertypes
  rw [groupWithin_eq_of_agreeOn h]

/-! ### Parts without platforms -/

theorem Facets.SameModifiers.modifiers_eq {d : Dialect} {f g : Facets} (h : f.SameModifiers d g) :
  Signature.modifiers d f = Signature.modifiers d g
  := by
  have hfilter : f.modifiers.filter d.owns = g.modifiers.filter d.owns := by
    ext m
    rw [OrderedSet.mem_filter, OrderedSet.mem_filter]
    exact and_congr_left (h m)
  exact congrArg (fun s : ModifierSet => String.join (s.elements.map fun m => m.keyword ++ " "))
    hfilter

theorem blockAnnotations_eq {f g : Facets} (h : f.annotations = g.annotations)
    (c : Conventions) :
  (c.blockAnnotations f : Emission ν) = c.blockAnnotations g
  := by
  rw [Conventions.blockAnnotations, h, Conventions.blockAnnotations]

theorem inlineAnnotations_eq {f g : Facets} (h : f.annotations = g.annotations)
    (c : Conventions) :
  (c.inlineAnnotations f : Emission ν) = c.inlineAnnotations g
  := by
  rw [Conventions.inlineAnnotations, h, Conventions.inlineAnnotations]

theorem map_eq_of_forall₂ {α β : Type} {R : α → α → Prop} {item : α → β} {as bs : List α}
    (h : List.Forall₂ R as bs) (hitem : ∀ a b, R a b → item a = item b) :
  as.map item = bs.map item
  := by
  induction h with
  | nil => rfl
  | cons h _ ih => rw [List.map_cons, List.map_cons, hitem _ _ h, ih]

theorem Classlike.Agree.classLink_eq {d : Dialect} {k l : Classlike} (h : k.Agree d l) :
  (Signature.classLink k : Emission ν) = Signature.classLink l
  := by
  unfold Signature.classLink Classlike.shownName
  rw [h.name, h.id]

/-! ### Kotlin -/

namespace Kotlin

theorem typeParameterBody_eq (s t : TypeParameter) (h : s.Agree .kotlin t) :
  (typeParameterBody s : Emission ν) = typeParameterBody t
  := by
  unfold typeParameterBody modifiers
  rw [h.modifiers.modifiers_eq, h.name, h.id, h.bounds]

theorem receiver_eq {p q : Option Parameter} (h : p.map (·.type) = q.map (·.type)) :
  (receiver (p.map fun r => typeExpr r.type) : Emission ν)
    = receiver (q.map fun r => typeExpr r.type)
  := by
  have htypes := congrArg (Option.map (typeExpr (ν := ν))) h
  simp only [Option.map_map, Function.comp_def] at htypes
  rw [htypes]

variable (c : Conventions)

theorem parameter_eq (p q : Parameter) (h : p.Agree .kotlin q) :
  (parameter c p : Emission ν) = parameter c q
  := by
  unfold parameter modifiers
  rw [inlineAnnotations_eq h.annotations, h.modifiers.modifiers_eq, h.name, h.type]

theorem constructorParameter_eq (p q : Parameter) (h : p.Agree .kotlin q) :
  (constructorParameter c p : Emission ν) = constructorParameter c q
  := by
  unfold constructorParameter
  rw [inlineAnnotations_eq h.annotations, h.name, h.type]

theorem primaryConstructor_eq {f g : Function} (h : f.AgreeAsPrimary .kotlin g) :
  (primaryConstructor c f : Emission ν) = primaryConstructor c g
  := by
  unfold primaryConstructor Conventions.showsAny
  rw [h.annotations, inlineAnnotations_eq h.annotations,
    map_eq_of_forall₂ h.parameters (constructorParameter_eq c)]

theorem function_eq_of_agree {f g : Function} (h : f.Agree .kotlin g) :
  (function c f : NodeFactory ν → ν) = function c g
  := by
  have hreturn : showsReturnType f = showsReturnType g := by
    unfold showsReturnType
    rw [h.isConstructor, h.returnType]
  unfold function leadingGenerics modifiers
  rw [blockAnnotations_eq h.annotations, h.modifiers.modifiers_eq,
    map_eq_of_forall₂ h.generics typeParameterBody_eq, receiver_eq h.receiver, h.name,
    map_eq_of_forall₂ h.parameters (parameter_eq c), hreturn, h.returnType, h.id, ← h.platforms]
  apply Emission.SameOn.symbol
  repeat apply Emission.SameOn.append_right
  apply Emission.SameOn.append _ (.perPlatform h.modality _)
  exact Emission.SameOn.append (.of_eq rfl) (.perPlatform h.visibility _)

theorem property_eq_of_agree {q r : Property} (h : q.Agree .kotlin r) :
  (property c q : NodeFactory ν → ν) = property c r
  := by
  have hmutable : q.isMutable = r.isMutable := h.isMutable
  unfold property leadingGenerics modifiers
  rw [blockAnnotations_eq h.annotations, h.modifiers.modifiers_eq, hmutable,
    map_eq_of_forall₂ h.generics typeParameterBody_eq, receiver_eq h.receiver, h.name, h.type, h.id,
    ← h.platforms]
  apply Emission.SameOn.symbol
  repeat apply Emission.SameOn.append_right
  apply Emission.SameOn.append _ (.perPlatform h.modality _)
  exact Emission.SameOn.append (.of_eq rfl) (.perPlatform h.visibility _)

variable {k l : Classlike} (h : k.Agree .kotlin l)
include h

theorem classConstructor_eq_of_agree :
  (classConstructor c k : Emission ν) = classConstructor c l
  := by
  have hprimary := h.primaryConstructor
  unfold classConstructor
  rw [h.kind]
  cases l.kind with
  | ordinary =>
      generalize k.primaryConstructor = f, l.primaryConstructor = g at hprimary
      cases hprimary with
      | none => rfl
      | some hfg => exact primaryConstructor_eq c hfg
  | _ => rfl

theorem classKeyword_eq :
  classKeyword k = classKeyword l
  := by
  unfold classKeyword modifiers
  rw [h.kind, h.modifiers.modifiers_eq]

theorem classModality_sameOn :
  Emission.SameOn k.headerPlatforms (classModality c k : Emission ν) (classModality c l)
  := by
  have hdata : Modifier.data ∈ k.facets.modifiers ↔ .data ∈ l.facets.modifiers :=
    h.modifiers .data rfl
  unfold classModality
  simp only [h.kind, hdata]
  split
  · apply Emission.SameOn.perPlatform h.modality
  · apply Emission.SameOn.of_eq rfl

theorem classHeader_eq_of_agree :
  (classHeader c k k.headerPlatforms : NodeFactory ν → ν) = classHeader c l k.headerPlatforms
  := by
  have hgenerics := map_eq_of_forall₂ h.generics (typeParameterBody_eq (ν := ν))
  unfold classHeader
  rw [blockAnnotations_eq h.annotations, classKeyword_eq h, h.classLink_eq, hgenerics,
    classConstructor_eq_of_agree c h, h.id]
  apply Emission.SameOn.symbol
  apply Emission.SameOn.append _ (.supertypes h.supertypes " : ")
  repeat apply Emission.SameOn.append_right
  apply Emission.SameOn.append _ (classModality_sameOn c h)
  exact Emission.SameOn.append (.of_eq rfl) (.perPlatform h.visibility _)

end Kotlin

/-! ### Java -/

namespace Java

theorem typeParameterBody_eq (s t : TypeParameter) (h : s.Agree .java t) :
  (typeParameterBody s : Emission ν) = typeParameterBody t
  := by
  unfold typeParameterBody
  rw [h.name, h.bounds]

variable (c : Conventions)

theorem parameter_eq (p q : Parameter) (h : p.Agree .java q) :
  (parameter c p : Emission ν) = parameter c q
  := by
  unfold parameter modifiers
  rw [inlineAnnotations_eq h.annotations, h.modifiers.modifiers_eq, h.type, h.name, h.id]

theorem function_eq_of_agree {f g : Function} (h : f.Agree .java g) :
  (function c f : NodeFactory ν → ν) = function c g
  := by
  unfold function modifiers
  rw [blockAnnotations_eq h.annotations, h.modifiers.modifiers_eq,
    map_eq_of_forall₂ h.generics typeParameterBody_eq, h.isConstructor, h.returnType, h.name,
    map_eq_of_forall₂ h.parameters (parameter_eq c), h.id, ← h.platforms]
  apply Emission.SameOn.symbol
  repeat apply Emission.SameOn.append_right
  apply Emission.SameOn.append _ (.perPlatform h.modality _)
  exact Emission.SameOn.append (.of_eq rfl) (.perPlatform h.visibility _)

theorem property_eq_of_agree {q r : Property} (h : q.Agree .java r) :
  (property c q : NodeFactory ν → ν) = property c r
  := by
  unfold property modifiers
  rw [blockAnnotations_eq h.annotations, h.modifiers.modifiers_eq, h.type, h.name, h.id,
    ← h.platforms]
  apply Emission.SameOn.symbol
  repeat apply Emission.SameOn.append_right
  apply Emission.SameOn.append _ (.perPlatform h.modality _)
  exact Emission.SameOn.append (.of_eq rfl) (.perPlatform h.visibility _)

variable {k l : Classlike} (h : k.Agree .java l)
include h

theorem classModifiers_sameOn :
  Emission.SameOn k.headerPlatforms (classModifiers c k : Emission ν) (classModifiers c l)
  := by
  unfold classModifiers modifiers
  rw [h.kind, h.modifiers.modifiers_eq]
  split
  · exact Emission.SameOn.append (.perPlatform h.modality _) (.of_eq rfl)
  · apply Emission.SameOn.of_eq rfl

theorem classHeader_eq_of_agree :
  (classHeader c k k.headerPlatforms : NodeFactory ν → ν) = classHeader c l k.headerPlatforms
  := by
  have hgenerics := map_eq_of_forall₂ h.generics (typeParameterBody_eq (ν := ν))
  unfold classHeader
  rw [blockAnnotations_eq h.annotations, h.kind, h.classLink_eq, hgenerics, h.id]
  apply Emission.SameOn.symbol
  apply Emission.SameOn.append _ (.supertypes h.supertypes " extends ")
  repeat apply Emission.SameOn.append_right
  apply Emission.SameOn.append _ (classModifiers_sameOn c h)
  exact Emission.SameOn.append (.of_eq rfl) (.perPlatform h.visibility _)

end Java

/-! ### Either language -/

theorem Signature.aliasedClasslike_congr {k l : Classlike} {aliased : PlatformMap TypeExpr}
    {header header' : PlatformSet → NodeFactory ν → ν} {line : TypeExpr → Emission ν}
    (hid : k.id = l.id) (hplatforms : k.platforms = l.platforms)
    (hheader : header (k.regularPlatforms aliased) = header' (k.regularPlatforms aliased)) :
  aliasedClasslike k aliased header line = aliasedClasslike l aliased header' line
  := by
  have hregular : (k.platforms.filter fun p => !aliased.contains p)
      = k.regularPlatforms aliased := by
    ext p
    simp [← PlatformMap.contains_iff]
  unfold aliasedClasslike
  simp only [← hid, ← hplatforms, hregular, hheader]

section

variable {d : Dialect} {k l : Classlike} (h : k.Agree d l) (c : Conventions)
include h

theorem Classlike.Agree.classHeader_eq :
  (d.classHeader c k k.headerPlatforms : NodeFactory ν → ν)
    = d.classHeader c l k.headerPlatforms
  := by
  cases d with
  | kotlin => apply Kotlin.classHeader_eq_of_agree c h
  | java => apply Java.classHeader_eq_of_agree c h

theorem Classlike.Agree.classLine_eq :
  (d.classLine k : TypeExpr → Emission ν) = d.classLine l
  := by
  funext target
  unfold Dialect.classLine Dialect.aliasedHead
  rw [h.classLink_eq]

theorem Classlike.Agree.signature_eq :
  (d.signature c (.classlike k) : NodeFactory ν → ν) = d.signature c (.classlike l)
  := by
  have hheader := h.classHeader_eq (ν := ν) c
  cases halias : k.facets.actualAlias with
  | none =>
      have hplatforms : k.headerPlatforms = k.platforms := by
        rw [headerPlatforms, halias]
      rw [Dialect.signature_classlike d c halias,
        Dialect.signature_classlike d c (h.actualAlias.symm.trans halias), ← h.platforms,
        ← hplatforms, hheader]
  | some aliased =>
      have hplatforms : k.headerPlatforms = k.regularPlatforms aliased := by
        rw [headerPlatforms, halias]
      rw [Dialect.signature_aliasedClasslike d c halias,
        Dialect.signature_aliasedClasslike d c (h.actualAlias.symm.trans halias), h.classLine_eq]
      apply Signature.aliasedClasslike_congr h.id h.platforms
      rw [← hplatforms, hheader]

end

/-- Declarations that agree for a language have the same signature in it, by whatever conventions
and with whatever nodes. -/
theorem signature_eq_of_agree (d : Dialect) (c : Conventions) {x y : Declaration}
    (h : x.Agree d y) (factory : NodeFactory ν) :
  d.signature c x factory = d.signature c y factory
  := by
  cases h with
  | classlike h => rw [h.signature_eq c]
  | function h =>
      cases d with
      | kotlin => exact congrFun (Kotlin.function_eq_of_agree c h) factory
      | java => exact congrFun (Java.function_eq_of_agree c h) factory
  | property h =>
      cases d with
      | kotlin => exact congrFun (Kotlin.property_eq_of_agree c h) factory
      | java => exact congrFun (Java.property_eq_of_agree c h) factory

/-- The class that is constructed as an alias, changed where its signature does not look: where it
is an alias, in its other constructors, and in how and where its primary constructor can be used. -/
def Classlike.constructedElsewhere : Classlike := { Classlike.constructedAsAlias with
  visibility := PlatformMap.ofList
    [("js", .publicAccess), ("jvm", .privateAccess), ("native", .internalAccess)]
  modality := PlatformMap.ofList [("jvm", .abstract)]
  supertypes := PlatformMap.ofList [("jvm", [SymbolId.ofClass "java.io" "Serializable"])]
  constructors := [
    { Function.pointConstructor with parameters := [], facets := {} },
    { Function.pointConstructor with
      platforms := OrderedSet.ofList ["js", "jvm"]
      visibility := PlatformMap.ofList [("js", .privateAccess)]
      returnType := .void }]
  facets := { Classlike.constructedAsAlias.facets with
    modifiers := OrderedSet.singleton .static } }

theorem signature_eq_of_agree_constructedElsewhere :
  Declaration.Agree .kotlin (.classlike .constructedAsAlias) (.classlike .constructedElsewhere) ∧
    Classlike.constructedAsAlias ≠ .constructedElsewhere ∧
    Dialect.kotlin.signature .kotlin (.classlike .constructedAsAlias) Node.factory
      = Dialect.kotlin.signature .kotlin (.classlike .constructedElsewhere) Node.factory
  := by
  have hagree : Classlike.constructedAsAlias.Agree .kotlin .constructedElsewhere := {
    kind := rfl
    id := rfl
    name := rfl
    platforms := rfl
    actualAlias := rfl
    visibility := by decide
    modality := by decide
    generics := .nil
    supertypes := by decide
    primaryConstructor := .some
      ⟨.cons ⟨rfl, rfl, rfl, rfl, fun _ _ => Iff.rfl⟩ .nil, rfl⟩
    annotations := rfl
    modifiers := by
      intro m
      cases m <;> decide }
  exact ⟨.classlike hagree, by decide, signature_eq_of_agree .kotlin .kotlin (.classlike hagree) _⟩

end PlatformSignatures
