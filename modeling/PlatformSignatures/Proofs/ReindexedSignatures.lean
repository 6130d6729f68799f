import PlatformSignatures.Proofs.Following
import PlatformSignatures.Proofs.Lines

/-!
# Signatures of reindexed declarations

The signature of a reindexed declaration corresponds to the signature of the declaration, for every
correspondence that follows the reindexing.  A signature consists of attributes that are split into
groups and of parts that do not look at platforms at all.
-/

namespace PlatformSignatures

variable {ν μ : Type}

/-- The platforms of the outermost node of a signature: a class is also shown where it is only an
alias. -/
def Declaration.extent : Declaration → PlatformSet
  | classlike c =>
    match c.facets.actualAlias with
    | none => c.platforms
    | some aliased => c.platforms.union aliased.keys
  | d => d.platforms

/-- A platform on which a declaration is shown is one of its own or one of an attribute. -/
theorem Declaration.mem_platformSets_of_mem_extent (declaration : Declaration) {p : Platform}
    (hp : p ∈ declaration.extent) :
  ∃ platforms ∈ declaration.platformSets, p ∈ platforms
  := by
  cases declaration with
  | classlike c =>
      cases halias : c.facets.actualAlias with
      | none =>
          use c.platforms
          simpa [extent, platformSets, halias] using hp
      | some aliased =>
          have hcases : p ∈ c.platforms ∨ p ∈ aliased.keys := by
            simpa [extent, halias] using hp
          cases hcases with
          | inl h => exact ⟨c.platforms, by simp [platformSets], h⟩
          | inr h =>
              exact ⟨aliased.keys, by simp [platformSets, Facets.platformSets, halias], h⟩
  | _ d => exact ⟨d.platforms, List.mem_cons_self, hp⟩

/-- Whether a declaration has a signature of its own for each type that it is an alias of. -/
def Declaration.isAlias : Declaration → Bool
  | classlike k => k.facets.actualAlias.isSome
  | typeAlias _ => true
  | _ => false

/-- Whether a declaration is an enum entry. -/
def Declaration.isEnumEntry : Declaration → Bool
  | enumEntry _ => true
  | _ => false

/-- The outermost node of a signature is for all platforms on which the declaration is shown. -/
theorem platforms_signature (d : Dialect) (c : Conventions) (declaration : Declaration) :
  (d.signature c declaration Node.factory).platforms = declaration.extent
  := by
  cases declaration with
  | classlike k =>
      cases halias : k.facets.actualAlias <;> cases d <;>
        simp only [Dialect.signature, Kotlin.signature, Kotlin.classlike, Java.signature,
          Java.classlike, Declaration.extent, halias] <;>
        rfl
  | _ => cases d <;> rfl

/-- A class that is declared on two platforms and is an alias on one of them. -/
def Classlike.partlyAliased : Classlike where
  kind := .ordinary
  id := SymbolId.ofClass "pkg" "Atomic"
  name := "Atomic"
  platforms := OrderedSet.ofList ["js", "jvm"]
  visibility := PlatformMap.ofList [("js", .internalAccess), ("jvm", .publicAccess)]
  facets := { actualAlias := some (PlatformMap.ofList
    [("jvm", .nullable (.ofSymbol (SymbolId.ofClass "java.util" "Atomic")))]) }

namespace Correspondence

variable {R : Correspondence ν μ}

/-! ### Parts that do not look at platforms -/

namespace Relates

theorem parameterList {es : List (Emission ν)} {fs : List (Emission μ)}
    (h : List.Forall₂ R.Relates es fs) :
  R.Relates (Signature.parameterList es) (Signature.parameterList fs)
  := by
  cases h with
  | nil => apply text "()"
  | cons h hs => apply enclosed "(" ")" ", " (.cons h hs)

theorem classLink (c : Classlike) :
  R.Relates (Signature.classLink c) (Signature.classLink c)
  := link c.shownName c.id

theorem kotlinTypeParameter (t : TypeParameter) :
  R.Relates (Kotlin.typeParameterBody t) (Kotlin.typeParameterBody t)
  := ((text _).append (link t.name t.id)).append (enclosed _ _ _ (map kotlinType t.bounds))

theorem kotlinGenerics (closing : String) (ts : List TypeParameter) :
  R.Relates (.enclosed "<" closing ", " (ts.map Kotlin.typeParameterBody))
    (.enclosed "<" closing ", " (ts.map Kotlin.typeParameterBody))
  := enclosed _ _ _ (map kotlinTypeParameter ts)

theorem kotlinParameter (c : Conventions) (p : Parameter) :
  R.Relates (Kotlin.parameter c p) (Kotlin.parameter c p)
  := ((((inlineAnnotations c p.facets).append (text _)).append (text _)).append (text ": ")).append
    (kotlinType p.type)

theorem kotlinConstructorParameter (c : Conventions) (p : Parameter) :
  R.Relates (Kotlin.constructorParameter c p) (Kotlin.constructorParameter c p)
  := (((inlineAnnotations c p.facets).append (styledText _ [.bold])).append (text ": ")).append
    (kotlinType p.type)

theorem kotlinReceiver (p : Option Parameter) :
  R.Relates (Kotlin.receiver (p.map fun r => Kotlin.typeExpr r.type))
    (Kotlin.receiver (p.map fun r => Kotlin.typeExpr r.type))
  := by
  cases p with
  | none => apply receiver .none
  | some p => apply receiver (.some (kotlinType p.type))

theorem primaryConstructor (c : Conventions) (k : Function) :
  R.Relates (Kotlin.primaryConstructor c k) (Kotlin.primaryConstructor c k)
  := by
  have hparameters := map (R := R) (kotlinConstructorParameter c) k.parameters
  unfold Kotlin.primaryConstructor
  split
  · exact ((nbsp.append (inlineAnnotations c k.facets)).append (text "constructor")).append
      (parameterList hparameters)
  · apply enclosed "(" ")" ", " hparameters

theorem classConstructor (c : Conventions) (d : Classlike) :
  R.Relates (Kotlin.classConstructor c d) (Kotlin.classConstructor c d)
  := by
  unfold Kotlin.classConstructor
  split
  · apply primaryConstructor c _
  · apply nothing

theorem javaTypeParameter (t : TypeParameter) :
  R.Relates (Java.typeParameterBody t) (Java.typeParameterBody t)
  := (text _).append (enclosed _ _ _ (map javaType t.bounds))

theorem javaGenerics (closing : String) (ts : List TypeParameter) :
  R.Relates (.enclosed "<" closing ", " (ts.map Java.typeParameterBody))
    (.enclosed "<" closing ", " (ts.map Java.typeParameterBody))
  := enclosed _ _ _ (map javaTypeParameter ts)

theorem typeBefore (t : TypeExpr) :
  R.Relates (Java.typeBefore t) (Java.typeBefore t)
  := (javaType t).append nbsp

theorem javaParameter (c : Conventions) (p : Parameter) :
  R.Relates (Java.parameter c p) (Java.parameter c p)
  := (((inlineAnnotations c p.facets).append (text _)).append (typeBefore p.type)).append
    (link _ p.id)

theorem aliasHead (d : Dialect) (t : TypeAlias) :
  R.Relates (d.aliasHead t) (d.aliasHead t)
  := by
  cases d with
  | kotlin => exact ((text _).append (text "typealias ")).append (kotlinType t.type)
  | java => apply javaType t.type

theorem aliasedHead (d : Dialect) (k : Classlike) :
  R.Relates (d.aliasedHead k) (d.aliasedHead k)
  := by
  cases d with
  | kotlin => exact ((text _).append (classLink k)).append (text " = ")
  | java => exact (classLink k).append (text " = ")

theorem classLine (d : Dialect) (k : Classlike) (target : TypeExpr) :
  R.Relates (d.classLine k target) (d.classLine k target)
  := (aliasedHead d k).append (typeExpr d target)

end Relates

variable {r : Reindexing} {admitted : Platform → Prop} {keeps : PlatformSet → Prop}

namespace FollowsInside

variable (h : R.FollowsInside r admitted keeps) (c : Conventions)
include h

/-! ### Kotlin -/

theorem kotlinHeader (d : Classlike)
    (hd : ∀ ps ∈ (Declaration.classlike d).platformSets, ∀ p ∈ ps, admitted p)
    (part : PlatformSet) :
  R.RelatesSymbols d.id part (r.sets part) (Kotlin.classHeader c d part)
    (Kotlin.classHeader c (d.reindex r) (r.sets part))
  := by
  have hvisibility := h.visibility c d.visibility (hd _ (by simp [Declaration.platformSets]))
  have hmodality : R.Relates (Kotlin.classModality c d) (Kotlin.classModality c (d.reindex r)) :=
    .onlyIf _ (h.modality c d.modality (hd _ (by simp [Declaration.platformSets])))
  have hsupertypes := h.supertypes " : " d.supertypes (hd _ (by simp [Declaration.platformSets]))
  apply Relates.symbol
  exact (((((((Relates.blockAnnotations c d.facets).append hvisibility).append hmodality).append
    (.text (Kotlin.classKeyword d))).append (.classLink d)).append
    (.kotlinGenerics ">" d.generics)).append (.classConstructor c d)).append hsupertypes

theorem kotlinFunction (f : Function)
    (hd : ∀ ps ∈ (Declaration.function f).platformSets, ∀ p ∈ ps, admitted p) :
  R.RelatesSymbols f.id f.platforms (r.sets f.platforms) (Kotlin.function c f)
    (Kotlin.function c (f.reindex r))
  := by
  have hvisibility := h.visibility c f.visibility (hd _ (by simp [Declaration.platformSets]))
  have hmodality := h.modality c f.modality (hd _ (by simp [Declaration.platformSets]))
  have hparameters := Relates.map (R := R) (Relates.kotlinParameter c) f.parameters
  have hreturn := Relates.onlyIf (R := R) (Kotlin.showsReturnType f)
    (.append (.text ": ") (.kotlinType f.returnType))
  apply Relates.symbol
  exact (((((((((Relates.blockAnnotations c f.facets).append hvisibility).append hmodality).append
    (.text (Kotlin.modifiers f.facets))).append (.text "fun ")).append
    (.kotlinGenerics "> " f.generics)).append (.kotlinReceiver f.receiver)).append
    (.link f.name f.id)).append (.parameterList hparameters)).append hreturn

theorem kotlinProperty (q : Property)
    (hd : ∀ ps ∈ (Declaration.property q).platformSets, ∀ p ∈ ps, admitted p) :
  R.RelatesSymbols q.id q.platforms (r.sets q.platforms) (Kotlin.property c q)
    (Kotlin.property c (q.reindex r))
  := by
  have hvisibility := h.visibility c q.visibility (hd _ (by simp [Declaration.platformSets]))
  have hmodality := h.modality c q.modality (hd _ (by simp [Declaration.platformSets]))
  apply Relates.symbol
  exact (((((((((Relates.blockAnnotations c q.facets).append hvisibility).append hmodality).append
    (.text (Kotlin.modifiers q.facets))).append (.text _)).append
    (.kotlinGenerics "> " q.generics)).append (.kotlinReceiver q.receiver)).append
    (.link q.name q.id)).append (.text ": ")).append (.kotlinType q.type)

/-! ### Java -/

theorem javaHeader (d : Classlike)
    (hd : ∀ ps ∈ (Declaration.classlike d).platformSets, ∀ p ∈ ps, admitted p)
    (part : PlatformSet) :
  R.RelatesSymbols d.id part (r.sets part) (Java.classHeader c d part)
    (Java.classHeader c (d.reindex r) (r.sets part))
  := by
  have hvisibility := h.visibility c d.visibility (hd _ (by simp [Declaration.platformSets]))
  have hmodality := h.modality c d.modality (hd _ (by simp [Declaration.platformSets]))
  have hmodifiers : R.Relates (Java.classModifiers c d) (Java.classModifiers c (d.reindex r)) :=
    .onlyIf _ (hmodality.append (.text (Java.modifiers d.facets)))
  have hsupertypes := h.supertypes " extends " d.supertypes
    (hd _ (by simp [Declaration.platformSets]))
  apply Relates.symbol
  exact ((((((Relates.blockAnnotations c d.facets).append hvisibility).append hmodifiers).append
    (.text (Java.classKeyword d.kind))).append (.classLink d)).append
    (.javaGenerics ">" d.generics)).append hsupertypes

theorem javaFunction (f : Function)
    (hd : ∀ ps ∈ (Declaration.function f).platformSets, ∀ p ∈ ps, admitted p) :
  R.RelatesSymbols f.id f.platforms (r.sets f.platforms) (Java.function c f)
    (Java.function c (f.reindex r))
  := by
  have hvisibility := h.visibility c f.visibility (hd _ (by simp [Declaration.platformSets]))
  have hmodality := h.modality c f.modality (hd _ (by simp [Declaration.platformSets]))
  have hparameters := Relates.map (R := R) (Relates.javaParameter c) f.parameters
  have hreturn : R.Relates (if f.isConstructor then .nothing else Java.typeBefore f.returnType)
      (if f.isConstructor then .nothing else Java.typeBefore f.returnType) := by
    split
    · exact .nothing
    · exact .typeBefore f.returnType
  apply Relates.symbol
  exact (((((((Relates.blockAnnotations c f.facets).append hvisibility).append hmodality).append
    (.text (Java.modifiers f.facets))).append (.javaGenerics "> " f.generics)).append
    hreturn).append (.link f.name f.id)).append (.parameterList hparameters)

theorem javaProperty (q : Property)
    (hd : ∀ ps ∈ (Declaration.property q).platformSets, ∀ p ∈ ps, admitted p) :
  R.RelatesSymbols q.id q.platforms (r.sets q.platforms) (Java.property c q)
    (Java.property c (q.reindex r))
  := by
  have hvisibility := h.visibility c q.visibility (hd _ (by simp [Declaration.platformSets]))
  have hmodality := h.modality c q.modality (hd _ (by simp [Declaration.platformSets]))
  apply Relates.symbol
  exact (((((Relates.blockAnnotations c q.facets).append hvisibility).append hmodality).append
    (.text (Java.modifiers q.facets))).append (.typeBefore q.type)).append (.link q.name q.id)

/-! ### Either language -/

theorem classHeader (d : Dialect) (k : Classlike)
    (hd : ∀ ps ∈ (Declaration.classlike k).platformSets, ∀ p ∈ ps, admitted p)
    (part : PlatformSet) :
  R.RelatesSymbols k.id part (r.sets part) (d.classHeader c k part)
    (d.classHeader c (k.reindex r) (r.sets part))
  := by
  cases d with
  | kotlin => apply h.kotlinHeader c k hd
  | java => apply h.javaHeader c k hd

theorem aliasLine (d : Dialect) (t : TypeAlias)
    (hd : ∀ ps ∈ (Declaration.typeAlias t).platformSets, ∀ p ∈ ps, admitted p)
    (underlying : TypeExpr) :
  R.Relates (d.aliasLine c t underlying) (d.aliasLine c (t.reindex r) underlying)
  := by
  have hvisibility := h.visibility c t.visibility (hd _ (by simp [Declaration.platformSets]))
  exact ((((Relates.blockAnnotations c t.facets).append hvisibility).append
    (.aliasHead d t)).append (.text " = ")).append (.typeExpr d underlying)

/-- A declaration that is no alias and no enum entry has one signature, whose body is related to
that of the reindexed declaration. -/
theorem ordinary (d : Dialect) {declaration : Declaration}
    (hd : ∀ ps ∈ declaration.platformSets, ∀ p ∈ ps, admitted p)
    (halias : declaration.isAlias = false) (hentry : declaration.isEnumEntry = false) :
  R.RelatesSymbols declaration.id declaration.platforms (r.sets declaration.platforms)
    (d.signature c declaration) (d.signature c (declaration.reindex r))
  := by
  cases declaration with
  | classlike k =>
      have hnone : k.facets.actualAlias = none := by
        simpa [Declaration.isAlias] using halias
      have hreindexed : (k.reindex r).facets.actualAlias = none := by
        simp [Classlike.reindex, Facets.reindex, hnone]
      rw [Dialect.signature_classlike d c hnone, Declaration.reindex,
        Dialect.signature_classlike d c hreindexed]
      apply h.classHeader c d k hd
  | function f =>
      cases d with
      | kotlin => apply h.kotlinFunction c f hd
      | java => apply h.javaFunction c f hd
  | property q =>
      cases d with
      | kotlin => apply h.kotlinProperty c q hd
      | java => apply h.javaProperty c q hd
  | typeAlias t => cases halias
  | typeParameter t =>
      have hannotations := Relates.blockAnnotations (R := R) c t.facets
      cases d with
      | kotlin => exact (hannotations.append (.kotlinTypeParameter t)).symbol _ _ _
      | java => exact (hannotations.append (.javaTypeParameter t)).symbol _ _ _
  | enumEntry e => cases hentry

end FollowsInside

/-! ### Whole signatures -/

/-- The signature of a declaration is related to the signature of the reindexed declaration. -/
theorem Follows.signature (h : R.Follows r admitted keeps) {F : NodeFactory ν} {G : NodeFactory μ}
    (c : Conventions) (d : Dialect) (declaration : Declaration)
    (hd : ∀ ps ∈ declaration.platformSets, ∀ p ∈ ps, admitted p)
    (hkeeps : keeps declaration.extent)
    (hs : R.scopes ⟨F, declaration.id, declaration.extent⟩
      ⟨G, declaration.id, r.sets declaration.extent⟩) :
  R.nodes ⟨F, declaration.id, declaration.extent⟩
    ⟨G, declaration.id, r.sets declaration.extent⟩
    [d.signature c declaration F] [d.signature c (declaration.reindex r) G]
  := by
  cases declaration with
  | classlike k =>
      cases halias : k.facets.actualAlias with
      | none =>
          have hextent : (Declaration.classlike k).extent = k.platforms := by
            simp [Declaration.extent, halias]
          rw [hextent] at hs ⊢
          apply h.symbols hs
          apply h.ordinary c d hd _ rfl
          simp [Declaration.isAlias, halias]
      | some aliased =>
          have hextent : (Declaration.classlike k).extent = k.platforms.union aliased.keys := by
            simp [Declaration.extent, halias]
          have hsome : (k.reindex r).facets.actualAlias = some (r.maps aliased) := by
            simp [Classlike.reindex, Facets.reindex, halias]
          have hplatforms := hd k.platforms (by simp [Declaration.platformSets])
          have haliased := hd aliased.keys (by
            simp [Declaration.platformSets, Facets.platformSets, halias])
          rw [hextent] at hs ⊢
          rw [Dialect.signature_aliasedClasslike d c halias, Declaration.reindex,
            Dialect.signature_aliasedClasslike d c hsome]
          apply h.aliasedClasslike k aliased hplatforms haliased hs
          · intro part hpart
            apply h.symbols hpart (h.classHeader c d k hd part)
          · apply Relates.classLine d k
  | typeAlias t =>
      rw [Dialect.signature_typeAlias, Declaration.reindex, Dialect.signature_typeAlias]
      apply h.typeAlias t (hd _ (by simp [Declaration.platformSets])) hkeeps hs
      apply h.aliasLine c d t hd
  | enumEntry e => cases d <;> apply h.make .symbol [.monospace] hs .nothing
  | _ =>
      apply h.symbols hs
      apply h.ordinary c d hd rfl rfl

end Correspondence

end PlatformSignatures
