import PlatformSignatures.Model
import PlatformSignatures.Proofs.Skeleton
import PlatformSignatures.Proofs.Slicing

/-!
# Primary constructors

The header of a class is written with its primary constructor on all platforms of the header, while
the constructor may exist on some of them only.  What a reader of a platform sees of a header is its
slice there, so the constructor is seen on every platform of the header unless there is nothing to
see of it.
-/

namespace PlatformSignatures

/-! ### Headers -/

/-- The platforms on which a class has its header: those where it is not an alias. -/
def Classlike.headerPlatforms (k : Classlike) : PlatformSet :=
  match k.facets.actualAlias with
  | none => k.platforms
  | some aliased => k.regularPlatforms aliased

/-- A class without the constructors that are marked as primary. -/
def Classlike.withoutPrimary (k : Classlike) : Classlike :=
  { k with constructors := k.constructors.filter fun f => !f.facets.primaryConstructor }

theorem Classlike.primaryConstructor_withoutPrimary (k : Classlike) :
  k.withoutPrimary.primaryConstructor = none
  := by
  have hfilter : k.withoutPrimary.constructors.filter (·.facets.primaryConstructor) = [] := by
    simp [withoutPrimary]
  rw [primaryConstructor, hfilter]

/-- The slice of a signature at one of its platforms is made of the slices of what it holds. -/
theorem slice_symbol {owner : SymbolId} {platforms : PlatformSet} {p : Platform}
    (hp : p ∈ platforms) (body : Emission Node) :
  (Signature.symbol owner platforms body Node.factory).slice? p
    = some (.group (some .symbol) (some owner) [.monospace] (OrderedSet.singleton p)
        [.group none none [.block] (OrderedSet.singleton p)
          (Node.sliceList p (body ⟨Node.factory, owner, platforms⟩))])
  := by
  change Node.slice? p (.group _ _ _ _ [.group _ _ _ _ (body _)]) = _
  simp [Node.slice?, Node.sliceList, hp]

/-- Without one of its parts, a signature has the same slice exactly if the slice of that part is
empty. -/
theorem slice_symbol_without_eq_iff {owner : SymbolId} {platforms : PlatformSet} {p : Platform}
    (hp : p ∈ platforms) (before part after : Emission Node) :
  (Signature.symbol owner platforms (before ++ part ++ after) Node.factory).slice? p
      = (Signature.symbol owner platforms (before ++ .nothing ++ after) Node.factory).slice? p
    ↔ Node.sliceList p (part ⟨Node.factory, owner, platforms⟩) = []
  := by
  have happend : ∀ (e f : Emission Node) (scope : Scope Node),
      Node.sliceList p ((e ++ f : Emission Node) scope)
        = Node.sliceList p (e scope) ++ Node.sliceList p (f scope) :=
    fun _ _ _ => Node.sliceList_append p _ _
  rw [slice_symbol hp, slice_symbol hp]
  simp only [Option.some.injEq, Node.group.injEq, List.cons.injEq, true_and, and_true, happend,
    List.append_left_inj, List.append_right_inj]
  rfl

namespace Kotlin

/-- What stands before the constructor in the header of a class. -/
def beforeConstructor {ν : Type} (c : Conventions) (k : Classlike) : Emission ν :=
  c.blockAnnotations k.facets ++ Signature.visibility c k.visibility ++ classModality c k ++
    .text (classKeyword k) ++ Signature.classLink k ++
    .enclosed "<" ">" ", " (k.generics.map typeParameterBody)

theorem classHeader_eq {ν : Type} (c : Conventions) (k : Classlike) (platforms : PlatformSet) :
  (classHeader c k platforms : NodeFactory ν → ν)
    = Signature.symbol k.id platforms
        (beforeConstructor c k ++ classConstructor c k ++ Signature.supertypes " : " k.supertypes)
  := rfl

/-- The header of a class is a symbol of its signature, if there is a platform for it. -/
theorem classHeader_mem_symbols (c : Conventions) {k : Classlike} {p : Platform}
    (hp : p ∈ k.headerPlatforms) :
  classHeader c k k.headerPlatforms Node.factory
    ∈ (Dialect.kotlin.signature c (.classlike k) Node.factory).symbols
  := by
  cases halias : k.facets.actualAlias with
  | none =>
      have hplatforms : k.headerPlatforms = k.platforms := by
        simp [Classlike.headerPlatforms, halias]
      rw [Dialect.signature_classlike .kotlin c halias, hplatforms, Node.symbols_classHeader]
      apply List.mem_singleton_self
  | some aliased =>
      have hplatforms : k.headerPlatforms
          = k.platforms.filter fun p => !aliased.contains p := by
        ext p
        simp [Classlike.headerPlatforms, halias, ← PlatformMap.contains_iff]
      have hne : k.headerPlatforms.isEmpty = false := by
        apply (OrderedSet.isEmpty_eq_false_iff _).mpr
        use p
      rw [Node.symbols_aliasedClasslike .kotlin c halias, ← hplatforms, hne]
      apply List.mem_append_left
      apply List.mem_singleton_self

/-! ### Constructors -/

/-- There is something to show of a constructor if it has parameters or annotations that are
shown. -/
def ShowsConstructor (c : Conventions) (f : Function) : Prop :=
  f.parameters ≠ [] ∨ c.showsAny f.facets = true

/-- A constructor writes something exactly if it has something to show. -/
theorem primaryConstructor_ne_nil_iff (c : Conventions) (f : Function) (scope : Scope Node) :
  primaryConstructor c f scope ≠ [] ↔ ShowsConstructor c f
  := by
  have hnbsp : (String.singleton Text.nbsp) ≠ "" := by decide
  cases hshows : c.showsAny f.facets with
  | true =>
      have hwrites : primaryConstructor c f scope ≠ [] := by
        rw [primaryConstructor, hshows, if_pos rfl]
        change (Emission.nbsp scope ++ _) ++ _ ++ _ ≠ []
        simp [Emission.nbsp, Emission.text, Emission.styledText, hnbsp]
      exact iff_of_true hwrites (Or.inr hshows)
  | false =>
      have hparameters : ShowsConstructor c f ↔ f.parameters ≠ [] := by
        simp [ShowsConstructor, hshows]
      rw [hparameters, not_iff_not, primaryConstructor, hshows, if_neg Bool.false_ne_true]
      cases f.parameters with
      | nil => exact iff_of_true rfl rfl
      | cons x xs =>
          apply iff_of_false
          · change Emission.text "(" scope ++ _ ++ _ ≠ []
            simp [Emission.text, Emission.styledText]
          · apply List.cons_ne_nil

variable {c : Conventions} {k : Classlike} {f : Function}

theorem classConstructor_eq (hkind : k.kind = .ordinary)
    (hprimary : k.primaryConstructor = some f) :
  (classConstructor c k : Emission Node) = primaryConstructor c f
  := by
  simp only [classConstructor, hkind, hprimary]

theorem classConstructor_withoutPrimary :
  (classConstructor c k.withoutPrimary : Emission Node) = .nothing
  := by
  rw [classConstructor, k.primaryConstructor_withoutPrimary]
  cases k.withoutPrimary.kind <;> rfl

/-- At a platform of a header, the slice of the header is that of the header without the
constructor exactly if the constructor has nothing to show. -/
theorem slice_classHeader_eq_iff (hkind : k.kind = .ordinary)
    (hprimary : k.primaryConstructor = some f) {platforms : PlatformSet} {p : Platform}
    (hp : p ∈ platforms) :
  (classHeader c k platforms Node.factory).slice? p
      = (classHeader c k.withoutPrimary platforms Node.factory).slice? p
    ↔ ¬ ShowsConstructor c f
  := by
  have hsliced := Correspondence.Relates.classConstructor (R := .slicing p) c k
    (s := ⟨Node.factory, k.id, platforms⟩)
    (t := ⟨Node.factory, k.id, (Reindexing.only p).sets platforms⟩) ⟨rfl, rfl, rfl, rfl⟩
  change Node.sliceList p _ = if p ∈ platforms then _ else [] at hsliced
  rw [if_pos hp] at hsliced
  rw [classHeader_eq, classHeader_eq, classConstructor_withoutPrimary]
  apply Iff.trans (slice_symbol_without_eq_iff hp _ _ _)
  rw [hsliced, classConstructor_eq hkind hprimary, ← primaryConstructor_ne_nil_iff c f, not_not]

/-- The header of a class, which is one of the symbols of its signature, is seen with the constructor
on all of its platforms if the constructor has something to show.  So it is seen without the
constructor wherever that does not exist exactly if the constructor exists on all platforms of the
header or has nothing to show. -/
theorem seen_without_constructor_iff (c : Conventions) {k : Classlike} {f : Function}
    (hkind : k.kind = .ordinary) (hprimary : k.primaryConstructor = some f) :
  (∀ p ∈ k.headerPlatforms,
    classHeader c k k.headerPlatforms Node.factory
        ∈ (Dialect.kotlin.signature c (.classlike k) Node.factory).symbols ∧
      ((classHeader c k k.headerPlatforms Node.factory).slice? p
          = (classHeader c k.withoutPrimary k.headerPlatforms Node.factory).slice? p
        ↔ ¬ ShowsConstructor c f)) ∧
    ((∀ p ∈ k.headerPlatforms, p ∉ f.platforms →
        (classHeader c k k.headerPlatforms Node.factory).slice? p
          = (classHeader c k.withoutPrimary k.headerPlatforms Node.factory).slice? p)
      ↔ (∀ p ∈ k.headerPlatforms, p ∈ f.platforms) ∨ ¬ ShowsConstructor c f)
  := by
  constructor
  · intro p hp
    exact ⟨classHeader_mem_symbols c hp, slice_classHeader_eq_iff hkind hprimary hp⟩
  constructor
  · intro h
    by_cases hshown : ShowsConstructor c f
    · apply Or.inl
      intro p hp
      by_contra hnot
      exact (slice_classHeader_eq_iff hkind hprimary hp).mp (h p hp hnot) hshown
    · apply Or.inr hshown
  · rintro (hall | hhidden) p hp hnot
    · apply absurd (hall p hp) hnot
    · apply (slice_classHeader_eq_iff hkind hprimary hp).mpr hhidden

end Kotlin

/-- A constructor with one parameter that exists on one platform. -/
def Function.pointConstructor : Function where
  id := SymbolId.ofClass "app" "Point"
  name := "Point"
  isConstructor := true
  platforms := OrderedSet.ofList ["jvm"]
  visibility := PlatformMap.ofList [("jvm", .publicAccess)]
  parameters := [{
    id := SymbolId.ofClass "app" "Point"
    name := some "x"
    type := .ofSymbol (SymbolId.ofClass "kotlin" "Int") }]
  returnType := .ofSymbol (SymbolId.ofClass "app" "Point")
  facets := { primaryConstructor := true }

/-- A class that is an alias on one of its platforms and has its constructor on that platform
only. -/
def Classlike.constructedAsAlias : Classlike where
  kind := .ordinary
  id := SymbolId.ofClass "app" "Point"
  name := "Point"
  platforms := OrderedSet.ofList ["js", "jvm"]
  visibility := PlatformMap.ofList [("js", .publicAccess), ("jvm", .publicAccess)]
  constructors := [.pointConstructor]
  facets := { actualAlias := some (PlatformMap.ofList
    [("jvm", .ofSymbol (SymbolId.ofClass "java.awt" "Point"))]) }

namespace Kotlin

theorem seen_without_constructor_iff_constructedAsAlias :
  Classlike.constructedAsAlias.kind = .ordinary ∧
    Classlike.constructedAsAlias.primaryConstructor = some .pointConstructor ∧
    ¬ ∀ p ∈ Classlike.constructedAsAlias.headerPlatforms, p ∉ Function.pointConstructor.platforms →
      (classHeader .kotlin .constructedAsAlias Classlike.constructedAsAlias.headerPlatforms
          Node.factory).slice? p
        = (classHeader .kotlin Classlike.constructedAsAlias.withoutPrimary
            Classlike.constructedAsAlias.headerPlatforms Node.factory).slice? p
  := by
  have hkind : Classlike.constructedAsAlias.kind = .ordinary := rfl
  have hprimary : Classlike.constructedAsAlias.primaryConstructor = some .pointConstructor := rfl
  refine ⟨hkind, hprimary, ?_⟩
  rw [(seen_without_constructor_iff .kotlin hkind hprimary).2]
  rintro (hall | hhidden)
  · exact absurd (hall "js" (by decide)) (by decide)
  · apply hhidden
    exact Or.inl (List.cons_ne_nil _ _)

/-- A covered class can be seen with its constructor on a platform where that does not exist. -/
theorem constructor_seen_constructedAsAlias :
  (Model.mk [.classlike .constructedAsAlias]).check = .ok () ∧
    Classlike.constructedAsAlias.primaryConstructor = some .pointConstructor ∧
    "js" ∈ Classlike.constructedAsAlias.headerPlatforms ∧
    "js" ∉ Function.pointConstructor.platforms ∧
    (classHeader .kotlin .constructedAsAlias Classlike.constructedAsAlias.headerPlatforms
        Node.factory).slice? "js"
      ≠ (classHeader .kotlin Classlike.constructedAsAlias.withoutPrimary
          Classlike.constructedAsAlias.headerPlatforms Node.factory).slice? "js"
  := by
  have hkind : Classlike.constructedAsAlias.kind = .ordinary := rfl
  have hprimary : Classlike.constructedAsAlias.primaryConstructor = some .pointConstructor := rfl
  have hheader : "js" ∈ Classlike.constructedAsAlias.headerPlatforms := by decide
  have hnot : "js" ∉ Function.pointConstructor.platforms := by decide
  refine ⟨rfl, hprimary, hheader, hnot, ?_⟩
  rw [ne_eq, slice_classHeader_eq_iff hkind hprimary hheader, not_not]
  exact Or.inl (List.cons_ne_nil _ _)

end Kotlin

end PlatformSignatures
