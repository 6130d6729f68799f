import PlatformSignatures.Proofs.PrimaryConstructors
import PlatformSignatures.Proofs.TypeTable

/-!
# Shown annotations

The annotations that are shown are those that are not ignored.  They are written in blocks of their
own or in the text, and whether there are any decides how the primary constructor of a class is
written: in full, by its parameters only, or not at all.
-/

namespace PlatformSignatures

variable {ν : Type}

/-! ### Blocks and running text -/

namespace Conventions

variable (c : Conventions) (f : Facets)

theorem blockAnnotations_apply (scope : Scope ν) :
  c.blockAnnotations f scope
    = (c.visible f.annotations).map fun a =>
        scope.factory.group (c.annotationIn c.atSign a scope) [.block] scope.platforms
  := by
  rw [blockAnnotations, Emission.concat_apply, List.flatMap_map, List.map_eq_flatMap]
  rfl

theorem inlineAnnotations_apply (scope : Scope ν) :
  c.inlineAnnotations f scope
    = (c.visible f.annotations).flatMap fun a =>
        c.annotationIn c.atSign a scope
          ++ [scope.factory.text (String.singleton Text.nbsp) [] scope.platforms]
  := by
  have hnbsp : Emission.nbsp scope
      = [scope.factory.text (String.singleton Text.nbsp) [] scope.platforms] :=
    Emission.text_of_ne (by decide) scope
  rw [inlineAnnotations, Emission.concat_apply, List.flatMap_map, ← hnbsp]
  rfl

theorem showsAny_iff :
  c.showsAny f = true ↔ c.visible f.annotations ≠ []
  := by
  rw [showsAny, Bool.not_eq_true', List.isEmpty_eq_false_iff]

theorem showsAny_iff_exists :
  c.showsAny f = true ↔ ∃ a ∈ f.annotations, a ∉ c.ignoredAnnotations
  := by
  simp [showsAny_iff, visible, List.filter_eq_nil_iff]

theorem showsAny_iff_block (scope : Scope ν) :
  c.showsAny f = true ↔ c.blockAnnotations f scope ≠ []
  := by
  rw [showsAny_iff, blockAnnotations_apply, ne_eq, ne_eq, List.map_eq_nil_iff]

/-- Every annotation that is shown in the text brings at least its non-breaking space. -/
theorem showsAny_iff_inline (scope : Scope ν) :
  c.showsAny f = true ↔ c.inlineAnnotations f scope ≠ []
  := by
  rw [showsAny_iff, inlineAnnotations_apply]
  cases c.visible f.annotations with
  | nil => simp
  | cons a as =>
      apply iff_of_true (List.cons_ne_nil a as)
      rw [List.flatMap_cons]
      apply List.append_ne_nil_of_left_ne_nil
      apply List.append_ne_nil_of_right_ne_nil
      apply List.cons_ne_nil

end Conventions

/-! ### Written text -/

namespace Emission

variable (owner : SymbolId) (platforms : PlatformSet) (c : Conventions)

/-- The text of the annotations that are shown, each followed by a non-breaking space. -/
def annotationsText (f : Facets) : String :=
  String.join ((f.annotations.filter (· ∉ c.ignoredAnnotations)).map fun a =>
    writtenText owner platforms (c.annotationIn c.atSign a) ++ String.singleton Text.nbsp)

/-- The text of the parameters of a primary constructor, without the parentheses around them. -/
def parametersText (parameters : List Parameter) : String :=
  ", ".intercalate (parameters.map fun p =>
    annotationsText owner platforms c p.facets ++ p.name.getD "" ++ ": " ++ Kotlin.textOf p.type)

@[simp]
theorem writtenText_inlineAnnotations (f : Facets) :
  writtenText owner platforms (c.inlineAnnotations f) = annotationsText owner platforms c f
  := by
  rw [Conventions.inlineAnnotations, writtenText_concat, List.map_map, annotationsText]
  apply congrArg String.join
  apply List.map_congr_left
  intro a _
  rw [Function.comp_apply, writtenText_append, writtenText_nbsp]

theorem map_writtenText_constructorParameter (parameters : List Parameter) :
  (parameters.map (Kotlin.constructorParameter c)).map (writtenText owner platforms)
    = parameters.map fun p => annotationsText owner platforms c p.facets ++ p.name.getD "" ++ ": "
        ++ Kotlin.textOf p.type
  := by
  rw [List.map_map]
  apply List.map_congr_left
  intro p _
  simp [Kotlin.constructorParameter, Kotlin.writtenText_typeExpr]

@[simp]
theorem writtenText_parameterList (es : List (Emission Node)) :
  writtenText owner platforms (Signature.parameterList es)
    = "(" ++ ", ".intercalate (es.map (writtenText owner platforms)) ++ ")"
  := by
  cases es with
  | nil => simp [Signature.parameterList, String.intercalate_nil]
  | cons e es => apply writtenText_enclosed_cons

end Emission

/-! ### Primary constructors -/

/-- A class has a primary constructor if it is the only one that is marked so. -/
def Classlike.IsPrimary (k : Classlike) (f : Function) : Prop :=
  f ∈ k.constructors ∧ f.facets.primaryConstructor = true ∧
    k.constructors.countP (·.facets.primaryConstructor) = 1

theorem Classlike.IsPrimary.primaryConstructor_eq {k : Classlike} {f : Function}
    (h : k.IsPrimary f) :
  k.primaryConstructor = some f
  := by
  obtain ⟨hmem, hmarked, hcount⟩ := h
  rw [List.countP_eq_length_filter] at hcount
  obtain ⟨f', hf'⟩ := List.length_eq_one_iff.mp hcount
  have hmem' : f ∈ k.constructors.filter (·.facets.primaryConstructor) :=
    List.mem_filter.mpr ⟨hmem, hmarked⟩
  rw [hf', List.mem_singleton] at hmem'
  rw [primaryConstructor, hf', hmem']

theorem Classlike.primaryConstructor_eq_none {k : Classlike}
    (h : k.constructors.countP (·.facets.primaryConstructor) ≠ 1) :
  k.primaryConstructor = none
  := by
  rw [List.countP_eq_length_filter] at h
  unfold primaryConstructor
  split
  case h_1 f hf => exact absurd (congrArg List.length hf) h
  case h_2 => rfl

namespace Kotlin

variable (c : Conventions) (k : Classlike) (platforms : PlatformSet)

/-- The nodes between the type parameters and the supertypes of a class are those for its
constructors. -/
structure ShowsConstructors (between : List Node) : Prop where
  /-- Without exactly one primary constructor there is nothing. -/
  absent : k.constructors.countP (·.facets.primaryConstructor) ≠ 1 → between = []
  /-- A primary constructor with an annotation that is shown is written out, even if it has no
  parameters. -/
  annotated f : k.IsPrimary f → (∃ a ∈ f.facets.annotations, a ∉ c.ignoredAnnotations) →
    Node.plainTextOfList between
      = String.singleton Text.nbsp ++ Emission.annotationsText k.id platforms c f.facets
        ++ "constructor" ++ "(" ++ Emission.parametersText k.id platforms c f.parameters ++ ")"
  /-- Else its parameters are written. -/
  listed f : k.IsPrimary f → (∀ a ∈ f.facets.annotations, a ∈ c.ignoredAnnotations) →
    f.parameters ≠ [] →
    Node.plainTextOfList between
      = "(" ++ Emission.parametersText k.id platforms c f.parameters ++ ")"
  /-- Without parameters there is nothing then. -/
  bare f : k.IsPrimary f → (∀ a ∈ f.facets.annotations, a ∈ c.ignoredAnnotations) →
    f.parameters = [] → between = []

theorem writtenText_primaryConstructor {f : Function}
    (h : ∃ a ∈ f.facets.annotations, a ∉ c.ignoredAnnotations) (owner : SymbolId) :
  Emission.writtenText owner platforms (primaryConstructor c f)
    = String.singleton Text.nbsp ++ Emission.annotationsText owner platforms c f.facets
      ++ "constructor" ++ "(" ++ Emission.parametersText owner platforms c f.parameters ++ ")"
  := by
  rw [primaryConstructor, if_pos ((c.showsAny_iff_exists f.facets).mpr h)]
  simp only [Emission.writtenText_append, Emission.writtenText_nbsp,
    Emission.writtenText_inlineAnnotations, Emission.writtenText_text,
    Emission.writtenText_parameterList, Emission.map_writtenText_constructorParameter,
    Emission.parametersText, String.append_assoc]

theorem primaryConstructor_of_ignored {f : Function}
    (h : ∀ a ∈ f.facets.annotations, a ∈ c.ignoredAnnotations) :
  (primaryConstructor c f : Emission ν)
    = .enclosed "(" ")" ", " (f.parameters.map (constructorParameter c))
  := by
  apply if_neg
  rw [c.showsAny_iff_exists]
  rintro ⟨a, ha, hshown⟩
  exact hshown (h a ha)

theorem writtenText_enclosed_parameters {ps : List Parameter} (h : ps ≠ []) (owner : SymbolId) :
  Emission.writtenText owner platforms
      (.enclosed "(" ")" ", " (ps.map (constructorParameter c)))
    = "(" ++ Emission.parametersText owner platforms c ps ++ ")"
  := by
  obtain ⟨p, ps, rfl⟩ := List.exists_cons_of_ne_nil h
  rw [List.map_cons, Emission.writtenText_enclosed_cons, ← List.map_cons,
    Emission.map_writtenText_constructorParameter, Emission.parametersText]

theorem showsConstructors_classConstructor (hkind : k.kind = .ordinary) :
  ShowsConstructors c k platforms (classConstructor c k ⟨Node.factory, k.id, platforms⟩)
  where
  absent h := by
    rw [classConstructor, Classlike.primaryConstructor_eq_none h]
    cases k.kind <;> rfl
  annotated f hf h := by
    rw [classConstructor_eq hkind hf.primaryConstructor_eq]
    exact writtenText_primaryConstructor c platforms h k.id
  listed f hf h hne := by
    rw [classConstructor_eq hkind hf.primaryConstructor_eq, primaryConstructor_of_ignored c h]
    exact writtenText_enclosed_parameters c platforms hne k.id
  bare f hf h hnil := by
    rw [classConstructor_eq hkind hf.primaryConstructor_eq, primaryConstructor_of_ignored c h, hnil]
    rfl

end Kotlin

/-- The annotations that are not ignored, and no others, are written in their order, each in a
block or followed by a non-breaking space; whether there are any to be shown is whether something is
written.  What the header of a class in Kotlin has between type parameters and supertypes is decided
by this. -/
theorem annotations_decided_alike (c : Conventions) :
  (∀ {ν : Type} (f : Facets) (scope : Scope ν),
      c.blockAnnotations f scope
          = (f.annotations.filter (· ∉ c.ignoredAnnotations)).map (fun a =>
              scope.factory.group (c.annotationIn c.atSign a scope) [.block] scope.platforms) ∧
        c.inlineAnnotations f scope
          = (f.annotations.filter (· ∉ c.ignoredAnnotations)).flatMap (fun a =>
              c.annotationIn c.atSign a scope
                ++ [scope.factory.text (String.singleton Text.nbsp) [] scope.platforms]) ∧
        (c.showsAny f = true ↔ c.blockAnnotations f scope ≠ []) ∧
        (c.showsAny f = true ↔ c.inlineAnnotations f scope ≠ [])) ∧
    ∀ (k : Classlike) (platforms : PlatformSet), k.kind = .ordinary →
      ∃ between : List Node,
        Kotlin.ShowsConstructors c k platforms between ∧
          Kotlin.classHeader c k platforms Node.factory
            = .group (some .symbol) (some k.id) [.monospace] platforms
                [.group none none [.block] platforms
                  (Kotlin.beforeConstructor c k ⟨Node.factory, k.id, platforms⟩ ++ between ++
                    Signature.supertypes " : " k.supertypes ⟨Node.factory, k.id, platforms⟩)]
  := by
  constructor
  · intro ν f scope
    exact ⟨c.blockAnnotations_apply f scope, c.inlineAnnotations_apply f scope,
      c.showsAny_iff_block f scope, c.showsAny_iff_inline f scope⟩
  · intro k platforms hkind
    use Kotlin.classConstructor c k ⟨Node.factory, k.id, platforms⟩
    exact ⟨Kotlin.showsConstructors_classConstructor c k platforms hkind, rfl⟩

/-- A constructor without parameters that has two annotations. -/
def Function.injectedConstructor : Function where
  id := SymbolId.ofCallable "app" "Service" "Service"
  name := "Service"
  isConstructor := true
  platforms := OrderedSet.singleton "jvm"
  returnType := .ofSymbol (SymbolId.ofClass "app" "Service")
  facets := {
    annotations := [.plain (SymbolId.ofClass "app" "Generated"),
      .plain (SymbolId.ofClass "app" "Inject")]
    primaryConstructor := true }

/-- A class with two constructors, one of which is marked as primary. -/
def Classlike.injected : Classlike where
  kind := .ordinary
  id := SymbolId.ofClass "app" "Service"
  name := "Service"
  platforms := OrderedSet.singleton "jvm"
  constructors := [
    { Function.injectedConstructor with facets := {} },
    .injectedConstructor]

theorem annotations_decided_alike_injected :
  let c := { Conventions.kotlin with
    ignoredAnnotations := [.plain (SymbolId.ofClass "app" "Generated")] }
  Classlike.injected.kind = .ordinary ∧
    Classlike.injected.IsPrimary .injectedConstructor ∧
    (∃ a ∈ Function.injectedConstructor.facets.annotations, a ∉ c.ignoredAnnotations) ∧
    ∃ before between after : List Node,
      Node.plainTextOfList between = "\u00a0@Inject()\u00a0constructor()" ∧
        Kotlin.classHeader c .injected Classlike.injected.platforms Node.factory
          = .group (some .symbol) (some Classlike.injected.id) [.monospace]
              Classlike.injected.platforms
              [.group none none [.block] Classlike.injected.platforms (before ++ between ++ after)]
  := by
  intro c
  have hprimary : Classlike.injected.IsPrimary .injectedConstructor := by
    unfold Classlike.IsPrimary
    decide
  have hshown : ∃ a ∈ Function.injectedConstructor.facets.annotations,
      a ∉ c.ignoredAnnotations := by decide
  obtain ⟨between, hbetween, hheader⟩ :=
    (annotations_decided_alike c).2 .injected Classlike.injected.platforms rfl
  have htext := hbetween.annotated .injectedConstructor hprimary hshown
  refine ⟨rfl, hprimary, hshown, _, between, _, htext.trans ?_, hheader⟩
  decide

end PlatformSignatures
