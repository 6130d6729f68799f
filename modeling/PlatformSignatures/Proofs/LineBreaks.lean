import PlatformSignatures.Proofs.Nesting
import PlatformSignatures.Proofs.Strings

/-!
# Line breaks in signatures

No part of a signature brings a line break with it: the text of a signature is unbroken if the
strings of the declaration and of the conventions are.
-/

namespace PlatformSignatures

open Text (unbroken_append)

/-! ### Keywords -/

theorem Signature.unbroken_modifiers (d : Dialect) (f : Facets) :
  Text.Unbroken (modifiers d f)
  := by
  rw [modifiers, Text.unbroken_join_iff, List.forall_mem_map]
  intro m _
  cases m <;> decide

theorem Kotlin.unbroken_classKeyword (k : Classlike) :
  Text.Unbroken (classKeyword k)
  := by
  have hordinary : Text.Unbroken (modifiers k.facets ++ "class ") :=
    unbroken_append (Signature.unbroken_modifiers .kotlin k.facets) (by decide)
  have hothers : ∀ s ∈ ["interface ", "enum ", "object ", "annotation class "],
      Text.Unbroken s := by decide
  rw [classKeyword]
  split
  · apply hordinary
  all_goals exact hothers _ (by simp)

/-! ### Emissions -/

theorem Node.unbroken_plainTextOfList {l : List Node}
    (h : ∀ n ∈ l, Text.Unbroken n.plainText) :
  Text.Unbroken (plainTextOfList l)
  := by
  rw [plainTextOfList_eq_join, Text.unbroken_join_iff, List.forall_mem_map]
  apply h

theorem Node.unbroken_plainTextOfList_singleton {n : Node} (h : Text.Unbroken n.plainText) :
  Text.Unbroken (plainTextOfList [n])
  := unbroken_plainTextOfList (List.forall_mem_singleton.mpr h)

namespace Emission

/-- An emission writes unbroken text. -/
def Unbroken (e : Emission Node) : Prop :=
  ∀ owner platforms, Text.Unbroken (Node.plainTextOfList (e ⟨Node.factory, owner, platforms⟩))

namespace Unbroken

variable {e f : Emission Node} {es : List (Emission Node)}

theorem nothing :
  Emission.nothing.Unbroken
  := fun _ _ => List.not_mem_nil

theorem append (he : e.Unbroken) (hf : f.Unbroken) :
  (e ++ f).Unbroken
  := by
  intro owner platforms
  change Text.Unbroken (Node.plainTextOfList (e _ ++ f _))
  rw [Node.plainTextOfList_append]
  exact unbroken_append (he owner platforms) (hf owner platforms)

theorem concat (h : ∀ e ∈ es, e.Unbroken) :
  (Emission.concat es).Unbroken
  := by
  induction es with
  | nil => apply nothing
  | cons e es ih =>
      obtain ⟨he, hes⟩ := List.forall_mem_cons.mp h
      apply he.append (ih hes)

theorem onlyIf (condition : Prop) [Decidable condition] (he : e.Unbroken) :
  (if condition then e else Emission.nothing).Unbroken
  := by
  split
  · apply he
  · apply nothing

theorem styledText {t : String} (h : Text.Unbroken t) (styles : List TextStyle) :
  (Emission.styledText t styles).Unbroken
  := by
  intro owner platforms
  unfold Emission.styledText
  split
  · apply List.not_mem_nil
  · exact Node.unbroken_plainTextOfList_singleton h

theorem text {t : String} (h : Text.Unbroken t) :
  (Emission.text t).Unbroken
  := styledText h []

theorem nbsp :
  Emission.nbsp.Unbroken
  := text (by decide)

theorem link {t : String} (h : Text.Unbroken t) (target : SymbolId) :
  (Emission.link t target).Unbroken
  := fun _ _ => Node.unbroken_plainTextOfList_singleton h

theorem linkTo {id : SymbolId} (h : ∀ s ∈ id.strings, Text.Unbroken s) :
  (Emission.linkTo id).Unbroken
  := link (id.unbroken_displayName h) id

theorem group (styles : List TextStyle) (he : e.Unbroken) :
  (Emission.group styles e).Unbroken
  := fun owner platforms => Node.unbroken_plainTextOfList_singleton (he owner platforms)

theorem separated {separator : String} (h : Text.Unbroken separator) (hes : ∀ e ∈ es, e.Unbroken) :
  (Emission.separated separator es).Unbroken
  := by
  induction es with
  | nil => apply nothing
  | cons e es ih =>
      obtain ⟨he, hrest⟩ := List.forall_mem_cons.mp hes
      cases es with
      | nil => apply he
      | cons e' es => exact (he.append (text h)).append (ih hrest)

theorem enclosed {opening closing separator : String} (hopening : Text.Unbroken opening)
    (hclosing : Text.Unbroken closing) (hseparator : Text.Unbroken separator)
    (hes : ∀ e ∈ es, e.Unbroken) :
  (Emission.enclosed opening closing separator es).Unbroken
  := by
  cases es with
  | nil => apply nothing
  | cons e es => exact ((text hopening).append (separated hseparator hes)).append (text hclosing)

theorem perPlatform {α : Type} (values : PlatformMap α) {token : α → String}
    (h : ∀ a, Text.Unbroken (token a)) :
  (Emission.perPlatform values token).Unbroken
  := by
  intro owner platforms
  apply Node.unbroken_plainTextOfList
  intro n hn
  obtain ⟨a, part, rfl⟩ := exists_of_mem_perPlatform hn
  apply h a

end Unbroken

end Emission

/-! ### Types -/

namespace Emission.Unbroken

theorem receiver {e : Option (Emission Node)} (h : ∀ r ∈ e, r.Unbroken) :
  (Kotlin.receiver e).Unbroken
  := by
  cases e with
  | none => apply nothing
  | some r => exact (h r rfl).append (text (by decide))

theorem namedType {id : SymbolId} (hid : ∀ s ∈ id.strings, Text.Unbroken s)
    {es : List (Emission Node)} (hes : ∀ e ∈ es, e.Unbroken) :
  (Kotlin.namedType id es).Unbroken
  := group [] ((linkTo hid).append (enclosed (by decide) (by decide) (by decide) hes))

theorem arrow (r : Option (Emission Node)) (es : List (Emission Node)) (e : Emission Node)
    (hr : ∀ f ∈ r, f.Unbroken) (hes : ∀ f ∈ es, f.Unbroken) (he : e.Unbroken) :
  (Kotlin.arrow r es e).Unbroken
  := group [] (((((receiver hr).append (text (by decide))).append
    (separated (by decide) hes)).append (text (by decide))).append he)

mutual

theorem kotlinType (t : TypeExpr) (h : ∀ s ∈ t.strings, Text.Unbroken s) :
  (Kotlin.typeExpr t : Emission Node).Unbroken
  := by
  cases t with
  | named id arguments marker =>
      obtain ⟨hid, harguments⟩ := List.forall_mem_append.mp h
      rw [Kotlin.typeExpr, Kotlin.markedType_eq_marked]
      apply Kotlin.marked_of_forall (fun _ => namedType hid) arrow marker
      apply kotlinTypes arguments harguments
  | variance v inner =>
      cases v with
      | covariant => exact group [] ((text (by decide)).append (kotlinType inner h))
      | contravariant => exact group [] ((text (by decide)).append (kotlinType inner h))
  | nullable inner => exact group [] ((kotlinType inner h).append (text (by decide)))
  | star => exact text (by decide)
  | root => exact linkTo (by decide)
  | primitive name =>
      have hname := Text.unbroken_capitalize (h name List.mem_cons_self)
      apply namedType _ (List.forall_mem_nil _)
      simpa [SymbolId.strings, SymbolId.ofClass, hname] using (by decide : Text.Unbroken "kotlin")
  | void => exact linkTo (by decide)
  | dynamic => exact text (by decide)
  | typeParameter name => exact text (h name List.mem_cons_self)

theorem kotlinTypes (ts : List TypeExpr) (h : ∀ s ∈ TypeExpr.stringsOfList ts, Text.Unbroken s) :
  ∀ e ∈ (Kotlin.typeExprs ts : List (Emission Node)), e.Unbroken
  := by
  cases ts with
  | nil => apply List.forall_mem_nil
  | cons t ts =>
      obtain ⟨ht, hts⟩ := List.forall_mem_append.mp h
      rw [Kotlin.typeExprs, List.forall_mem_cons]
      exact ⟨kotlinType t ht, kotlinTypes ts hts⟩

end

mutual

theorem javaType (t : TypeExpr) (h : ∀ s ∈ t.strings, Text.Unbroken s) :
  (Java.typeExpr t : Emission Node).Unbroken
  := by
  cases t with
  | named id arguments marker =>
      obtain ⟨hid, harguments⟩ := List.forall_mem_append.mp h
      exact namedType hid (javaTypes arguments harguments)
  | variance v inner =>
      cases v with
      | covariant => exact group [] ((text (by decide)).append (javaType inner h))
      | contravariant => exact group [] ((text (by decide)).append (javaType inner h))
  | nullable inner => exact javaType inner h
  | star => exact text (by decide)
  | root => exact link (by decide) _
  | primitive name => exact text (h name List.mem_cons_self)
  | void => exact text (by decide)
  | dynamic => exact link (by decide) _
  | typeParameter name => exact text (h name List.mem_cons_self)

theorem javaTypes (ts : List TypeExpr) (h : ∀ s ∈ TypeExpr.stringsOfList ts, Text.Unbroken s) :
  ∀ e ∈ (Java.typeExprs ts : List (Emission Node)), e.Unbroken
  := by
  cases ts with
  | nil => apply List.forall_mem_nil
  | cons t ts =>
      obtain ⟨ht, hts⟩ := List.forall_mem_append.mp h
      rw [Java.typeExprs, List.forall_mem_cons]
      exact ⟨javaType t ht, javaTypes ts hts⟩

end

theorem typeExpr (d : Dialect) (t : TypeExpr) (h : ∀ s ∈ t.strings, Text.Unbroken s) :
  (d.typeExpr t : Emission Node).Unbroken
  := by
  cases d with
  | kotlin => apply kotlinType t h
  | java => apply javaType t h

end Emission.Unbroken

/-! ### Annotations -/

/-- What the conventions bring into annotations is unbroken. -/
structure Conventions.Unbroken (c : Conventions) : Prop where
  opening : Text.Unbroken (String.singleton c.brackets.opening)
  closing : Text.Unbroken (String.singleton c.brackets.closing)
  classSuffix : Text.Unbroken c.classSuffix

theorem Conventions.unbroken_of_strings {c : Conventions}
    (h : ∀ s ∈ c.strings, Text.Unbroken s) :
  c.Unbroken
  where
  opening := h _ (by simp [strings])
  closing := h _ (by simp [strings])
  classSuffix := h _ (by simp [strings])

namespace Emission.Unbroken

theorem annotationWith (sign : AtSign) {id : SymbolId} (hid : ∀ s ∈ id.strings, Text.Unbroken s)
    {es : List (Emission Node)} (hes : ∀ e ∈ es, e.Unbroken) :
  (PlatformSignatures.annotationWith sign id es).Unbroken
  := by
  have hsign := onlyIf sign.shown (text (t := "@") (by decide))
  exact (((hsign.append (linkTo hid)).append (text (by decide))).append
    (separated (by decide) hes)).append (text (by decide))

variable {c : Conventions}

mutual

theorem annotationValue (hc : c.Unbroken) (sign : AtSign) (v : AnnotationValue)
    (h : ∀ s ∈ v.strings, Text.Unbroken s) :
  (c.annotationValue sign v : Emission Node).Unbroken
  := by
  cases v with
  | literal value => exact text (h value List.mem_cons_self)
  | enumEntry name id => exact link (h name List.mem_cons_self) id
  | classLiteral name id =>
      exact link (unbroken_append (h name List.mem_cons_self) hc.classSuffix) id
  | nested id arguments =>
      obtain ⟨hid, harguments⟩ := List.forall_mem_append.mp h
      exact annotationWith sign hid (annotationArguments hc sign.nested arguments harguments)
  | array values =>
      have hvalues := annotationValues hc sign values h
      exact ((text hc.opening).append (separated (by decide) hvalues)).append (text hc.closing)

theorem annotationValues (hc : c.Unbroken) (sign : AtSign) (vs : List AnnotationValue)
    (h : ∀ s ∈ AnnotationValue.stringsOfList vs, Text.Unbroken s) :
  ∀ e ∈ (c.annotationValues sign vs : List (Emission Node)), e.Unbroken
  := by
  cases vs with
  | nil => apply List.forall_mem_nil
  | cons v vs =>
      obtain ⟨hv, hvs⟩ := List.forall_mem_append.mp h
      rw [Conventions.annotationValues, List.forall_mem_cons]
      exact ⟨annotationValue hc sign v hv, annotationValues hc sign vs hvs⟩

theorem annotationArguments (hc : c.Unbroken) (sign : AtSign)
    (as : List (String × AnnotationValue))
    (h : ∀ s ∈ AnnotationValue.stringsOfArguments as, Text.Unbroken s) :
  ∀ e ∈ (c.annotationArguments sign as : List (Emission Node)), e.Unbroken
  := by
  match as with
  | [] => apply List.forall_mem_nil
  | (name, v) :: as =>
      obtain ⟨hfirst, has⟩ := List.forall_mem_append.mp h
      obtain ⟨hname, hv⟩ := List.forall_mem_cons.mp hfirst
      rw [Conventions.annotationArguments, List.forall_mem_cons]
      exact ⟨(text (unbroken_append hname (by decide))).append (annotationValue hc sign v hv),
        annotationArguments hc sign as has⟩

end

variable (hc : c.Unbroken)
include hc

theorem annotationIn (sign : AtSign) (a : Annotation) (h : ∀ s ∈ a.strings, Text.Unbroken s) :
  (c.annotationIn sign a : Emission Node).Unbroken
  := by
  obtain ⟨hid, harguments⟩ := List.forall_mem_append.mp h
  exact annotationWith sign hid (annotationArguments hc sign.nested a.arguments harguments)

/-- The annotations that are shown of some facets are unbroken. -/
theorem visible {f : Facets} (h : ∀ s ∈ f.strings, Text.Unbroken s) :
  ∀ a ∈ c.visible f.annotations, (c.annotationIn c.atSign a : Emission Node).Unbroken
  := by
  intro a ha
  apply annotationIn hc
  intro s hs
  apply h s
  apply List.mem_append_left
  exact List.mem_flatMap_of_mem (List.mem_filter.mp ha).1 hs

theorem blockAnnotations {f : Facets} (h : ∀ s ∈ f.strings, Text.Unbroken s) :
  (c.blockAnnotations f : Emission Node).Unbroken
  := by
  apply concat
  rw [List.forall_mem_map]
  intro a ha
  apply group [.block] (visible hc h a ha)

theorem inlineAnnotations {f : Facets} (h : ∀ s ∈ f.strings, Text.Unbroken s) :
  (c.inlineAnnotations f : Emission Node).Unbroken
  := by
  apply concat
  rw [List.forall_mem_map]
  intro a ha
  apply (visible hc h a ha).append nbsp

omit hc

/-! ### Attributes -/

theorem visibility (values : PlatformMap Visibility) :
  (Signature.visibility c values : Emission Node).Unbroken
  := by
  apply perPlatform
  intro v
  rw [Conventions.visibilityToken]
  split
  · decide
  · cases v <;> decide

theorem modality (values : PlatformMap Modality) :
  (Signature.modality c values : Emission Node).Unbroken
  := by
  apply perPlatform
  intro m
  rw [Conventions.modalityToken]
  split
  · decide
  · cases m <;> decide

theorem modifiers (d : Dialect) (f : Facets) :
  (Emission.text (Signature.modifiers d f) : Emission Node).Unbroken
  := text (Signature.unbroken_modifiers d f)

theorem supertypes {opening : String} (hopening : Text.Unbroken opening)
    (values : PlatformMap (List SymbolId))
    (h : ∀ s ∈ values.strings (·.flatMap SymbolId.strings), Text.Unbroken s) :
  (Signature.supertypes opening values : Emission Node).Unbroken
  := by
  intro owner platforms
  apply concat
  rw [List.forall_mem_map]
  intro g hg owner' _
  obtain ⟨-, p, -, hp⟩ := (mem_groupWithin _ _ g).mp hg
  apply enclosed hopening (by decide) (by decide)
  rw [List.forall_mem_map]
  intro id hid
  apply linkTo
  intro s hs
  apply h s
  apply PlatformMap.mem_strings_of_get? hp
  exact List.mem_flatMap_of_mem hid hs

/-! ### Parts of declarations -/

theorem parameterList (h : ∀ e ∈ es, e.Unbroken) :
  (Signature.parameterList es).Unbroken
  := by
  cases es with
  | nil => exact text (by decide)
  | cons e es =>
      change (Emission.enclosed "(" ")" ", " (e :: es)).Unbroken
      exact enclosed (by decide) (by decide) (by decide) h

theorem types (d : Dialect) {ts : List TypeExpr}
    (h : ∀ t ∈ ts, ∀ s ∈ t.strings, Text.Unbroken s) :
  ∀ e ∈ (ts.map d.typeExpr : List (Emission Node)), e.Unbroken
  := by
  rw [List.forall_mem_map]
  intro t ht
  apply typeExpr d t (h t ht)

theorem kotlinTypeParameter {t : TypeParameter} (h : ∀ s ∈ t.strings, Text.Unbroken s) :
  (Kotlin.typeParameterBody t : Emission Node).Unbroken
  := by
  simp only [TypeParameter.strings, List.forall_mem_append, List.forall_mem_cons,
    List.forall_mem_flatMap] at h
  obtain ⟨⟨⟨-, hname, -⟩, hbounds⟩, -⟩ := h
  exact ((modifiers .kotlin t.facets).append (link hname t.id)).append
    (enclosed (by decide) (by decide) (by decide) (types .kotlin hbounds))

theorem kotlinGenerics {closing : String} (hclosing : Text.Unbroken closing)
    {ts : List TypeParameter} (h : ∀ t ∈ ts, ∀ s ∈ t.strings, Text.Unbroken s) :
  (Emission.enclosed "<" closing ", " (ts.map Kotlin.typeParameterBody)).Unbroken
  := by
  apply enclosed (by decide) hclosing (by decide)
  rw [List.forall_mem_map]
  intro t ht
  apply kotlinTypeParameter (h t ht)

theorem javaTypeParameter {t : TypeParameter} (h : ∀ s ∈ t.strings, Text.Unbroken s) :
  (Java.typeParameterBody t : Emission Node).Unbroken
  := by
  simp only [TypeParameter.strings, List.forall_mem_append, List.forall_mem_cons,
    List.forall_mem_flatMap] at h
  obtain ⟨⟨⟨-, hname, -⟩, hbounds⟩, -⟩ := h
  exact (text (Text.unbroken_simpleName hname)).append
    (enclosed (by decide) (by decide) (by decide) (types .java hbounds))

theorem javaGenerics {closing : String} (hclosing : Text.Unbroken closing)
    {ts : List TypeParameter} (h : ∀ t ∈ ts, ∀ s ∈ t.strings, Text.Unbroken s) :
  (Emission.enclosed "<" closing ", " (ts.map Java.typeParameterBody)).Unbroken
  := by
  apply enclosed (by decide) hclosing (by decide)
  rw [List.forall_mem_map]
  intro t ht
  apply javaTypeParameter (h t ht)

/-- A name that may be absent is unbroken. -/
theorem optionalName {name : Option String} (h : ∀ s ∈ name.toList, Text.Unbroken s) :
  Text.Unbroken (name.getD "")
  := by
  cases name with
  | none => decide
  | some s => apply h s List.mem_cons_self

theorem kotlinReceiver {p : Option Parameter}
    (h : ∀ r ∈ p.toList, ∀ s ∈ r.strings, Text.Unbroken s) :
  (Kotlin.receiver (p.map fun r => Kotlin.typeExpr r.type) : Emission Node).Unbroken
  := by
  apply receiver
  cases p with
  | none => rintro r ⟨⟩
  | some p =>
      rintro r ⟨⟩
      apply kotlinType p.type
      intro s hs
      apply h p List.mem_cons_self
      simp [Parameter.strings, hs]

section

variable (hc : c.Unbroken)
include hc

theorem kotlinParameter {p : Parameter} (h : ∀ s ∈ p.strings, Text.Unbroken s) :
  (Kotlin.parameter c p : Emission Node).Unbroken
  := by
  simp only [Parameter.strings, List.forall_mem_append] at h
  obtain ⟨⟨⟨-, hname⟩, htype⟩, hfacets⟩ := h
  exact ((((inlineAnnotations hc hfacets).append (modifiers .kotlin p.facets)).append
    (text (optionalName hname))).append (text (by decide))).append (kotlinType p.type htype)

theorem kotlinConstructorParameter {p : Parameter} (h : ∀ s ∈ p.strings, Text.Unbroken s) :
  (Kotlin.constructorParameter c p : Emission Node).Unbroken
  := by
  simp only [Parameter.strings, List.forall_mem_append] at h
  obtain ⟨⟨⟨-, hname⟩, htype⟩, hfacets⟩ := h
  exact (((inlineAnnotations hc hfacets).append (styledText (optionalName hname) _)).append
    (text (by decide))).append (kotlinType p.type htype)

theorem javaParameter {p : Parameter} (h : ∀ s ∈ p.strings, Text.Unbroken s) :
  (Java.parameter c p : Emission Node).Unbroken
  := by
  simp only [Parameter.strings, List.forall_mem_append] at h
  obtain ⟨⟨⟨-, hname⟩, htype⟩, hfacets⟩ := h
  exact (((inlineAnnotations hc hfacets).append (modifiers .java p.facets)).append
    ((javaType p.type htype).append nbsp)).append (link (optionalName hname) p.id)

theorem primaryConstructor {f : Function} (h : ∀ s ∈ f.strings, Text.Unbroken s) :
  (Kotlin.primaryConstructor c f : Emission Node).Unbroken
  := by
  simp only [Function.strings, List.forall_mem_append, List.forall_mem_flatMap] at h
  obtain ⟨⟨⟨-, hparameters⟩, -⟩, hfacets⟩ := h
  have hitems : ∀ e ∈ (f.parameters.map (Kotlin.constructorParameter c) : List (Emission Node)),
      e.Unbroken := by
    rw [List.forall_mem_map]
    intro p hp
    apply kotlinConstructorParameter hc (hparameters p hp)
  rw [Kotlin.primaryConstructor]
  split
  · exact ((nbsp.append (inlineAnnotations hc hfacets)).append (text (by decide))).append
      (parameterList hitems)
  · exact enclosed (by decide) (by decide) (by decide) hitems

theorem classConstructor {k : Classlike}
    (h : ∀ f ∈ k.constructors, ∀ s ∈ f.strings, Text.Unbroken s) :
  (Kotlin.classConstructor c k : Emission Node).Unbroken
  := by
  rw [Kotlin.classConstructor]
  split
  case h_1 f _ hprimary =>
    apply primaryConstructor hc (h f _)
    rw [Classlike.primaryConstructor] at hprimary
    split at hprimary
    case h_1 f' hfilter =>
      obtain rfl := Option.some.inj hprimary
      apply List.mem_of_mem_filter (p := (·.facets.primaryConstructor))
      rw [hfilter]
      apply List.mem_singleton_self
    case h_2 => cases hprimary
  case h_2 => apply nothing

end

/-! ### Signatures -/

/-- The text of a signature is what its body writes. -/
theorem symbol (he : e.Unbroken) (owner : SymbolId) (platforms : PlatformSet) :
  Text.Unbroken (Signature.symbol owner platforms e Node.factory).plainText
  := group [.block] he owner platforms

theorem classLink {k : Classlike} (hid : ∀ s ∈ k.id.strings, Text.Unbroken s)
    (hname : ∀ s ∈ k.name.toList, Text.Unbroken s) :
  (Signature.classLink k : Emission Node).Unbroken
  := by
  apply link
  rw [Classlike.shownName]
  cases hk : k.name with
  | none => apply SymbolId.unbroken_displayName hid
  | some name => exact hname name (by simp [hk])

section

variable (hc : c.Unbroken)
include hc

theorem kotlinHeader {k : Classlike} (h : ∀ s ∈ k.strings, Text.Unbroken s)
    (platforms : PlatformSet) :
  Text.Unbroken (Kotlin.classHeader c k platforms Node.factory).plainText
  := by
  simp only [Classlike.strings, List.forall_mem_append, List.forall_mem_flatMap] at h
  obtain ⟨⟨⟨⟨⟨⟨⟨⟨hid, hname⟩, -⟩, -⟩, -⟩, hgenerics⟩, hsupertypes⟩, hconstructors⟩, hfacets⟩ := h
  apply symbol
  exact (((((((blockAnnotations hc hfacets).append (visibility k.visibility)).append
    (onlyIf _ (modality k.modality))).append (text (Kotlin.unbroken_classKeyword k))).append
    (classLink hid hname)).append (kotlinGenerics (by decide) hgenerics)).append
    (classConstructor hc hconstructors)).append (supertypes (by decide) k.supertypes hsupertypes)

theorem javaHeader {k : Classlike} (h : ∀ s ∈ k.strings, Text.Unbroken s)
    (platforms : PlatformSet) :
  Text.Unbroken (Java.classHeader c k platforms Node.factory).plainText
  := by
  simp only [Classlike.strings, List.forall_mem_append, List.forall_mem_flatMap] at h
  obtain ⟨⟨⟨⟨⟨⟨⟨⟨hid, hname⟩, -⟩, -⟩, -⟩, hgenerics⟩, hsupertypes⟩, -⟩, hfacets⟩ := h
  have hkeyword : Text.Unbroken (Java.classKeyword k.kind) := by
    cases k.kind <;> decide
  apply symbol
  exact ((((((blockAnnotations hc hfacets).append (visibility k.visibility)).append
    (onlyIf _ ((modality k.modality).append (modifiers .java k.facets)))).append
    (text hkeyword)).append (classLink hid hname)).append
    (javaGenerics (by decide) hgenerics)).append
    (supertypes (by decide) k.supertypes hsupertypes)

theorem kotlinFunction {f : Function} (h : ∀ s ∈ f.strings, Text.Unbroken s) :
  Text.Unbroken (Kotlin.function c f Node.factory).plainText
  := by
  simp only [Function.strings, List.forall_mem_append, List.forall_mem_cons,
    List.forall_mem_flatMap] at h
  obtain ⟨⟨⟨⟨⟨⟨⟨⟨-, hname, -⟩, -⟩, -⟩, hgenerics⟩, hreceiver⟩, hparameters⟩, hreturn⟩, hfacets⟩ := h
  have hitems : ∀ e ∈ (f.parameters.map (Kotlin.parameter c) : List (Emission Node)),
      e.Unbroken := by
    rw [List.forall_mem_map]
    intro p hp
    apply kotlinParameter hc (hparameters p hp)
  apply symbol
  exact (((((((((blockAnnotations hc hfacets).append (visibility f.visibility)).append
    (modality f.modality)).append (modifiers .kotlin f.facets)).append (text (by decide))).append
    (kotlinGenerics (by decide) hgenerics)).append (kotlinReceiver hreceiver)).append
    (link hname f.id)).append (parameterList hitems)).append
    (onlyIf _ ((text (by decide)).append (kotlinType f.returnType hreturn)))

theorem javaFunction {f : Function} (h : ∀ s ∈ f.strings, Text.Unbroken s) :
  Text.Unbroken (Java.function c f Node.factory).plainText
  := by
  simp only [Function.strings, List.forall_mem_append, List.forall_mem_cons,
    List.forall_mem_flatMap] at h
  obtain ⟨⟨⟨⟨⟨⟨⟨⟨-, hname, -⟩, -⟩, -⟩, hgenerics⟩, -⟩, hparameters⟩, hreturn⟩, hfacets⟩ := h
  have hitems : ∀ e ∈ (f.parameters.map (Java.parameter c) : List (Emission Node)),
      e.Unbroken := by
    rw [List.forall_mem_map]
    intro p hp
    apply javaParameter hc (hparameters p hp)
  have hresult : (if f.isConstructor then .nothing else Java.typeBefore f.returnType :
      Emission Node).Unbroken := by
    split
    · apply nothing
    · exact (javaType f.returnType hreturn).append nbsp
  apply symbol
  exact (((((((blockAnnotations hc hfacets).append (visibility f.visibility)).append
    (modality f.modality)).append (modifiers .java f.facets)).append
    (javaGenerics (by decide) hgenerics)).append hresult).append (link hname f.id)).append
    (parameterList hitems)

theorem kotlinProperty {q : Property} (h : ∀ s ∈ q.strings, Text.Unbroken s) :
  Text.Unbroken (Kotlin.property c q Node.factory).plainText
  := by
  simp only [Property.strings, List.forall_mem_append, List.forall_mem_cons,
    List.forall_mem_flatMap] at h
  obtain ⟨⟨⟨⟨⟨⟨⟨⟨⟨-, hname, -⟩, -⟩, -⟩, hgenerics⟩, hreceiver⟩, htype⟩, -⟩, -⟩, hfacets⟩ := h
  have hkeyword : Text.Unbroken (if q.isMutable then "var " else "val ") := by
    split <;> decide
  apply symbol
  exact (((((((((blockAnnotations hc hfacets).append (visibility q.visibility)).append
    (modality q.modality)).append (modifiers .kotlin q.facets)).append (text hkeyword)).append
    (kotlinGenerics (by decide) hgenerics)).append (kotlinReceiver hreceiver)).append
    (link hname q.id)).append (text (by decide))).append (kotlinType q.type htype)

theorem javaProperty {q : Property} (h : ∀ s ∈ q.strings, Text.Unbroken s) :
  Text.Unbroken (Java.property c q Node.factory).plainText
  := by
  simp only [Property.strings, List.forall_mem_append, List.forall_mem_cons,
    List.forall_mem_flatMap] at h
  obtain ⟨⟨⟨⟨⟨⟨⟨⟨⟨-, hname, -⟩, -⟩, -⟩, -⟩, -⟩, htype⟩, -⟩, -⟩, hfacets⟩ := h
  apply symbol
  exact (((((blockAnnotations hc hfacets).append (visibility q.visibility)).append
    (modality q.modality)).append (modifiers .java q.facets)).append
    ((javaType q.type htype).append nbsp)).append (link hname q.id)

theorem aliasLine (d : Dialect) {t : TypeAlias} (h : ∀ s ∈ t.strings, Text.Unbroken s)
    {underlying : TypeExpr} (hunderlying : ∀ s ∈ underlying.strings, Text.Unbroken s) :
  (d.aliasLine c t underlying : Emission Node).Unbroken
  := by
  simp only [TypeAlias.strings, List.forall_mem_append] at h
  obtain ⟨⟨⟨⟨-, htype⟩, -⟩, -⟩, hfacets⟩ := h
  have hhead : (d.aliasHead t : Emission Node).Unbroken := by
    cases d with
    | kotlin =>
        exact ((modifiers .kotlin t.facets).append (text (by decide))).append
          (kotlinType t.type htype)
    | java => apply javaType t.type htype
  exact ((((blockAnnotations hc hfacets).append (visibility t.visibility)).append hhead).append
    (text (by decide))).append (typeExpr d underlying hunderlying)

omit hc in
theorem classLine (d : Dialect) {k : Classlike} (h : ∀ s ∈ k.strings, Text.Unbroken s)
    {target : TypeExpr} (htarget : ∀ s ∈ target.strings, Text.Unbroken s) :
  (d.classLine k target : Emission Node).Unbroken
  := by
  simp only [Classlike.strings, List.forall_mem_append] at h
  obtain ⟨⟨⟨⟨⟨⟨⟨⟨hid, hname⟩, -⟩, -⟩, -⟩, -⟩, -⟩, -⟩, -⟩ := h
  have hlink := classLink hid hname
  have hhead : (d.aliasedHead k : Emission Node).Unbroken := by
    cases d with
    | kotlin => exact ((text (by decide)).append hlink).append (text (by decide))
    | java => exact hlink.append (text (by decide))
  exact hhead.append (typeExpr d target htarget)

omit hc in
/-- The values of the groups of a map have their strings from the map. -/
theorem ofGroup {m : PlatformMap TypeExpr}
    (h : ∀ s ∈ m.strings TypeExpr.strings, Text.Unbroken s) {g : TypeExpr × PlatformSet}
    (hg : g ∈ m.groups) :
  ∀ s ∈ g.1.strings, Text.Unbroken s
  := by
  rw [groups_eq_groupWithin] at hg
  obtain ⟨-, p, -, hp⟩ := (mem_groupWithin _ _ g).mp hg
  intro s hs
  apply h s (PlatformMap.mem_strings_of_get? hp hs)

end

end Emission.Unbroken

open Emission

variable {c : Conventions} (hc : c.Unbroken)
include hc

theorem unbroken_classHeader (d : Dialect) {k : Classlike}
    (h : ∀ s ∈ k.strings, Text.Unbroken s) (platforms : PlatformSet) :
  Text.Unbroken (d.classHeader c k platforms Node.factory).plainText
  := by
  cases d with
  | kotlin => apply Unbroken.kotlinHeader hc h
  | java => apply Unbroken.javaHeader hc h

theorem unbroken_classlike (d : Dialect) {k : Classlike} (h : ∀ s ∈ k.strings, Text.Unbroken s) :
  Text.Unbroken (d.signature c (.classlike k) Node.factory).plainText
  := by
  cases halias : k.facets.actualAlias with
  | none =>
      rw [Dialect.signature_classlike d c halias]
      apply unbroken_classHeader hc d h
  | some aliased =>
      have haliased : ∀ s ∈ aliased.strings TypeExpr.strings, Text.Unbroken s := by
        intro s hs
        apply h s
        simp [Classlike.strings, Facets.strings, halias, hs]
      rw [signature_eq_main d c halias]
      apply Node.unbroken_plainTextOfList
      rw [List.forall_mem_append, List.forall_mem_map]
      constructor
      · split
        · apply List.forall_mem_nil
        · rw [List.forall_mem_singleton]
          apply unbroken_classHeader hc d h
      · intro g hg
        apply Unbroken.symbol
        apply Unbroken.classLine d h (Unbroken.ofGroup haliased hg)

theorem unbroken_typeAlias (d : Dialect) {t : TypeAlias} (h : ∀ s ∈ t.strings, Text.Unbroken s) :
  Text.Unbroken (d.signature c (.typeAlias t) Node.factory).plainText
  := by
  have hunderlying : ∀ s ∈ t.underlying.strings TypeExpr.strings, Text.Unbroken s := by
    intro s hs
    apply h s
    simp [TypeAlias.strings, hs]
  rw [Dialect.signature_typeAlias, Signature.typeAlias, Signature.main, make, concat_made]
  apply Node.unbroken_plainTextOfList
  rw [List.forall_mem_map]
  intro g hg
  apply Unbroken.symbol
  apply Unbroken.aliasLine hc d h (Unbroken.ofGroup hunderlying hg)

/-- The text of a signature is unbroken if the strings of its declaration and what the conventions
bring into it are. -/
theorem unbroken_signature (d : Dialect) {declaration : Declaration}
    (h : ∀ s ∈ declaration.strings, Text.Unbroken s) :
  Text.Unbroken (d.signature c declaration Node.factory).plainText
  := by
  cases declaration with
  | classlike k => apply unbroken_classlike hc d h
  | function f =>
      cases d with
      | kotlin => apply Unbroken.kotlinFunction hc h
      | java => apply Unbroken.javaFunction hc h
  | property q =>
      cases d with
      | kotlin => apply Unbroken.kotlinProperty hc h
      | java => apply Unbroken.javaProperty hc h
  | typeAlias t => apply unbroken_typeAlias hc d h
  | typeParameter t =>
      have hannotations : (c.blockAnnotations t.facets : Emission Node).Unbroken := by
        apply Unbroken.blockAnnotations hc
        intro s hs
        apply h s
        simp [Declaration.strings, TypeParameter.strings, hs]
      cases d with
      | kotlin => exact (hannotations.append (Unbroken.kotlinTypeParameter h)).symbol _ _
      | java => exact (hannotations.append (Unbroken.javaTypeParameter h)).symbol _ _
  | enumEntry e => cases d <;> exact List.not_mem_nil

omit hc in
/-- The platforms of the symbols of a declaration are among its strings. -/
theorem mem_strings_of_mem_symbolPlatforms {declaration : Declaration} {part : PlatformSet}
    (hpart : part ∈ declaration.symbolPlatforms) {p : Platform} (hp : p ∈ part) :
  p ∈ declaration.strings
  := by
  cases declaration with
  | typeAlias t =>
      have hkey : p ∈ t.underlying.keys.elements := subset_of_mem_parts hpart p hp
      simp [Declaration.strings, TypeAlias.strings, PlatformMap.strings, hkey]
  | classlike k =>
      have hextent := Declaration.subset_of_mem_symbolPlatforms (by simp) hpart p hp
      cases halias : k.facets.actualAlias with
      | none =>
          have hplatform : p ∈ k.platforms := by
            simpa [Declaration.extent, halias] using hextent
          rw [OrderedSet.mem_def] at hplatform
          simp [Declaration.strings, Classlike.strings, hplatform]
      | some aliased =>
          have hcases : p ∈ k.platforms ∨ p ∈ aliased.keys := by
            simpa [Declaration.extent, halias] using hextent
          rw [OrderedSet.mem_def, OrderedSet.mem_def] at hcases
          have hstrings : k.platforms.elements ⊆ k.strings ∧ aliased.keys.elements ⊆ k.strings := by
            constructor <;> intro q hq <;>
              simp [Classlike.strings, Facets.strings, PlatformMap.strings, halias, hq]
          exact hcases.elim (@hstrings.1 p) (@hstrings.2 p)
  | _ d =>
      have hplatform : p ∈ d.platforms.elements := by
        obtain rfl := List.mem_singleton.mp hpart
        apply hp
      simp [Declaration.strings, Function.strings, Property.strings, TypeParameter.strings,
        EnumEntry.strings, hplatform]

end PlatformSignatures
