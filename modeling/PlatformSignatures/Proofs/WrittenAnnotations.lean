import Mathlib.Algebra.Ring.Nat
import PlatformSignatures.Proofs.WrittenText
import PlatformSignatures.Signature.Annotations

/-!
# Written annotations

An annotation is written without groups, by texts and links on the platforms of the scope.  The
links are those of the values in it, in preorder, where the annotation itself comes first.  The
sign stands in front of every annotation, of the outermost one, or of none.
-/

namespace PlatformSignatures

/-! ### The values in a value -/

namespace AnnotationValue

mutual

/-- A value with all values inside it, in preorder. -/
def parts : AnnotationValue → List AnnotationValue
  | literal text => [literal text]
  | enumEntry name id => [enumEntry name id]
  | classLiteral name id => [classLiteral name id]
  | nested id arguments => nested id arguments :: partsOfArguments arguments
  | array values => array values :: partsOfList values

/-- The values of a list with all values inside them, in preorder. -/
def partsOfList : List AnnotationValue → List AnnotationValue
  | [] => []
  | v :: vs => parts v ++ partsOfList vs

/-- The values of some arguments with all values inside them, in preorder. -/
def partsOfArguments : List (String × AnnotationValue) → List AnnotationValue
  | [] => []
  | (_, v) :: as => parts v ++ partsOfArguments as

end

/-- The values directly inside a value. -/
def children : AnnotationValue → List AnnotationValue
  | nested _ arguments => arguments.map (·.2)
  | array values => values
  | _ => []

theorem partsOfList_eq_flatMap (vs : List AnnotationValue) :
  partsOfList vs = vs.flatMap parts
  := by
  induction vs with
  | nil => rfl
  | cons v vs ih => rw [partsOfList, ih, List.flatMap_cons]

theorem partsOfArguments_eq_flatMap (as : List (String × AnnotationValue)) :
  partsOfArguments as = (as.map (·.2)).flatMap parts
  := by
  induction as with
  | nil => rfl
  | cons a as ih => rw [partsOfArguments, ih, List.map_cons, List.flatMap_cons]

theorem parts_eq (v : AnnotationValue) :
  v.parts = v :: v.children.flatMap parts
  := by
  cases v with
  | nested id arguments => rw [parts, partsOfArguments_eq_flatMap, children]
  | array values => rw [parts, partsOfList_eq_flatMap, children]
  | _ => rfl

theorem sizeOf_lt_of_mem_children {v w : AnnotationValue} (h : w ∈ v.children) :
  sizeOf w < sizeOf v
  := by
  cases v with
  | nested id arguments =>
      obtain ⟨⟨name, u⟩, hmem, rfl⟩ := List.mem_map.mp h
      have hlt := List.sizeOf_lt_of_mem hmem
      simp only [Prod.mk.sizeOf_spec] at hlt
      simp only [nested.sizeOf_spec]
      omega
  | array values =>
      have hlt : sizeOf w < sizeOf values := List.sizeOf_lt_of_mem h
      simp only [array.sizeOf_spec]
      omega
  | _ => exact absurd h List.not_mem_nil

/-- What holds of a value as soon as it holds of the values directly inside it, holds of every
value. -/
theorem induct {P : AnnotationValue → Prop} (step : ∀ v, (∀ w ∈ v.children, P w) → P v)
    (v : AnnotationValue) :
  P v
  := step v fun w hw =>
    have := sizeOf_lt_of_mem_children hw
    induct step w
termination_by v

/-- The target of the link that a value has of its own. -/
def target? : AnnotationValue → Option SymbolId
  | literal _ => none
  | enumEntry _ id => some id
  | classLiteral _ id => some id
  | nested id _ => some id
  | array _ => none

/-- Whether a value is an annotation. -/
def isAnnotation : AnnotationValue → Bool
  | nested _ _ => true
  | _ => false

/-- The texts that a value brings of its own: a literal, the name of what it refers to, and the
names of arguments. -/
def ownTexts : AnnotationValue → List String
  | literal text => [text]
  | enumEntry name _ => [name]
  | classLiteral name _ => [name]
  | nested id arguments => id.displayName :: arguments.map (·.1)
  | array _ => []

/-- The targets of the links in a value, in preorder. -/
def targets (v : AnnotationValue) : List SymbolId :=
  v.parts.filterMap target?

/-- The number of annotations in a value. -/
def annotationCount (v : AnnotationValue) : Nat :=
  v.parts.countP isAnnotation

/-- The texts in a value. -/
def texts (v : AnnotationValue) : List String :=
  v.parts.flatMap ownTexts

theorem targets_eq (v : AnnotationValue) :
  v.targets = v.target?.toList ++ v.children.flatMap targets
  := by
  rw [targets, parts_eq, List.filterMap_cons, List.filterMap_flatMap]
  cases v.target? <;> rfl

theorem annotationCount_eq (v : AnnotationValue) :
  v.annotationCount
    = (if v.isAnnotation then 1 else 0) + (v.children.map annotationCount).sum
  := by
  rw [annotationCount, parts_eq, List.countP_cons, List.countP_flatMap, Nat.add_comm]
  rfl

theorem mem_texts (t : String) (v : AnnotationValue) :
  t ∈ v.texts ↔ t ∈ v.ownTexts ∨ ∃ w ∈ v.children, t ∈ w.texts
  := by
  rw [texts, parts_eq, List.flatMap_cons, List.mem_append, List.flatMap_assoc, List.mem_flatMap]
  rfl

end AnnotationValue

/-- An annotation as a value, as it stands inside another annotation. -/
def Annotation.value (a : Annotation) : AnnotationValue :=
  .nested a.id a.arguments

namespace Conventions

variable {ν : Type} (c : Conventions)

theorem annotationIn_eq (sign : AtSign) (a : Annotation) :
  (c.annotationIn sign a : Emission ν) = c.annotationValue sign a.value
  := rfl

theorem annotationValues_eq_map (sign : AtSign) (vs : List AnnotationValue) :
  (c.annotationValues sign vs : List (Emission ν)) = vs.map (c.annotationValue sign)
  := by
  induction vs with
  | nil => rfl
  | cons v vs ih => rw [annotationValues, ih, List.map_cons]

theorem annotationArguments_eq_map (sign : AtSign) (as : List (String × AnnotationValue)) :
  (c.annotationArguments sign as : List (Emission ν))
    = as.map fun a => .text (a.1 ++ " = ") ++ c.annotationValue sign a.2
  := by
  induction as with
  | nil => rfl
  | cons a as ih => rw [annotationArguments, ih, List.map_cons]

end Conventions

/-! ### Texts and links only -/

/-- A node is a leaf of a scope if it is a text without styles, or a link, on the platforms of the
scope. -/
def Scope.IsLeaf {ν : Type} (scope : Scope ν) (n : ν) : Prop :=
  (∃ t, t ≠ "" ∧ n = scope.factory.text t [] scope.platforms) ∨
    ∃ t target, n = scope.factory.link t target scope.platforms

namespace Emission

variable {ν : Type} {scope : Scope ν} {e f : Emission ν} {es : List (Emission ν)}

/-- All nodes that an emission writes are leaves of the scope. -/
def WritesLeaves (scope : Scope ν) (e : Emission ν) : Prop :=
  ∀ n ∈ e scope, scope.IsLeaf n

namespace WritesLeaves

theorem nothing :
  WritesLeaves scope .nothing
  := List.forall_mem_nil _

theorem append (he : WritesLeaves scope e) (hf : WritesLeaves scope f) :
  WritesLeaves scope (e ++ f)
  := List.forall_mem_append.mpr ⟨he, hf⟩

theorem text (t : String) :
  WritesLeaves scope (.text t)
  := by
  by_cases h : t = ""
  · rw [h]
    apply nothing
  · rw [WritesLeaves, text_of_ne h, List.forall_mem_singleton]
    exact Or.inl ⟨t, h, rfl⟩

theorem link (t : String) (target : SymbolId) :
  WritesLeaves scope (.link t target)
  := List.forall_mem_singleton.mpr (Or.inr ⟨t, target, rfl⟩)

theorem separated (separator : String) (h : ∀ e ∈ es, WritesLeaves scope e) :
  WritesLeaves scope (.separated separator es)
  := by
  induction es with
  | nil => apply nothing
  | cons e es ih =>
      obtain ⟨he, hes⟩ := List.forall_mem_cons.mp h
      cases es with
      | nil => apply he
      | cons e' es => exact (he.append (text separator)).append (ih hes)

theorem annotationWith (sign : AtSign) (id : SymbolId) (h : ∀ e ∈ es, WritesLeaves scope e) :
  WritesLeaves scope (PlatformSignatures.annotationWith sign id es)
  := by
  have hsign : WritesLeaves scope (if sign.shown then .text "@" else .nothing) := by
    cases sign.shown with
    | true => exact text "@"
    | false => exact nothing
  exact (((hsign.append (link _ id)).append (text "(")).append (separated ", " h)).append (text ")")

theorem annotationValue (c : Conventions) (sign : AtSign) (v : AnnotationValue) :
  WritesLeaves scope (c.annotationValue sign v)
  := by
  induction v using AnnotationValue.induct generalizing sign with
  | step v ih =>
      cases v with
      | literal t => exact text t
      | enumEntry name id => exact link name id
      | classLiteral name id => exact link _ id
      | nested id arguments =>
          rw [Conventions.annotationValue, Conventions.annotationArguments_eq_map]
          apply annotationWith
          rw [List.forall_mem_map]
          intro a ha
          exact (text _).append (ih a.2 (List.mem_map_of_mem ha) sign.nested)
      | array values =>
          rw [Conventions.annotationValue, Conventions.annotationValues_eq_map]
          apply ((text _).append (separated ", " _)).append (text _)
          rw [List.forall_mem_map]
          intro v hv
          exact ih v hv sign

end WritesLeaves

/-! ### Links -/

variable {owner : SymbolId} {platforms : PlatformSet}

theorem writtenLinks_annotationWith (sign : AtSign) (id : SymbolId) (es : List (Emission Node)) :
  writtenLinks owner platforms (annotationWith sign id es)
    = id :: es.flatMap (writtenLinks owner platforms)
  := by
  rw [annotationWith]
  cases sign.shown <;> simp

theorem writtenLinks_annotationValue (c : Conventions) (sign : AtSign) (v : AnnotationValue) :
  writtenLinks owner platforms (c.annotationValue sign v) = v.targets
  := by
  induction v using AnnotationValue.induct generalizing sign with
  | step v ih =>
      rw [AnnotationValue.targets_eq]
      cases v with
      | literal t => apply writtenLinks_text
      | enumEntry name id => rfl
      | classLiteral name id => rfl
      | nested id arguments =>
          rw [Conventions.annotationValue, writtenLinks_annotationWith,
            Conventions.annotationArguments_eq_map, List.flatMap_map, AnnotationValue.children,
            List.flatMap_map]
          apply congrArg (id :: ·)
          apply List.flatMap_congr
          intro a ha
          rw [writtenLinks_append, writtenLinks_text, List.nil_append]
          exact ih a.2 (List.mem_map_of_mem ha) sign.nested
      | array values =>
          rw [Conventions.annotationValue, writtenLinks_append, writtenLinks_append,
            writtenLinks_text, writtenLinks_text, writtenLinks_separated, List.append_nil,
            Conventions.annotationValues_eq_map, List.flatMap_map]
          apply List.flatMap_congr
          intro v hv
          exact ih v hv sign

end Emission

/-! ### Signs -/

/-- The conventions bring no sign into an annotation but those in front of annotations. -/
structure Conventions.HasNoSign (c : Conventions) : Prop where
  opening : c.brackets.opening ≠ '@'
  closing : c.brackets.closing ≠ '@'
  classSuffix : '@' ∉ c.classSuffix.toList

/-- The sign for the values directly inside a value with the given sign. -/
def AnnotationValue.signInside (v : AnnotationValue) (sign : AtSign) : AtSign :=
  if v.isAnnotation then sign.nested else sign

namespace Emission

variable {owner : SymbolId} {platforms : PlatformSet}

/-- The number of signs of annotations in a text. -/
def signs (t : String) : Nat :=
  t.toList.count '@'

@[simp]
theorem signs_append (s t : String) :
  signs (s ++ t) = signs s + signs t
  := by
  rw [signs, String.toList_append, List.count_append]
  rfl

theorem signs_eq_zero {t : String} (h : '@' ∉ t.toList) :
  signs t = 0
  := List.count_eq_zero.mpr h

/-- If no text in a value has a sign, its own texts have none. -/
theorem signs_ownTexts {v : AnnotationValue} (h : ∀ t ∈ v.texts, '@' ∉ t.toList) :
  ∀ t ∈ v.ownTexts, signs t = 0
  := fun t ht => signs_eq_zero (h t ((v.mem_texts t).mpr (Or.inl ht)))

theorem signs_intercalate {separator : String} (h : signs separator = 0) (ts : List String) :
  signs (separator.intercalate ts) = (ts.map signs).sum
  := by
  induction ts with
  | nil =>
      rw [String.intercalate_nil]
      rfl
  | cons t ts ih =>
      cases ts with
      | nil => simp
      | cons t' ts =>
          rw [String.intercalate_cons_cons, signs_append, signs_append, h, ih, Nat.add_zero,
            ← List.sum_cons, ← List.map_cons]

/-- What is written for an annotation has its own sign, if that is shown, and the signs in its
arguments. -/
theorem signs_annotationWith (sign : AtSign) {id : SymbolId} (hid : signs id.displayName = 0)
    (es : List (Emission Node)) :
  signs (writtenText owner platforms (annotationWith sign id es))
    = (if sign.shown then 1 else 0) + (es.map fun e => signs (writtenText owner platforms e)).sum
  := by
  have hmark : signs (writtenText owner platforms (if sign.shown then text "@" else nothing))
      = if sign.shown then 1 else 0 := by
    cases sign.shown with
    | true => rw [if_pos rfl, writtenText_text]; decide
    | false => rfl
  have hcomma : signs ", " = 0 := by decide
  have hopening : signs "(" = 0 := by decide
  have hclosing : signs ")" = 0 := by decide
  rw [annotationWith, writtenText_append, writtenText_append, writtenText_append,
    writtenText_append, signs_append, signs_append, signs_append, signs_append, hmark,
    writtenText_linkTo, hid, writtenText_text, hopening, writtenText_text, hclosing,
    writtenText_separated, signs_intercalate hcomma, List.map_map]
  rfl

variable {c : Conventions}

theorem signs_annotationArguments (sign : AtSign) {as : List (String × AnnotationValue)}
    (h : ∀ a ∈ as, signs a.1 = 0) :
  ((c.annotationArguments sign as).map fun e => signs (writtenText owner platforms e)).sum
    = (as.map fun a => signs (writtenText owner platforms (c.annotationValue sign a.2))).sum
  := by
  have hequals : signs " = " = 0 := by decide
  rw [Conventions.annotationArguments_eq_map, List.map_map]
  apply congrArg List.sum
  apply List.map_congr_left
  intro a ha
  rw [Function.comp_apply, writtenText_append, signs_append, writtenText_text, signs_append, h a ha,
    hequals, Nat.zero_add]

theorem signs_array (hc : c.HasNoSign) (sign : AtSign) (values : List AnnotationValue) :
  signs (writtenText owner platforms (c.annotationValue sign (.array values)))
    = (values.map fun v => signs (writtenText owner platforms (c.annotationValue sign v))).sum
  := by
  have hcomma : signs ", " = 0 := by decide
  have hopening : signs (String.singleton c.brackets.opening) = 0 := by
    apply signs_eq_zero
    simpa using hc.opening.symm
  have hclosing : signs (String.singleton c.brackets.closing) = 0 := by
    apply signs_eq_zero
    simpa using hc.closing.symm
  rw [Conventions.annotationValue, writtenText_append, writtenText_append, signs_append,
    signs_append, writtenText_text, hopening, writtenText_text, hclosing, writtenText_separated,
    signs_intercalate hcomma, Conventions.annotationValues_eq_map, List.map_map, List.map_map,
    Nat.zero_add, Nat.add_zero]
  rfl

/-- What is written for a value has the sign of the value, if it is an annotation and has one, and
the signs in the values directly inside it. -/
theorem signs_annotationValue (hc : c.HasNoSign) (sign : AtSign) {v : AnnotationValue}
    (h : ∀ t ∈ v.ownTexts, signs t = 0) :
  signs (writtenText owner platforms (c.annotationValue sign v))
    = (if v.isAnnotation && sign.shown then 1 else 0)
      + (v.children.map fun w =>
          signs (writtenText owner platforms (c.annotationValue (v.signInside sign) w))).sum
  := by
  cases v with
  | literal t =>
      rw [Conventions.annotationValue, writtenText_text, h t List.mem_cons_self]
      rfl
  | enumEntry name id =>
      rw [Conventions.annotationValue, writtenText_link, h name List.mem_cons_self]
      rfl
  | classLiteral name id =>
      rw [Conventions.annotationValue, writtenText_link, signs_append, h name List.mem_cons_self,
        signs_eq_zero hc.classSuffix]
      rfl
  | nested id arguments =>
      obtain ⟨hid, hnames⟩ := List.forall_mem_cons.mp h
      rw [Conventions.annotationValue, signs_annotationWith sign hid,
        signs_annotationArguments sign.nested (List.forall_mem_map.mp hnames),
        AnnotationValue.children, List.map_map]
      rfl
  | array values =>
      rw [signs_array hc, AnnotationValue.children]
      exact (Nat.zero_add _).symm

variable {v : AnnotationValue}

/-- Where a sign is the same at all depths, either all annotations have it in front of them or none
has. -/
theorem signs_of_nested_eq_self (hc : c.HasNoSign) {sign : AtSign} (hsign : sign.nested = sign)
    (h : ∀ t ∈ v.texts, '@' ∉ t.toList) :
  signs (writtenText owner platforms (c.annotationValue sign v))
    = if sign.shown then v.annotationCount else 0
  := by
  induction v using AnnotationValue.induct with
  | step v ih =>
      have hinner (w : AnnotationValue) (hw : w ∈ v.children) :
          signs (writtenText owner platforms (c.annotationValue sign w))
            = if sign.shown then w.annotationCount else 0 :=
        ih w hw fun t ht => h t ((v.mem_texts t).mpr (Or.inr ⟨w, hw, ht⟩))
      have hinside : v.signInside sign = sign := by
        rw [AnnotationValue.signInside, hsign, ite_self]
      rw [signs_annotationValue hc sign (signs_ownTexts h), hinside,
        List.map_congr_left hinner, AnnotationValue.annotationCount_eq]
      cases sign.shown with
      | true => simp
      | false => simp

/-- Where only the outermost annotation has the sign, an annotation is written with one. -/
theorem signs_outermost (hc : c.HasNoSign) (hv : v.isAnnotation)
    (h : ∀ t ∈ v.texts, '@' ∉ t.toList) :
  signs (writtenText owner platforms (c.annotationValue .outermost v)) = 1
  := by
  have hinner (w : AnnotationValue) (hw : w ∈ v.children) :
      signs (writtenText owner platforms (c.annotationValue .never w)) = 0 :=
    signs_of_nested_eq_self hc rfl fun t ht => h t ((v.mem_texts t).mpr (Or.inr ⟨w, hw, ht⟩))
  have hinside : v.signInside .outermost = .never := if_pos hv
  rw [signs_annotationValue hc .outermost (signs_ownTexts h), hinside,
    List.map_congr_left hinner, hv]
  simp [AtSign.shown]

end Emission

namespace Conventions

/-- An annotation is written by texts and links on the platforms of the scope, and nothing else.
The links are those of the annotation and of the values in it, in preorder.  If there is no sign in
its texts, the signs written are those in front of the annotations that have one. -/
theorem annotationIn_written (c : Conventions) (sign : AtSign) (a : Annotation) :
  (∀ (ν : Type) (scope : Scope ν), ∀ n ∈ c.annotationIn sign a scope, scope.IsLeaf n) ∧
    ∀ (owner : SymbolId) (platforms : PlatformSet),
      Node.linksOfList (c.annotationIn sign a ⟨Node.factory, owner, platforms⟩)
          = a.value.targets ∧
        (c.HasNoSign → (∀ t ∈ a.value.texts, '@' ∉ t.toList) →
          (Node.plainTextOfList
              (c.annotationIn sign a ⟨Node.factory, owner, platforms⟩)).toList.count '@'
            = match sign with
              | .always => a.value.annotationCount
              | .outermost => 1
              | .never => 0)
  := by
  constructor
  · intro ν scope
    apply Emission.WritesLeaves.annotationValue c sign a.value
  · intro owner platforms
    constructor
    · apply Emission.writtenLinks_annotationValue c sign a.value
    · intro hc h
      rw [annotationIn_eq]
      change Emission.signs (Emission.writtenText owner platforms _) = _
      cases sign with
      | always => exact Emission.signs_of_nested_eq_self hc rfl h
      | outermost => exact Emission.signs_outermost hc rfl h
      | never => exact Emission.signs_of_nested_eq_self hc rfl h

end Conventions

/-- An annotation with an array of two annotations in it. -/
def Annotation.checks : Annotation where
  id := SymbolId.ofClass "app" "Checks"
  arguments := [("value", .array [
    .nested (SymbolId.ofClass "app" "Check")
      [("type", .classLiteral "Int" (SymbolId.ofClass "kotlin" "Int"))],
    .nested (SymbolId.ofClass "app" "Check")
      [("mode", .enumEntry "FAST" (SymbolId.ofClass "app" "Mode"))]])]

theorem Conventions.annotationIn_written_checks :
  let nodes := kotlin.annotationIn .always Annotation.checks
    ⟨Node.factory, SymbolId.anonymous, OrderedSet.singleton "jvm"⟩
  kotlin.HasNoSign ∧ (∀ t ∈ Annotation.checks.value.texts, '@' ∉ t.toList) ∧
    Node.linksOfList nodes
      = [SymbolId.ofClass "app" "Checks", SymbolId.ofClass "app" "Check",
        SymbolId.ofClass "kotlin" "Int", SymbolId.ofClass "app" "Check",
        SymbolId.ofClass "app" "Mode"] ∧
    (Node.plainTextOfList nodes).toList.count '@' = 3
  := by
  intro nodes
  have hkotlin : kotlin.HasNoSign := ⟨by decide, by decide, by decide⟩
  have htexts : ∀ t ∈ Annotation.checks.value.texts, '@' ∉ t.toList := by decide
  obtain ⟨-, hwritten⟩ := annotationIn_written kotlin .always Annotation.checks
  obtain ⟨hlinks, hsigns⟩ := hwritten SymbolId.anonymous (OrderedSet.singleton "jvm")
  have htargets : Annotation.checks.value.targets
      = [SymbolId.ofClass "app" "Checks", SymbolId.ofClass "app" "Check",
        SymbolId.ofClass "kotlin" "Int", SymbolId.ofClass "app" "Check",
        SymbolId.ofClass "app" "Mode"] := by decide
  have hcount : Annotation.checks.value.annotationCount = 3 := by decide
  exact ⟨hkotlin, htexts, hlinks.trans htargets, (hsigns hkotlin htexts).trans hcount⟩

end PlatformSignatures
