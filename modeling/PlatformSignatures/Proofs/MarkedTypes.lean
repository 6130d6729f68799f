import Mathlib.Data.List.Forall2
import PlatformSignatures.Signature.Kotlin

/-!
# Marked types

A named type that is marked as a function type is written as an arrow if it has enough arguments
for that.  Whatever is made of types by going through them, such as what is written for them, says
what becomes of a named type and what becomes of an arrow; the choice between the two is always the
same.
-/

namespace PlatformSignatures

variable {α β : Type}

/-! ### The last of related lists -/

theorem forall₂_dropLast {S : α → β → Prop} {as : List α} {bs : List β}
    (h : List.Forall₂ S as bs) :
  List.Forall₂ S as.dropLast bs.dropLast
  := by
  rw [List.dropLast_eq_take, List.dropLast_eq_take, h.length_eq]
  apply List.forall₂_take _ h

theorem forall₂_getLast {S : α → β → Prop} {as : List α} {bs : List β} (h : List.Forall₂ S as bs)
    (has : as ≠ []) (hbs : bs ≠ []) :
  S (as.getLast has) (bs.getLast hbs)
  := by
  rw [List.getLast_eq_getElem, List.getLast_eq_getElem]
  have hlength := h.length_eq
  simp only [hlength]
  apply h.get _ _

/-! ### Named types and arrows -/

namespace Kotlin

/-- What becomes of a marked type, given what becomes of its arguments, of named types and of
arrows. -/
def marked (named : List α → α) (arrow : Option α → List α → α → α) :
    FunctionMarker → List α → α
  | .function, a :: as => arrow none (a :: as).dropLast ((a :: as).getLast (by simp))
  | .extension, r :: a :: as => arrow (some r) (a :: as).dropLast ((a :: as).getLast (by simp))
  | _, as => named as

theorem markedType_eq_marked {ν : Type} (id : SymbolId) (marker : FunctionMarker)
    (es : List (Emission ν)) :
  markedType id marker es = marked (namedType id) arrow marker es
  := by
  cases marker with
  | notFunction => cases es <;> rfl
  | function => cases es <;> rfl
  | extension =>
      cases es with
      | nil => rfl
      | cons r es => cases es <;> rfl

variable {named : List α → α} {arrow : Option α → List α → α → α}

theorem marked_function (as : List α) (a : α) :
  marked named arrow .function (as ++ [a]) = arrow none as a
  := by
  cases as with
  | nil => rfl
  | cons b bs =>
      rw [List.cons_append, marked]
      simp only [← List.cons_append, List.dropLast_concat, List.getLast_concat]

theorem marked_extension (r : α) (as : List α) (a : α) :
  marked named arrow .extension (r :: (as ++ [a])) = arrow (some r) as a
  := by
  cases as with
  | nil => rfl
  | cons b bs =>
      rw [List.cons_append, marked]
      simp only [← List.cons_append, List.dropLast_concat, List.getLast_concat]

/-- What holds of named types and of arrows whose parts it holds of, holds of marked types. -/
theorem marked_of_forall {P : α → Prop} (hnamed : ∀ as, (∀ a ∈ as, P a) → P (named as))
    (harrow : ∀ r as a, (∀ b ∈ r, P b) → (∀ b ∈ as, P b) → P a → P (arrow r as a))
    (marker : FunctionMarker) {as : List α} (h : ∀ a ∈ as, P a) :
  P (marked named arrow marker as)
  := by
  cases marker with
  | notFunction => cases as <;> apply hnamed _ h
  | function =>
      obtain rfl | ⟨as, a, rfl⟩ := List.eq_nil_or_concat' as
      · apply hnamed _ h
      · rw [List.forall_mem_append, List.forall_mem_singleton] at h
        rw [marked_function]
        apply harrow none as a (by simp) h.1 h.2
  | extension =>
      cases as with
      | nil => apply hnamed _ h
      | cons r as =>
          obtain rfl | ⟨as, a, rfl⟩ := List.eq_nil_or_concat' as
          · apply hnamed _ h
          · rw [List.forall_mem_cons, List.forall_mem_append, List.forall_mem_singleton] at h
            rw [marked_extension]
            apply harrow (some r) as a (by simpa using h.1) h.2.1 h.2.2

/-- Two things made of marked types are related if this is so for named types and for arrows whose
parts are related. -/
theorem marked_rel {S : α → β → Prop} {named' : List β → β} {arrow' : Option β → List β → β → β}
    (hnamed : ∀ {as bs}, List.Forall₂ S as bs → S (named as) (named' bs))
    (harrow : ∀ {r r' as bs a b}, Option.Rel S r r' → List.Forall₂ S as bs → S a b →
      S (arrow r as a) (arrow' r' bs b))
    (marker : FunctionMarker) {as : List α} {bs : List β} (h : List.Forall₂ S as bs) :
  S (marked named arrow marker as) (marked named' arrow' marker bs)
  := by
  cases marker with
  | notFunction => cases h <;> apply hnamed <;> constructor <;> assumption
  | function =>
      cases h with
      | nil => apply hnamed .nil
      | cons h hs =>
          apply harrow .none (forall₂_dropLast (.cons h hs)) (forall₂_getLast (.cons h hs) _ _)
  | extension =>
      cases h with
      | nil => apply hnamed .nil
      | cons hr hs =>
          cases hs with
          | nil => apply hnamed (.cons hr .nil)
          | cons h hs =>
              exact harrow (.some hr) (forall₂_dropLast (.cons h hs))
                (forall₂_getLast (.cons h hs) _ _)

end Kotlin

end PlatformSignatures
