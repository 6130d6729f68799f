import PlatformSignatures.Symbol

/-!
# Annotations

An annotation names a symbol and gives arguments in order.  The value of an argument is a literal
in source form, an enum entry, a class, another annotation or an array of values.
-/

namespace PlatformSignatures

/-- The value of an annotation argument. -/
inductive AnnotationValue where
  /-- A literal in source form, quotes included. -/
  | literal (text : String)
  /-- A reference to an enum entry. -/
  | enumEntry (name : String) (id : SymbolId)
  /-- A class literal. -/
  | classLiteral (name : String) (id : SymbolId)
  /-- An annotation inside another one. -/
  | nested (id : SymbolId) (arguments : List (String × AnnotationValue))
  /-- An array of values. -/
  | array (values : List AnnotationValue)
  deriving Inhabited

namespace AnnotationValue

mutual

/-- Whether two values are equal. -/
def same : AnnotationValue → AnnotationValue → Bool
  | literal s, literal t => s = t
  | enumEntry n i, enumEntry m j => n = m && i = j
  | classLiteral n i, classLiteral m j => n = m && i = j
  | nested i as, nested j bs => i = j && sameArguments as bs
  | array vs, array ws => sameList vs ws
  | _, _ => false

/-- Whether two lists of values are equal. -/
def sameList : List AnnotationValue → List AnnotationValue → Bool
  | [], [] => true
  | v :: vs, w :: ws => same v w && sameList vs ws
  | _, _ => false

/-- Whether two lists of arguments are equal. -/
def sameArguments : List (String × AnnotationValue) → List (String × AnnotationValue) → Bool
  | [], [] => true
  | (n, v) :: as, (m, w) :: bs => n = m && same v w && sameArguments as bs
  | _, _ => false

end

mutual

theorem same_iff (v w : AnnotationValue) :
  same v w ↔ v = w
  := by
  cases v <;> cases w <;> simp [same]
  case nested.nested i as j bs => grind [sameArguments_iff as bs]
  case array.array vs ws => exact sameList_iff vs ws

theorem sameList_iff (vs ws : List AnnotationValue) :
  sameList vs ws ↔ vs = ws
  := by
  cases vs <;> cases ws <;> simp [sameList]
  case cons.cons v vs w ws => rw [same_iff v w, sameList_iff vs ws]

theorem sameArguments_iff (as bs : List (String × AnnotationValue)) :
  sameArguments as bs ↔ as = bs
  := by
  match as, bs with
  | [], [] => simp [sameArguments]
  | [], _ :: _ => simp [sameArguments]
  | _ :: _, [] => simp [sameArguments]
  | (n, v) :: as, (m, w) :: bs =>
    simp only [sameArguments, Bool.and_eq_true, decide_eq_true_eq, List.cons.injEq, Prod.mk.injEq]
    rw [same_iff v w, sameArguments_iff as bs]

end

instance : DecidableEq AnnotationValue := fun v w =>
  decidable_of_iff _ (same_iff v w)

end AnnotationValue

/-- An annotation of a declaration or a parameter. -/
structure Annotation where
  id : SymbolId
  arguments : List (String × AnnotationValue)
  deriving DecidableEq, Inhabited

/-- The annotation of a symbol without arguments. -/
def Annotation.plain (id : SymbolId) : Annotation := ⟨id, []⟩

end PlatformSignatures
