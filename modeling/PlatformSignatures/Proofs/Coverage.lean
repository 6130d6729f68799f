import PlatformSignatures.Model
import PlatformSignatures.Proofs.PlatformMaps

/-!
# Coverage

What it means that the checks of a model are passed.
-/

namespace PlatformSignatures

namespace Coverage

/-- Two checks after one another are passed if both are. -/
theorem bind_eq_ok_iff (first rest : Except Gap Unit) :
  (first >>= fun _ => rest) = .ok () ↔ first = .ok () ∧ rest = .ok ()
  := by
  cases first with
  | error gap => simp [bind, Except.bind]
  | ok _ => simp [bind, Except.bind]

theorem each_eq_ok_iff {α : Type} (check : α → Except Gap Unit) (as : List α) :
  each check as = .ok () ↔ ∀ a ∈ as, check a = .ok ()
  := by
  induction as with
  | nil => simp [each]
  | cons a as ih => rw [List.forall_mem_cons, ← ih, each, bind_eq_ok_iff]

theorem covers_eq_ok_iff {α : Type} (symbol : SymbolId) (aspect : Aspect) (values : PlatformMap α)
    (platforms : PlatformSet) :
  covers symbol aspect values platforms = .ok () ↔ ∀ p ∈ platforms, p ∈ values.keys
  := by
  unfold covers
  cases h : platforms.elements.find? fun p => !values.contains p with
  | none =>
      simp only [true_iff]
      intro p hp
      have hcontains := List.find?_eq_none.mp h p hp
      simpa [PlatformMap.contains_iff] using hcontains
  | some p =>
      simp only [reduceCtorEq, false_iff]
      intro hall
      have hmissing := List.find?_some h
      have hkey := (PlatformMap.contains_iff values p).mpr (hall p (List.mem_of_find?_eq_some h))
      simp [hkey] at hmissing

theorem typeAlias_eq_ok_iff (t : TypeAlias) :
  typeAlias t = .ok ()
    ↔ declared t.id t.platforms = .ok () ∧ (∀ p ∈ t.platforms, p ∈ t.visibility.keys) ∧
      (∀ p ∈ t.platforms, p ∈ t.underlying.keys) ∧ ∀ g ∈ t.generics, typeParameter g = .ok ()
  := by
  rw [typeAlias, bind_eq_ok_iff, bind_eq_ok_iff, bind_eq_ok_iff, covers_eq_ok_iff,
    covers_eq_ok_iff, each_eq_ok_iff]

end Coverage

/-- The declarations of a covered model are covered. -/
theorem Model.check_eq_ok_iff (m : Model) :
  m.check = .ok () ↔ ∀ d ∈ m.declarations, Coverage.declaration d = .ok ()
  := by
  apply Coverage.each_eq_ok_iff

end PlatformSignatures
