import Mathlib.Data.List.Sort
import Mathlib.Tactic.Use
import PlatformSignatures.OrderedSet

/-!
# Sets by their members

An ordered set is determined by its members, so an equation between two sets is proved by looking
at an arbitrary element.  For this every operation has a statement of what its members are.
-/

namespace PlatformSignatures

namespace OrderedSet

attribute [simp] mem_filter mem_insert

/-! ### Sets over any relation -/

section

variable {α : Type} [LT α]

@[simp]
theorem notMem_empty (a : α) :
  a ∉ (empty : OrderedSet α)
  := List.not_mem_nil

theorem isEmpty_iff (s : OrderedSet α) :
  s.isEmpty ↔ ∀ a, a ∉ s
  := by
  simp only [isEmpty, List.isEmpty_iff, List.eq_nil_iff_forall_not_mem]
  apply Iff.rfl

theorem isEmpty_eq_false_iff (s : OrderedSet α) :
  s.isEmpty = false ↔ ∃ a, a ∈ s
  := by
  rw [← Bool.not_eq_true, isEmpty_iff]
  simp

end

/-! ### Sets over a linear order -/

variable {α : Type} [LT α] [LE α] [Std.LawfulOrderLT α] [Std.IsLinearOrder α]

/-- A set is determined by its members. -/
@[ext]
theorem ext_mem {s t : OrderedSet α} (h : ∀ a, a ∈ s ↔ a ∈ t) :
  s = t
  := by
  apply ext_elements
  exact s.increasing.eq_of_mem_iff t.increasing h

/-- What is found in a set by a test comes before every other member that satisfies it. -/
theorem le_of_find?_eq_some {s : OrderedSet α} {test : α → Bool} {a b : α}
    (h : s.elements.find? test = some a) (hb : b ∈ s) (hbtest : test b) :
  a ≤ b
  := by
  obtain ⟨-, front, back, helements, hfront⟩ := List.find?_eq_some_iff_append.mp h
  have hincreasing := helements ▸ s.increasing
  rw [mem_def, helements, List.mem_append, List.mem_cons] at hb
  obtain hb | rfl | hb := hb
  · have hnot := hfront b hb
    simp [hbtest] at hnot
  · apply Std.le_refl
  · apply Std.le_of_lt
    apply List.rel_of_pairwise_cons (List.pairwise_append.mp hincreasing).2.1 hb

/-- What is found in a set by a test is the least member that satisfies it. -/
theorem find?_eq_some_iff (s : OrderedSet α) (test : α → Bool) (a : α) :
  s.elements.find? test = some a ↔ a ∈ s ∧ test a ∧ ∀ b ∈ s, test b → a ≤ b
  := by
  constructor
  · intro h
    exact ⟨List.mem_of_find?_eq_some h, List.find?_some h, fun _ => le_of_find?_eq_some h⟩
  · rintro ⟨ha, htest, hleast⟩
    cases h : s.elements.find? test with
    | none => exact absurd htest (List.find?_eq_none.mp h a ha)
    | some b =>
        have hab := hleast b (List.mem_of_find?_eq_some h) (List.find?_some h)
        have hba := le_of_find?_eq_some h ha htest
        rw [Std.le_antisymm hab hba]

variable [DecidableLT α] [DecidableEq α]

@[simp]
theorem mem_singleton (a b : α) :
  b ∈ singleton a ↔ b = a
  := by
  simp [singleton]

theorem mem_foldl_insert (l : List α) (s : OrderedSet α) (a : α) :
  a ∈ l.foldl (fun s a => s.insert a) s ↔ a ∈ s ∨ a ∈ l
  := by
  induction l generalizing s with
  | nil => simp
  | cons b bs ih =>
      rw [List.foldl_cons, ih, mem_insert, List.mem_cons]
      grind

@[simp]
theorem mem_ofList (l : List α) (a : α) :
  a ∈ ofList l ↔ a ∈ l
  := by
  simp [ofList, mem_foldl_insert]

@[simp]
theorem mem_union (s t : OrderedSet α) (a : α) :
  a ∈ s.union t ↔ a ∈ s ∨ a ∈ t
  := mem_foldl_insert t.elements s a

/-- The part of a set at one of its members. -/
theorem filter_eq_singleton {s : OrderedSet α} {a : α} (h : a ∈ s) :
  s.filter (· = a) = singleton a
  := by
  ext b
  simp only [mem_filter, decide_eq_true_eq, mem_singleton]
  constructor
  · rintro ⟨-, hb⟩
    apply hb
  · rintro rfl
    exact ⟨h, rfl⟩

/-! ### The place of an inserted element -/

/-- An element that a set lacks is inserted after the smaller and before the larger ones. -/
theorem insertInto_eq_append (a : α) {l : List α} (hl : l.Pairwise (· < ·)) (ha : a ∉ l) :
  ∃ front back, l = front ++ back ∧ insertInto a l = front ++ a :: back ∧
    (∀ b ∈ front, b < a) ∧ ∀ b ∈ back, a < b
  := by
  induction l with
  | nil => exact ⟨[], [], rfl, rfl, by simp, by simp⟩
  | cons b bs ih =>
      obtain ⟨hb, hbs⟩ := List.pairwise_cons.mp hl
      obtain ⟨hab, habs⟩ := not_or.mp (mt List.mem_cons.mpr ha)
      unfold insertInto
      split
      case isTrue hlt =>
        use [], b :: bs
        refine ⟨rfl, rfl, by simp, ?_⟩
        intro c hc
        cases hc with
        | head => apply hlt
        | tail _ hc => apply Std.lt_trans hlt (hb c hc)
      case isFalse hlt =>
        obtain ⟨front, back, rfl, hins, hfront, hback⟩ := ih hbs habs
        use b :: front, back
        rw [hins]
        refine ⟨rfl, rfl, ?_, hback⟩
        intro c hc
        cases hc with
        | head => apply Std.lt_of_le_of_ne (Std.not_lt.mp hlt) (Ne.symm hab)
        | tail _ hc => apply hfront c hc

end OrderedSet

end PlatformSignatures
