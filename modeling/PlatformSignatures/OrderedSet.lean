/-!
# Ordered sets

A finite set over a linear order, held as the list of its elements in strictly increasing order.
Two sets with the same elements are therefore equal, and the list is the order in which the
elements are shown.
-/

namespace PlatformSignatures

/-- A finite set as the strictly increasing list of its elements. -/
structure OrderedSet (α : Type) [LT α] where
  elements : List α
  increasing : elements.Pairwise (· < ·)
  deriving DecidableEq

namespace OrderedSet

variable {α : Type} [LT α]

/-- The empty set. -/
def empty : OrderedSet α where
  elements := []
  increasing := List.Pairwise.nil

instance : Inhabited (OrderedSet α) := ⟨empty⟩

instance : Membership α (OrderedSet α) := ⟨fun s a => a ∈ s.elements⟩

theorem mem_def (a : α) (s : OrderedSet α) :
  a ∈ s ↔ a ∈ s.elements
  := Iff.rfl

theorem ext_elements {s t : OrderedSet α} (h : s.elements = t.elements) :
  s = t
  := by
  cases s
  cases t
  simp_all

/-- The elements of a set that satisfy a test. -/
def filter (p : α → Bool) (s : OrderedSet α) : OrderedSet α where
  elements := s.elements.filter p
  increasing := s.increasing.filter p

theorem mem_filter (p : α → Bool) (a : α) (s : OrderedSet α) :
  a ∈ s.filter p ↔ a ∈ s ∧ p a
  := List.mem_filter

/-- Whether a set has no element. -/
def isEmpty (s : OrderedSet α) : Bool :=
  s.elements.isEmpty

instance [DecidableEq α] (a : α) (s : OrderedSet α) : Decidable (a ∈ s) :=
  inferInstanceAs (Decidable (a ∈ s.elements))

/-! ### Insertion -/

variable [DecidableLT α] [DecidableEq α]

/-- An element put into its place in an increasing list, once. -/
def insertInto (a : α) : List α → List α
  | [] => [a]
  | b :: bs => if a < b then a :: b :: bs else if a = b then b :: bs else b :: insertInto a bs

theorem mem_insertInto (a x : α) (l : List α) :
  x ∈ insertInto a l ↔ x = a ∨ x ∈ l
  := by
  induction l with
  | nil => simp [insertInto]
  | cons b bs ih =>
    unfold insertInto
    split
    · simp
    · split
      · rename_i h
        simp [h]
      · simp [ih]
        grind

variable [LE α] [Std.IsLinearOrder α] [Std.LawfulOrderLT α]

theorem pairwise_insertInto (a : α) {l : List α} (h : l.Pairwise (· < ·)) :
  (insertInto a l).Pairwise (· < ·)
  := by
  induction l with
  | nil => simp [insertInto]
  | cons b bs ih =>
    obtain ⟨hb, hbs⟩ := List.pairwise_cons.mp h
    unfold insertInto
    split
    · rename_i hab
      apply List.Pairwise.cons _ h
      intro c hc
      cases hc with
      | head => exact hab
      | tail _ hc => exact Std.lt_trans hab (hb c hc)
    · split
      · exact h
      · rename_i hab hne
        apply List.Pairwise.cons _ (ih hbs)
        intro c hc
        cases (mem_insertInto a c bs).mp hc with
        | inl hca =>
          rw [hca]
          exact Std.lt_of_le_of_ne (Std.not_lt.mp hab) (Ne.symm hne)
        | inr hc => exact hb c hc

/-- A set with one more element. -/
def insert (a : α) (s : OrderedSet α) : OrderedSet α where
  elements := insertInto a s.elements
  increasing := pairwise_insertInto a s.increasing

theorem mem_insert (a b : α) (s : OrderedSet α) :
  b ∈ s.insert a ↔ b = a ∨ b ∈ s
  := mem_insertInto a b s.elements

/-- The set with one element. -/
def singleton (a : α) : OrderedSet α :=
  empty.insert a

/-- The set of the elements of a list. -/
def ofList (l : List α) : OrderedSet α :=
  l.foldl (fun s a => s.insert a) empty

/-- All elements of two sets. -/
def union (s t : OrderedSet α) : OrderedSet α :=
  t.elements.foldl (fun u a => u.insert a) s

end OrderedSet

end PlatformSignatures
