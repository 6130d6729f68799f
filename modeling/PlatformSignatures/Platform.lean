import PlatformSignatures.OrderedSet

/-!
# Platforms

A platform is a compilation target, given by its name.  Names are ordered by code points, and
every set of platforms and every map from platforms is kept in that order.  A `PlatformMap α` is
an attribute whose value may differ between platforms.
-/

namespace PlatformSignatures

/-- A compilation target, identified with its name. -/
abbrev Platform := String

/-- A set of platforms in the order of their names. -/
abbrev PlatformSet := OrderedSet Platform

/-- A value for each of finitely many platforms, as entries in the order of the platforms. -/
structure PlatformMap (α : Type) where
  entries : List (Platform × α)
  increasing : entries.Pairwise (fun a b => a.1 < b.1)
  deriving DecidableEq

namespace PlatformMap

variable {α β : Type}

/-- The map without any entry. -/
def empty : PlatformMap α where
  entries := []
  increasing := List.Pairwise.nil

instance : Inhabited (PlatformMap α) := ⟨empty⟩

theorem ext_entries {m n : PlatformMap α} (h : m.entries = n.entries) :
  m = n
  := by
  cases m
  cases n
  simp_all

/-- The value at a platform, if there is one. -/
def get? (m : PlatformMap α) (p : Platform) : Option α :=
  m.entries.lookup p

/-- Whether a platform has a value. -/
def contains (m : PlatformMap α) (p : Platform) : Bool :=
  (m.get? p).isSome

/-- The entries whose platform and value satisfy a test. -/
def filter (test : Platform → α → Bool) (m : PlatformMap α) : PlatformMap α where
  entries := m.entries.filter fun e => test e.1 e.2
  increasing := m.increasing.filter _

/-- The platforms that have a value. -/
def keys (m : PlatformMap α) : PlatformSet where
  elements := m.entries.map (·.1)
  increasing := List.pairwise_map.mpr m.increasing

/-- The same platforms with values changed by a function. -/
def map (f : α → β) (m : PlatformMap α) : PlatformMap β where
  entries := m.entries.map fun e => (e.1, f e.2)
  increasing := List.pairwise_map.mpr m.increasing

/-! ### Insertion -/

/-- An entry put into its place among increasing entries; an entry of the same platform is
replaced. -/
def insertInto (p : Platform) (a : α) : List (Platform × α) → List (Platform × α)
  | [] => [(p, a)]
  | e :: es =>
    if p < e.1 then (p, a) :: e :: es
    else if p = e.1 then (p, a) :: es
    else e :: insertInto p a es

theorem fst_of_mem_insertInto {p : Platform} {a : α} {x : Platform × α} {l : List (Platform × α)}
  (h : x ∈ insertInto p a l) :
  x = (p, a) ∨ x ∈ l
  := by
  induction l with
  | nil => simp_all [insertInto]
  | cons e es ih =>
    unfold insertInto at h
    split at h
    · simpa using h
    · split at h
      · cases h with
        | head => exact Or.inl rfl
        | tail _ h => exact Or.inr (List.mem_cons_of_mem e h)
      · cases h with
        | head => exact Or.inr List.mem_cons_self
        | tail _ h =>
          cases ih h with
          | inl h => exact Or.inl h
          | inr h => exact Or.inr (List.mem_cons_of_mem e h)

theorem pairwise_insertInto (p : Platform) (a : α) {l : List (Platform × α)}
  (h : l.Pairwise (fun x y => x.1 < y.1)) :
  (insertInto p a l).Pairwise (fun x y => x.1 < y.1)
  := by
  induction l with
  | nil => simp [insertInto]
  | cons e es ih =>
    obtain ⟨he, hes⟩ := List.pairwise_cons.mp h
    unfold insertInto
    split
    · rename_i hpe
      apply List.Pairwise.cons _ h
      intro x hx
      cases hx with
      | head => exact hpe
      | tail _ hx => exact Std.lt_trans hpe (he x hx)
    · split
      · rename_i hpe
        apply List.Pairwise.cons _ hes
        intro x hx
        simpa [hpe] using he x hx
      · rename_i hpe hne
        apply List.Pairwise.cons _ (ih hes)
        intro x hx
        cases fst_of_mem_insertInto hx with
        | inl hxp =>
          rw [hxp]
          exact Std.lt_of_le_of_ne (Std.not_lt.mp hpe) (Ne.symm hne)
        | inr hx => exact he x hx

/-- A map with the value of one platform set. -/
def insert (p : Platform) (a : α) (m : PlatformMap α) : PlatformMap α where
  entries := insertInto p a m.entries
  increasing := pairwise_insertInto p a m.increasing

/-- The map of a list of entries; of two entries of one platform the later counts. -/
def ofList (l : List (Platform × α)) : PlatformMap α :=
  l.foldl (fun m e => m.insert e.1 e.2) empty

end PlatformMap

end PlatformSignatures
