import PlatformSignatures.Platform
import PlatformSignatures.Proofs.OrderedSets

/-!
# Attributes by their values

A platform map is determined by the value it has at each platform.  Every operation is described by
the value that its result has at an arbitrary platform, and the platforms of a map are those at
which it has a value.
-/

namespace PlatformSignatures

namespace PlatformMap

variable {α β : Type}

/-! ### Values and entries -/

theorem lookup_cons (p q : Platform) (b : α) (l : List (Platform × α)) :
  ((q, b) :: l).lookup p = if p = q then some b else l.lookup p
  := by
  rw [List.lookup_cons]
  by_cases h : p = q
  · simp [h]
  · rw [beq_eq_false_iff_ne.mpr h, if_neg h]

/-- Entries of distinct platforms have one value at each platform. -/
theorem lookup_eq_some_iff {l : List (Platform × α)} (h : (l.map (·.1)).Nodup) (p : Platform)
    (a : α) :
  l.lookup p = some a ↔ (p, a) ∈ l
  := by
  induction l with
  | nil => simp
  | cons e es ih =>
      obtain ⟨q, b⟩ := e
      obtain ⟨he, hes⟩ := List.nodup_cons.mp h
      rw [lookup_cons, List.mem_cons]
      by_cases hpq : p = q
      · subst hpq
        have hnot : (p, a) ∉ es := by
          intro hmem
          apply he (List.mem_map.mpr ⟨_, hmem, rfl⟩)
        simp [hnot, eq_comm]
      · simp [hpq, ih hes]

/-- The order of entries of distinct platforms makes no difference. -/
theorem lookup_eq_of_perm {l l' : List (Platform × α)} (h : (l.map (·.1)).Nodup)
    (hperm : l.Perm l') (p : Platform) :
  l.lookup p = l'.lookup p
  := by
  have h' : (l'.map (·.1)).Nodup := (hperm.map _).nodup_iff.mp h
  ext a
  rw [lookup_eq_some_iff h, lookup_eq_some_iff h', hperm.mem_iff]

/-- The platforms of the entries of a map are distinct. -/
theorem nodup_map_entries (m : PlatformMap α) :
  (m.entries.map (·.1)).Nodup
  := by
  apply (List.pairwise_map.mpr m.increasing).imp
  intro p q hpq h
  exact Std.lt_irrefl (h ▸ hpq)

theorem get?_eq_some_iff (m : PlatformMap α) (p : Platform) (a : α) :
  m.get? p = some a ↔ (p, a) ∈ m.entries
  := lookup_eq_some_iff m.nodup_map_entries p a

theorem mem_keys (m : PlatformMap α) (p : Platform) :
  p ∈ m.keys ↔ ∃ a, m.get? p = some a
  := by
  simp only [get?_eq_some_iff, keys, OrderedSet.mem_def, List.mem_map]
  constructor
  · rintro ⟨⟨q, a⟩, h, rfl⟩
    use a
  · rintro ⟨a, h⟩
    use (p, a)

@[simp]
theorem contains_iff (m : PlatformMap α) (p : Platform) :
  m.contains p ↔ p ∈ m.keys
  := by
  rw [contains, Option.isSome_iff_exists, mem_keys]

theorem get?_eq_none_iff (m : PlatformMap α) (p : Platform) :
  m.get? p = none ↔ p ∉ m.keys
  := by
  rw [mem_keys, Option.eq_none_iff_forall_ne_some, not_exists]

/-- The entries of a map are listed once. -/
theorem nodup_entries (m : PlatformMap α) :
  m.entries.Nodup
  := by
  apply (List.pairwise_map.mp m.nodup_map_entries).imp
  rintro x _ hne rfl
  contradiction

/-- A map is determined by its values. -/
@[ext]
theorem ext_get? {m n : PlatformMap α} (h : ∀ p, m.get? p = n.get? p) :
  m = n
  := by
  apply ext_entries
  apply List.Perm.eq_of_pairwise _ m.increasing n.increasing
  · apply (List.perm_ext_iff_of_nodup m.nodup_entries n.nodup_entries).mpr
    rintro ⟨p, a⟩
    rw [← get?_eq_some_iff, ← get?_eq_some_iff, h]
  · intro x y _ _ hxy hyx
    exact absurd (Std.lt_trans hxy hyx) Std.lt_irrefl

/-! ### The values of a map that is made from another -/

@[simp]
theorem get?_filter (test : Platform → α → Bool) (m : PlatformMap α) (p : Platform) :
  (m.filter test).get? p = (m.get? p).filter (test p)
  := by
  ext a
  simp [get?_eq_some_iff, filter, Option.filter_eq_some_iff]

@[simp]
theorem get?_map (f : α → β) (m : PlatformMap α) (p : Platform) :
  (m.map f).get? p = (m.get? p).map f
  := by
  ext b
  simp [get?_eq_some_iff, map]

theorem lookup_insertInto (q p : Platform) (b : α) (l : List (Platform × α)) :
  (insertInto q b l).lookup p = if p = q then some b else l.lookup p
  := by
  induction l with
  | nil => simp [insertInto, lookup_cons]
  | cons e es ih =>
      obtain ⟨r, c⟩ := e
      unfold insertInto
      split
      case isTrue => rw [lookup_cons]
      case isFalse =>
        split
        case isTrue heq =>
          obtain rfl : q = r := heq
          rw [lookup_cons, lookup_cons]
          grind
        case isFalse hne =>
          have hqr : q ≠ r := hne
          rw [lookup_cons, lookup_cons, ih]
          grind

theorem get?_insert (q p : Platform) (b : α) (m : PlatformMap α) :
  (m.insert q b).get? p = if p = q then some b else m.get? p
  := lookup_insertInto q p b m.entries

@[simp]
theorem keys_map (f : α → β) (m : PlatformMap α) :
  (m.map f).keys = m.keys
  := by
  ext p
  simp [mem_keys]

/-! ### Maps made from entries -/

theorem get?_foldl_insert {l : List (Platform × α)} (h : (l.map (·.1)).Nodup) (m : PlatformMap α)
    (p : Platform) :
  (l.foldl (fun m e => m.insert e.1 e.2) m).get? p = (l.lookup p).or (m.get? p)
  := by
  induction l generalizing m with
  | nil => rfl
  | cons e es ih =>
      obtain ⟨q, b⟩ := e
      obtain ⟨he, hes⟩ := List.nodup_cons.mp h
      rw [List.foldl_cons, ih hes, get?_insert, lookup_cons]
      by_cases hpq : p = q
      · subst hpq
        have hnone : es.lookup p = none := by
          rw [Option.eq_none_iff_forall_ne_some]
          intro a ha
          apply he (List.mem_map.mpr ⟨_, (lookup_eq_some_iff hes p a).mp ha, rfl⟩)
        rw [hnone, if_pos rfl, if_pos rfl]
        rfl
      · rw [if_neg hpq, if_neg hpq]

/-- A map has the values of the entries that it is made from. -/
theorem get?_ofList {l : List (Platform × α)} (h : (l.map (·.1)).Nodup) (p : Platform) :
  (ofList l).get? p = l.lookup p
  := by
  rw [ofList, get?_foldl_insert h]
  apply Option.or_none

/-- A map is made from its entries. -/
theorem ofList_entries (m : PlatformMap α) :
  ofList m.entries = m
  := by
  apply ext_get?
  apply get?_ofList m.nodup_map_entries

/-- The order of the entries that a map is made from makes no difference if their platforms are
distinct. -/
theorem ofList_eq_of_perm {l l' : List (Platform × α)} (h : (l.map (·.1)).Nodup)
    (hperm : l.Perm l') :
  ofList l = ofList l'
  := by
  ext p
  rw [get?_ofList h, get?_ofList ((hperm.map _).nodup_iff.mp h), lookup_eq_of_perm h hperm]

end PlatformMap

end PlatformSignatures
