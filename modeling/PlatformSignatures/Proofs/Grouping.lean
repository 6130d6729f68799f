import Mathlib.Data.List.Induction
import PlatformSignatures.Platform.Grouping
import PlatformSignatures.Proofs.PlatformMaps

/-!
# Groups in closed form

The groups of a list of entries are its distinct values in the order in which they first occur,
each with the platforms listed for it.  The groups of a map on a set of platforms are read off the
set: its platforms are passed through in order, and each new value opens a group with all the
platforms of the set that have it.
-/

namespace PlatformSignatures

variable {α : Type} [DecidableEq α]

/-! ### First occurrences -/

/-- The first occurrences of a list are distinct. -/
theorem nodup_eraseDups (l : List α) :
  l.eraseDups.Nodup
  := by
  match l with
  | [] => apply List.nodup_nil
  | a :: as =>
      rw [List.eraseDups_cons, List.nodup_cons]
      constructor
      · simp [List.mem_eraseDups]
      · apply nodup_eraseDups
termination_by l.length
decreasing_by exact Nat.lt_succ_of_le (List.length_filter_le _ as)

/-- A later occurrence of a value does not count. -/
theorem eraseDups_insert {l : List α} {a : α} (h : a ∈ l) (m : List α) :
  (l ++ a :: m).eraseDups = (l ++ m).eraseDups
  := by
  rw [List.eraseDups_append, List.eraseDups_append]
  congr 2
  simp [List.removeAll, h]

theorem eraseDups_concat (l : List α) (a : α) :
  (l ++ [a]).eraseDups = if a ∈ l then l.eraseDups else l.eraseDups ++ [a]
  := by
  split
  case isTrue h => rw [eraseDups_insert h, List.append_nil]
  case isFalse h => simp [List.eraseDups_append, List.removeAll, h, List.eraseDups_cons]

/-- The values that pass a test have their first occurrences in the same order. -/
theorem eraseDups_filter (test : α → Bool) (l : List α) :
  (l.filter test).eraseDups = l.eraseDups.filter test
  := by
  induction l using List.reverseRecOn with
  | nil => rfl
  | append_singleton l a ih =>
      rw [List.filter_append, eraseDups_concat]
      cases htest : test a with
      | true =>
          have hlast : [a].filter test = [a] := by simp [htest]
          have hmem : a ∈ l.filter test ↔ a ∈ l := by simp [htest]
          rw [hlast, eraseDups_concat, ih]
          simp only [hmem]
          split
          · rfl
          · rw [List.filter_append, hlast]
      | false =>
          have hlast : [a].filter test = [] := by simp [htest]
          rw [hlast, List.append_nil, ih]
          split
          · rfl
          · rw [List.filter_append, hlast, List.append_nil]

/-! ### Groups of a list of entries -/

/-- The platforms that are listed with a value. -/
def platformsOf (entries : List (Platform × α)) (a : α) : PlatformSet :=
  OrderedSet.ofList ((entries.filter fun e => e.2 = a).map (·.1))

@[simp]
theorem mem_platformsOf (entries : List (Platform × α)) (a : α) (p : Platform) :
  p ∈ platformsOf entries a ↔ (p, a) ∈ entries
  := by
  simp [platformsOf]

/-- A platform joins the group of its value if there is one, and else opens one. -/
theorem joinGroup_map (p : Platform) (a : α) (platforms : α → PlatformSet) {values : List α}
    (h : values.Nodup) :
  joinGroup p a (values.map fun v => (v, platforms v))
    = if a ∈ values then
        values.map fun v => (v, if v = a then (platforms v).insert p else platforms v)
      else values.map (fun v => (v, platforms v)) ++ [(a, OrderedSet.singleton p)]
  := by
  induction values with
  | nil => rfl
  | cons v vs ih =>
      obtain ⟨hv, hvs⟩ := List.nodup_cons.mp h
      rw [List.map_cons, joinGroup]
      split
      case isTrue heq =>
        subst heq
        have hrest : ∀ w ∈ vs, w ≠ v := fun w hw hwv => hv (hwv ▸ hw)
        simp only [List.mem_cons, true_or, if_true, List.map_cons]
        congr 1
        apply List.map_congr_left
        intro w hw
        rw [if_neg (hrest w hw)]
      case isFalse hne =>
        rw [ih hvs]
        have hav : a ∈ v :: vs ↔ a ∈ vs := by simp [Ne.symm hne]
        simp only [hav, List.map_cons, if_neg hne]
        split <;> rfl

/-- The groups of a list of entries are its distinct values with the platforms listed for them. -/
theorem groupByValue_eq (entries : List (Platform × α)) :
  groupByValue entries
    = (entries.map (·.2)).eraseDups.map fun a => (a, platformsOf entries a)
  := by
  induction entries using List.reverseRecOn with
  | nil => rfl
  | append_singleton es e ih =>
      obtain ⟨p, a⟩ := e
      have hstep : groupByValue (es ++ [(p, a)]) = joinGroup p a (groupByValue es) := by
        simp [groupByValue, List.foldl_append]
      have hother : ∀ v, v ≠ a → platformsOf (es ++ [(p, a)]) v = platformsOf es v := by
        intro v hv
        ext q
        simp [hv]
      have hsame : platformsOf (es ++ [(p, a)]) a = (platformsOf es a).insert p := by
        ext q
        simp [or_comm]
      rw [hstep, ih, joinGroup_map p a _ (nodup_eraseDups _), List.map_append, List.map_singleton,
        eraseDups_concat]
      simp only [List.mem_eraseDups]
      split
      case isTrue =>
        apply List.map_congr_left
        intro v _
        by_cases hv : v = a
        · rw [if_pos hv, hv, hsame]
        · rw [if_neg hv, hother v hv]
      case isFalse hnew =>
        rw [List.map_append, List.map_singleton, hsame]
        congr 1
        · apply List.map_congr_left
          intro v hv
          rw [hother v]
          rintro rfl
          apply hnew (List.mem_eraseDups.mp hv)
        · have hempty : platformsOf es a = OrderedSet.empty := by
            ext q
            simp only [mem_platformsOf, OrderedSet.notMem_empty, iff_false]
            intro hq
            apply hnew (List.mem_map_of_mem hq)
          rw [hempty, OrderedSet.singleton]

/-- Leaving out values leaves out their groups, and changes no other group. -/
theorem groupByValue_filter (test : α → Bool) (entries : List (Platform × α)) :
  groupByValue (entries.filter fun e => test e.2)
    = (groupByValue entries).filter fun g => test g.1
  := by
  have hvalues : (entries.filter fun e => test e.2).map (·.2)
      = (entries.map (·.2)).filter test := by
    rw [List.filter_map]
    rfl
  rw [groupByValue_eq, groupByValue_eq, hvalues, eraseDups_filter, List.filter_map]
  apply List.map_congr_left
  intro a ha
  have htest : test a = true := (List.mem_filter.mp ha).2
  congr 1
  ext p
  simp [htest]

/-! ### Groups of a map -/

namespace PlatformMap

/-- The distinct values that a map takes on a set, in the order of their first platforms. -/
def valuesOn (m : PlatformMap α) (within : PlatformSet) : List α :=
  (within.elements.filterMap m.get?).eraseDups

/-- The platforms of a set at which a map has a value. -/
def platformsOn (m : PlatformMap α) (within : PlatformSet) (a : α) : PlatformSet :=
  within.filter fun p => m.get? p = some a

omit [DecidableEq α] in
/-- The entries of a map at the platforms of a set, listed along the set. -/
theorem filter_entries_eq (m : PlatformMap α) (within : PlatformSet) :
  m.entries.filter (fun e => e.1 ∈ within)
    = within.elements.filterMap fun p => (m.get? p).map fun a => (p, a)
  := by
  have hleft := m.increasing.filter fun e => decide (e.1 ∈ within)
  have hright : (within.elements.filterMap fun p => (m.get? p).map fun a => (p, a)).Pairwise
      (fun x y => x.1 < y.1) := by
    apply within.increasing.filterMap
    intro p q hpq x hx y hy
    obtain ⟨a, -, rfl⟩ := Option.map_eq_some_iff.mp hx
    obtain ⟨b, -, rfl⟩ := Option.map_eq_some_iff.mp hy
    apply hpq
  have nodup : ∀ {l : List (Platform × α)}, l.Pairwise (fun x y => x.1 < y.1) → l.Nodup :=
    fun h => nodup_entries ⟨_, h⟩
  apply List.Perm.eq_of_pairwise _ hleft hright
  · apply (List.perm_ext_iff_of_nodup (nodup hleft) (nodup hright)).mpr
    rintro ⟨p, a⟩
    rw [List.mem_filter, ← get?_eq_some_iff, List.mem_filterMap]
    constructor
    · rintro ⟨hp, hmem⟩
      exact ⟨p, of_decide_eq_true hmem, by rw [hp]; rfl⟩
    · rintro ⟨q, hq, hqa⟩
      obtain ⟨b, hb, heq⟩ := Option.map_eq_some_iff.mp hqa
      obtain ⟨rfl, rfl⟩ := Prod.mk.inj heq
      exact ⟨hb, decide_eq_true hq⟩
  · intro x y _ _ hxy hyx
    exact absurd (Std.lt_trans hxy hyx) Std.lt_irrefl

@[simp]
theorem mem_platformsOn (m : PlatformMap α) (within : PlatformSet) (a : α) (p : Platform) :
  p ∈ m.platformsOn within a ↔ p ∈ within ∧ m.get? p = some a
  := by
  simp [platformsOn]

@[simp]
theorem mem_valuesOn (m : PlatformMap α) (within : PlatformSet) (a : α) :
  a ∈ m.valuesOn within ↔ ∃ p ∈ within, m.get? p = some a
  := by
  simp [valuesOn, List.mem_eraseDups, OrderedSet.mem_def]

theorem nodup_valuesOn (m : PlatformMap α) (within : PlatformSet) :
  (m.valuesOn within).Nodup
  := nodup_eraseDups _

end PlatformMap

/-- The groups of a map on a set are its values there with the platforms that have them. -/
theorem groupWithin_eq (m : PlatformMap α) (within : PlatformSet) :
  groupWithin m within = (m.valuesOn within).map fun a => (a, m.platformsOn within a)
  := by
  rw [groupWithin, groupByValue_eq, PlatformMap.filter_entries_eq, PlatformMap.valuesOn,
    List.map_filterMap]
  simp only [Option.map_map, Function.comp_def, Option.map_id_fun', id]
  apply List.map_congr_left
  intro a _
  congr 1
  ext p
  rw [mem_platformsOf, ← PlatformMap.filter_entries_eq, List.mem_filter,
    ← PlatformMap.get?_eq_some_iff, PlatformMap.mem_platformsOn]
  simp [and_comm]

/-- The groups of a map are its groups on all its platforms. -/
theorem groups_eq_groupWithin (m : PlatformMap α) :
  m.groups = groupWithin m m.keys
  := by
  rw [PlatformMap.groups, groupWithin, List.filter_eq_self.mpr]
  rintro ⟨p, a⟩ h
  rw [decide_eq_true_eq, PlatformMap.mem_keys]
  use a
  exact (m.get?_eq_some_iff p a).mpr h

/-- A group holds the platforms of the set that have its value, and there are some. -/
theorem mem_groupWithin (m : PlatformMap α) (within : PlatformSet) (g : α × PlatformSet) :
  g ∈ groupWithin m within
    ↔ g.2 = m.platformsOn within g.1 ∧ ∃ p ∈ within, m.get? p = some g.1
  := by
  rw [groupWithin_eq, List.mem_map]
  constructor
  · rintro ⟨a, ha, rfl⟩
    exact ⟨rfl, (m.mem_valuesOn within a).mp ha⟩
  · rintro ⟨hset, hval⟩
    exact ⟨g.1, (m.mem_valuesOn within g.1).mpr hval, Prod.ext rfl hset.symm⟩

/-- No group is without platforms. -/
theorem isEmpty_of_mem_groupWithin {m : PlatformMap α} {within : PlatformSet}
    {g : α × PlatformSet} (h : g ∈ groupWithin m within) :
  g.2.isEmpty = false
  := by
  obtain ⟨hset, p, hp, hval⟩ := (mem_groupWithin m within g).mp h
  apply (OrderedSet.isEmpty_eq_false_iff g.2).mpr
  use p
  rw [hset, PlatformMap.mem_platformsOn]
  exact ⟨hp, hval⟩

/-- The platforms of a group are platforms of the set. -/
theorem subset_of_mem_groupWithin {m : PlatformMap α} {within : PlatformSet}
    {g : α × PlatformSet} (h : g ∈ groupWithin m within) :
  ∀ p ∈ g.2, p ∈ within
  := by
  intro p hp
  rw [((mem_groupWithin m within g).mp h).1, PlatformMap.mem_platformsOn] at hp
  apply hp.1

/-- No platform is in two groups. -/
theorem pairwise_groupWithin (m : PlatformMap α) (within : PlatformSet) :
  (groupWithin m within).Pairwise fun g h => ∀ p ∈ g.2, p ∉ h.2
  := by
  rw [groupWithin_eq, List.pairwise_map]
  apply (m.nodup_valuesOn within).imp
  intro a b hab p hpa hpb
  rw [PlatformMap.mem_platformsOn] at hpa hpb
  have hsame := hpa.2.symm.trans hpb.2
  apply hab (Option.some.inj hsame)

/-- The platforms in the groups of a map are the platforms that have a value. -/
theorem exists_mem_groups_iff (m : PlatformMap α) (p : Platform) :
  (∃ g ∈ m.groups, p ∈ g.2) ↔ p ∈ m.keys
  := by
  rw [groups_eq_groupWithin]
  constructor
  · rintro ⟨g, hg, hp⟩
    apply subset_of_mem_groupWithin hg p hp
  · intro hp
    obtain ⟨a, ha⟩ := (m.mem_keys p).mp hp
    use (a, m.platformsOn m.keys a)
    rw [mem_groupWithin, PlatformMap.mem_platformsOn]
    exact ⟨⟨rfl, p, hp, ha⟩, hp, ha⟩

end PlatformSignatures
