import Mathlib.Data.List.Nodup
import PlatformSignatures.Proofs.Grouping

/-!
# The order of groups

The groups of a list of entries come in the order in which their values first occur.  The entries
of a map are ordered by their platforms, so its groups come in the order of their least platforms.
When only some platforms count, the groups are cut down to these.  A group that loses its least
platform may then have to move behind others.
-/

namespace PlatformSignatures

/-! ### Least members -/

namespace OrderedSet

section

variable {α : Type} [LT α]

/-- The least member of a set, if it has any. -/
def least? (s : OrderedSet α) : Option α :=
  s.elements.head?

variable [LE α] [Std.IsLinearOrder α] [Std.LawfulOrderLT α]

theorem least?_eq_some_iff (s : OrderedSet α) (a : α) :
  s.least? = some a ↔ a ∈ s ∧ ∀ b ∈ s, a ≤ b
  := by
  have hfind := find?_eq_some_iff s (fun _ => true) a
  have hhead : s.elements.find? (fun _ => true) = s.least? := by
    rw [least?]
    cases s.elements <;> rfl
  simpa only [hhead, true_and, forall_const] using hfind

omit [LE α] [Std.IsLinearOrder α] [Std.LawfulOrderLT α] in
/-- Every set with a member has a least one. -/
theorem exists_least {s : OrderedSet α} {b : α} (h : b ∈ s) :
  ∃ a, s.least? = some a
  := by
  apply Option.isSome_iff_exists.mp
  rw [least?, List.isSome_head?]
  simpa using List.ne_nil_of_mem h

end

/-- Each of two sets has a least member, and that of the first comes before that of the second. -/
def StartsBefore (s t : PlatformSet) : Prop :=
  ∃ p ∈ s.least?, ∃ q ∈ t.least?, p < q

theorem startsBefore_of_lt {s t : PlatformSet} {p q : Platform} (hp : p ∈ s) (hq : q ∈ t)
    (h : ∀ r ∈ t, p < r) :
  s.StartsBefore t
  := by
  obtain ⟨p', hp'⟩ := exists_least hp
  obtain ⟨q', hq'⟩ := exists_least hq
  use p', hp', q', hq'
  have hle : p' ≤ p := ((least?_eq_some_iff s p').mp hp').2 p hp
  have hlt : p < q' := h q' ((least?_eq_some_iff t q').mp hq').1
  exact Std.lt_of_le_of_lt hle hlt

end OrderedSet

variable {α : Type} [DecidableEq α]

/-! ### First occurrences -/

/-- The distinct values of a list come in the order in which they first occur. -/
theorem pairwise_eraseDups (l : List α) :
  l.eraseDups.Pairwise fun a b => l.idxOf a < l.idxOf b
  := by
  induction l using List.reverseRecOn with
  | nil => exact .nil
  | append_singleton l c ih =>
      have hsame : ∀ a ∈ l.eraseDups, (l ++ [c]).idxOf a = l.idxOf a := fun a ha =>
        List.idxOf_append_of_mem (List.mem_eraseDups.mp ha)
      have hold : l.eraseDups.Pairwise fun a b => (l ++ [c]).idxOf a < (l ++ [c]).idxOf b := by
        apply ih.imp_of_mem
        intro a b ha hb hab
        rwa [hsame a ha, hsame b hb]
      rw [eraseDups_concat]
      split
      case isTrue => apply hold
      case isFalse hc =>
        rw [List.pairwise_append]
        refine ⟨hold, List.pairwise_singleton _ c, ?_⟩
        intro a ha b hb
        obtain rfl := List.mem_singleton.mp hb
        rw [hsame a ha, List.idxOf_append_of_notMem hc]
        apply Nat.lt_add_right
        exact List.idxOf_lt_length_iff.mpr (List.mem_eraseDups.mp ha)

/-- A value that occurs before another one among increasing entries has a platform that comes
before all platforms of the other. -/
theorem exists_lt_of_idxOf_lt {entries : List (Platform × α)}
    (h : entries.Pairwise fun x y => x.1 < y.1) {a b : α}
    (hab : (entries.map (·.2)).idxOf a < (entries.map (·.2)).idxOf b) :
  ∃ p, (p, a) ∈ entries ∧ ∀ q, (q, b) ∈ entries → p < q
  := by
  induction entries with
  | nil => exact absurd hab (Nat.lt_irrefl 0)
  | cons e es ih =>
      obtain ⟨p, c⟩ := e
      obtain ⟨hp, hes⟩ := List.pairwise_cons.mp h
      rw [List.map_cons, List.idxOf_cons, List.idxOf_cons] at hab
      have hcb : c ≠ b := by
        rintro rfl
        simp at hab
      have htail : ∀ q, (q, b) ∈ (p, c) :: es → (q, b) ∈ es := by
        intro q hq
        obtain heq | hmem := List.mem_cons.mp hq
        · exact absurd (Prod.mk.inj heq).2.symm hcb
        · exact hmem
      by_cases hca : c = a
      · obtain rfl := hca
        use p, List.mem_cons_self
        intro q hq
        exact hp _ (htail q hq)
      · rw [beq_eq_false_iff_ne.mpr hca, beq_eq_false_iff_ne.mpr hcb] at hab
        obtain ⟨q, hq, hlt⟩ := ih hes (Nat.lt_of_succ_lt_succ hab)
        use q, List.mem_cons_of_mem _ hq
        intro r hr
        exact hlt r (htail r hr)

/-! ### Groups of entries -/

/-- Lists of groups that are made from entries: every value that occurs has one group, in the order
of first occurrences, and the group has the platforms that the value is listed for. -/
structure IsGrouping (entries : List (Platform × α)) (groups : List (α × PlatformSet)) : Prop where
  distinct : (groups.map (·.1)).Nodup
  order : groups.Pairwise fun g h =>
    (entries.map (·.2)).idxOf g.1 < (entries.map (·.2)).idxOf h.1
  mem_iff : ∀ p a, (∃ g ∈ groups, g.1 = a ∧ p ∈ g.2) ↔ (p, a) ∈ entries
  nonempty : ∀ g ∈ groups, g.2.isEmpty = false

theorem isGrouping_groupByValue (entries : List (Platform × α)) :
  IsGrouping entries (groupByValue entries)
  := by
  rw [groupByValue_eq]
  constructor
  case distinct =>
    rw [List.map_map]
    apply (nodup_eraseDups _).map
    exact fun _ _ h => h
  case order =>
    rw [List.pairwise_map]
    apply pairwise_eraseDups
  case mem_iff =>
    intro p a
    constructor
    · rintro ⟨g, hg, rfl, hp⟩
      obtain ⟨b, -, rfl⟩ := List.mem_map.mp hg
      exact (mem_platformsOf entries b p).mp hp
    · intro h
      use (a, platformsOf entries a)
      refine ⟨?_, rfl, (mem_platformsOf entries a p).mpr h⟩
      apply List.mem_map_of_mem
      exact List.mem_eraseDups.mpr (List.mem_map_of_mem h)
  case nonempty =>
    rw [List.forall_mem_map]
    intro a ha
    obtain ⟨⟨p, b⟩, hmem, rfl⟩ := List.mem_map.mp (List.mem_eraseDups.mp ha)
    apply (OrderedSet.isEmpty_eq_false_iff _).mpr
    use p
    rwa [mem_platformsOf]

namespace IsGrouping

variable {entries : List (Platform × α)} {groups groups' : List (α × PlatformSet)}

/-- The platforms in a group are those that its value is listed for. -/
theorem mem_of_mem (h : IsGrouping entries groups) {g : α × PlatformSet} (hg : g ∈ groups)
    (p : Platform) :
  p ∈ g.2 ↔ (p, g.1) ∈ entries
  := by
  constructor
  · intro hp
    exact (h.mem_iff p g.1).mp ⟨g, hg, rfl, hp⟩
  · intro hp
    obtain ⟨g', hg', hvalue, hp'⟩ := (h.mem_iff p g.1).mpr hp
    have hsame : g' = g := List.inj_on_of_nodup_map h.distinct hg' hg hvalue
    rwa [← hsame]

theorem subset (h : IsGrouping entries groups) (h' : IsGrouping entries groups')
    {g : α × PlatformSet} (hg : g ∈ groups) :
  g ∈ groups'
  := by
  obtain ⟨p, hp⟩ := (OrderedSet.isEmpty_eq_false_iff g.2).mp (h.nonempty g hg)
  obtain ⟨g', hg', hvalue, -⟩ := (h'.mem_iff p g.1).mpr ((h.mem_of_mem hg p).mp hp)
  have hset : g'.2 = g.2 := by
    ext q
    rw [h'.mem_of_mem hg', h.mem_of_mem hg, hvalue]
  rwa [Prod.ext hvalue.symm hset.symm]

/-- Only one list of groups is made from given entries. -/
theorem unique (h : IsGrouping entries groups) (h' : IsGrouping entries groups') :
  groups = groups'
  := by
  apply List.Perm.eq_of_pairwise _ h.order h'.order
  · apply (List.perm_ext_iff_of_nodup (h.distinct.of_map _) (h'.distinct.of_map _)).mpr
    intro g
    exact ⟨h.subset h', h'.subset h⟩
  · intro g k _ _ hgk hkg
    exact absurd (Nat.lt_trans hgk hkg) (Nat.lt_irrefl _)

end IsGrouping

/-! ### Groups of a map -/

/-- The groups of a map on a set come in the order of their least platforms. -/
theorem pairwise_startsBefore_groupWithin (m : PlatformMap α) (within : PlatformSet) :
  (groupWithin m within).Pairwise fun g h => g.2.StartsBefore h.2
  := by
  have hgrouping := isGrouping_groupByValue (m.entries.filter fun e => e.1 ∈ within)
  have hincreasing := m.increasing.filter fun e => decide (e.1 ∈ within)
  apply hgrouping.order.imp_of_mem
  intro g h hg hh hgh
  obtain ⟨p, hp, hlt⟩ := exists_lt_of_idxOf_lt hincreasing hgh
  obtain ⟨q, hq⟩ := (OrderedSet.isEmpty_eq_false_iff h.2).mp (hgrouping.nonempty h hh)
  apply OrderedSet.startsBefore_of_lt ((hgrouping.mem_of_mem hg p).mpr hp) hq
  intro r hr
  exact hlt r ((hgrouping.mem_of_mem hh r).mp hr)

/-- Groups with only those of their platforms that are in a set; groups that are left without
platforms are dropped. -/
def cutGroups (within : PlatformSet) (groups : List (α × PlatformSet)) : List (α × PlatformSet) :=
  (groups.map fun g => (g.1, g.2.filter (· ∈ within))).filter fun g => !g.2.isEmpty

theorem mem_cutGroups (m : PlatformMap α) (within : PlatformSet) (g : α × PlatformSet) :
  g ∈ cutGroups within m.groups ↔ g ∈ groupWithin m within
  := by
  have hcut : ∀ a, (m.platformsOn m.keys a).filter (· ∈ within) = m.platformsOn within a := by
    intro a
    ext p
    simp only [OrderedSet.mem_filter, PlatformMap.mem_platformsOn, decide_eq_true_eq]
    constructor
    · rintro ⟨⟨-, hvalue⟩, hp⟩
      exact ⟨hp, hvalue⟩
    · rintro ⟨hp, hvalue⟩
      exact ⟨⟨(m.mem_keys p).mpr ⟨a, hvalue⟩, hvalue⟩, hp⟩
  rw [cutGroups, List.mem_filter, List.mem_map, groups_eq_groupWithin]
  constructor
  · rintro ⟨⟨k, hk, rfl⟩, hnonempty⟩
    rw [((mem_groupWithin m m.keys k).mp hk).1, hcut] at hnonempty ⊢
    rw [mem_groupWithin]
    refine ⟨rfl, ?_⟩
    simpa [OrderedSet.isEmpty_eq_false_iff] using hnonempty
  · intro hg
    obtain ⟨hset, p, hp, hvalue⟩ := (mem_groupWithin m within g).mp hg
    constructor
    · use (g.1, m.platformsOn m.keys g.1)
      rw [mem_groupWithin, hcut, ← hset]
      exact ⟨⟨rfl, p, (m.mem_keys p).mpr ⟨g.1, hvalue⟩, hvalue⟩, rfl⟩
    · rw [isEmpty_of_mem_groupWithin hg]
      rfl

/-- The groups of a map on a set are those of the whole map, cut down to the set and put into the
order of their least platforms. -/
theorem perm_cutGroups (m : PlatformMap α) (within : PlatformSet) :
  (groupWithin m within).Perm (cutGroups within m.groups)
  := by
  have hwithin := (isGrouping_groupByValue (m.entries.filter fun e => e.1 ∈ within)).distinct
  have hwhole : ((m.groups.map fun g => (g.1, g.2.filter (· ∈ within))).map (·.1)).Nodup := by
    rw [List.map_map]
    apply (isGrouping_groupByValue m.entries).distinct
  have hcut : (cutGroups within m.groups).Nodup := (hwhole.of_map _).filter _
  apply (List.perm_ext_iff_of_nodup (hwithin.of_map _) hcut).mpr
  intro g
  exact (mem_cutGroups m within g).symm

/-- The first group is left with a later platform than the second one and moves behind it. -/
example :
  (groupWithin (PlatformMap.ofList [("js", 1), ("jvm", 2), ("native", 1)])
      (OrderedSet.ofList ["jvm", "native"])).map (fun g => (g.1, g.2.elements))
    = [(2, ["jvm"]), (1, ["native"])]
  := by decide

/-- Grouping by value: the groups of entries are the one list of groups that is made from them;
the groups of a map share out its platforms, in the order of their least ones; and the groups on a
set are those of the map cut down to the set, in the order of the least platforms that are left,
and are the groups of what the map is on the set. -/
theorem platforms_grouped_by_value (entries : List (Platform × α)) (m : PlatformMap α)
    (within : PlatformSet) :
  (∀ groups, IsGrouping entries groups ↔ groups = groupByValue entries) ∧
    ((∀ g ∈ m.groups, g.2.isEmpty = false) ∧
      (m.groups.Pairwise fun g h => ∀ p ∈ g.2, p ∉ h.2) ∧
      (∀ p, (∃ g ∈ m.groups, p ∈ g.2) ↔ p ∈ m.keys) ∧
      m.groups.Pairwise fun g h => g.2.StartsBefore h.2) ∧
    ((groupWithin m within).Perm (cutGroups within m.groups) ∧
      ((groupWithin m within).Pairwise fun g h => g.2.StartsBefore h.2) ∧
      groupWithin m within = (m.filter fun p _ => p ∈ within).groups)
  := by
  have hgrouping := isGrouping_groupByValue entries
  refine ⟨?_, ⟨?_, ?_, exists_mem_groups_iff m, ?_⟩, perm_cutGroups m within,
    pairwise_startsBefore_groupWithin m within, rfl⟩
  · intro groups
    constructor
    · intro h
      exact h.unique hgrouping
    · rintro rfl
      exact hgrouping
  · apply (isGrouping_groupByValue m.entries).nonempty
  · rw [groups_eq_groupWithin]
    apply pairwise_groupWithin
  · rw [groups_eq_groupWithin]
    apply pairwise_startsBefore_groupWithin

end PlatformSignatures
