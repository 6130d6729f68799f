import Mathlib.Data.List.Nodup
import PlatformSignatures.Proofs.ReindexedSignatures

/-!
# Slicing signatures

The slice of a tree at a platform is what a reader of that platform sees: the nodes that are for
the platform, and nothing else.  The slice of a signature is the signature of the declaration
restricted to that platform.
-/

namespace PlatformSignatures

/-! ### Slices of trees -/

namespace Node

mutual

/-- The part of a tree at a platform: nodes for other platforms are deleted with all that is in
them, and the others are left for that platform alone. -/
def slice? (p : Platform) : Node → Option Node
  | text t styles platforms =>
    if p ∈ platforms then some (text t styles (OrderedSet.singleton p)) else none
  | link t target platforms =>
    if p ∈ platforms then some (link t target (OrderedSet.singleton p)) else none
  | group kind owner styles platforms cs =>
    if p ∈ platforms then
      some (group kind owner styles (OrderedSet.singleton p) (sliceList p cs))
    else none

/-- The parts of a list of trees at a platform. -/
def sliceList (p : Platform) : List Node → List Node
  | [] => []
  | c :: cs => (slice? p c).toList ++ sliceList p cs

end

theorem sliceList_append (p : Platform) (l k : List Node) :
  sliceList p (l ++ k) = sliceList p l ++ sliceList p k
  := by
  induction l with
  | nil => rfl
  | cons c cs ih => rw [List.cons_append, sliceList, ih, sliceList, List.append_assoc]

theorem sliceList_singleton (p : Platform) (n : Node) :
  sliceList p [n] = (slice? p n).toList
  := List.append_nil _

end Node

/-! ### Restriction to a platform -/

namespace Reindexing

/-- The restriction to one platform. -/
def only (p : Platform) : Reindexing where
  sets platforms := platforms.filter (· = p)
  maps m := m.filter fun q _ => q = p

variable (p : Platform)

@[simp]
theorem mem_sets_only (s : PlatformSet) (q : Platform) :
  q ∈ (only p).sets s ↔ q ∈ s ∧ q = p
  := by
  simp [only]

theorem sets_only_of_mem {s : PlatformSet} (h : p ∈ s) :
  (only p).sets s = OrderedSet.singleton p
  := OrderedSet.filter_eq_singleton h

@[simp]
theorem isEmpty_sets_only (s : PlatformSet) :
  ((only p).sets s).isEmpty = !decide (p ∈ s)
  := by
  rw [Bool.eq_iff_iff, OrderedSet.isEmpty_iff]
  simp only [mem_sets_only, Bool.not_eq_true', decide_eq_false_iff_not]
  constructor
  · intro h hp
    exact h p ⟨hp, rfl⟩
  · rintro h q ⟨hq, rfl⟩
    apply h hq

@[simp]
theorem get?_maps_only {α : Type} (m : PlatformMap α) (q : Platform) :
  ((only p).maps m).get? q = if q = p then m.get? q else none
  := by
  simp only [only, PlatformMap.get?_filter]
  cases m.get? q <;> by_cases h : q = p <;> simp [h]

/-- On a restricted set, a restricted attribute has the value at the one platform only. -/
theorem valuesOn_only {α : Type} [DecidableEq α] (m : PlatformMap α) (within : PlatformSet) :
  ((only p).maps m).valuesOn ((only p).sets within)
    = (m.valuesOn within).filter fun a => p ∈ m.platformsOn within a
  := by
  by_cases hp : p ∈ within
  · have helements : ((only p).sets within).elements = [p] := by
      rw [sets_only_of_mem p hp]
      rfl
    have hpred : (fun a => decide (p ∈ m.platformsOn within a))
        = fun a => decide (m.get? p = some a) := by
      funext a
      simp [hp]
    rw [PlatformMap.valuesOn, helements, hpred]
    cases ha : m.get? p with
    | none => simp [ha]
    | some a =>
        have hmem : a ∈ m.valuesOn within := (m.mem_valuesOn within a).mpr ⟨p, hp, ha⟩
        have hcount := List.count_eq_one_of_mem (m.nodup_valuesOn within) hmem
        have hfilter := List.filter_eq (l := m.valuesOn within) a
        rw [hcount] at hfilter
        simpa [ha, eq_comm, List.eraseDups_cons] using hfilter.symm
  · have helements : ((only p).sets within).elements = [] := by
      have hempty := isEmpty_sets_only p within
      simpa [OrderedSet.isEmpty, hp] using hempty
    simp [PlatformMap.valuesOn, helements, hp]

theorem lawful_only :
  (only p).Lawful fun _ => True
  where
  sets_keys m := by
    ext q
    simp only [mem_sets_only, PlatformMap.mem_keys, get?_maps_only]
    by_cases h : q = p <;> simp [h]
  maps_map f m := by
    ext1 q
    rw [get?_maps_only, PlatformMap.get?_map, PlatformMap.get?_map, get?_maps_only]
    by_cases h : q = p <;> simp [h]
  isEmpty_sets s h := by
    have hp := (OrderedSet.isEmpty_iff s).mp h p
    simp [hp]
  sets_union s t := by
    ext q
    simp [or_and_right]
  sets_without s t _ _ := by
    ext q
    simp only [mem_sets_only, OrderedSet.mem_filter, decide_eq_true_eq]
    grind
  groupWithin_maps m within _ _ := by
    apply groupWithin_eq_groups
    · rw [valuesOn_only]
      simp
    · intro a _
      ext q
      simp only [PlatformMap.mem_platformsOn, mem_sets_only, get?_maps_only]
      by_cases h : q = p <;> simp [h]

end Reindexing

/-! ### Slices of signatures -/

namespace Correspondence

/-- What is written on platforms with `p` is sliced to what is written for `p` alone, and what is
written on other platforms is sliced to nothing. -/
def slicing (p : Platform) : Correspondence Node Node where
  scopes s t := s.factory = Node.factory ∧ t.factory = Node.factory ∧ t.owner = s.owner ∧
    t.platforms = (Reindexing.only p).sets s.platforms
  nodes s _ l l' := Node.sliceList p l = if p ∈ s.platforms then l' else []
  nil _ := by simp [Node.sliceList]
  append {s t l l' k k'} hl hk := by
    rw [Node.sliceList_append, hl, hk]
    split <;> rfl
  text {s t} text styles h _ := by
    obtain ⟨hs, ht, -, hp⟩ := h
    by_cases hmem : p ∈ s.platforms
    · rw [Node.sliceList_singleton, if_pos hmem, hs, ht, hp, Reindexing.sets_only_of_mem p hmem]
      simp [Node.factory, Node.slice?, hmem]
    · simp [Node.sliceList_singleton, hs, Node.factory, Node.slice?, hmem]
  link {s t} text target h := by
    obtain ⟨hs, ht, -, hp⟩ := h
    by_cases hmem : p ∈ s.platforms
    · rw [Node.sliceList_singleton, if_pos hmem, hs, ht, hp, Reindexing.sets_only_of_mem p hmem]
      simp [Node.factory, Node.slice?, hmem]
    · simp [Node.sliceList_singleton, hs, Node.factory, Node.slice?, hmem]
  group {s t l l'} styles h hl := by
    obtain ⟨hs, ht, -, hp⟩ := h
    by_cases hmem : p ∈ s.platforms
    · rw [if_pos hmem] at hl
      rw [Node.sliceList_singleton, if_pos hmem, hs, ht, hp, Reindexing.sets_only_of_mem p hmem]
      simp [Node.factory, Node.slice?, hmem, hl]
    · simp [Node.sliceList_singleton, hs, Node.factory, Node.slice?, hmem]

theorem slicing_follows (p : Platform) :
  (slicing p).Follows (.only p) (fun _ => True) fun platforms => p ∈ platforms
  where
  lawful := Reindexing.lawful_only p
  admits _ _ _ := trivial
  owner h := h.2.2.1
  platforms h := h.2.2.2
  owned {s t l l'} kind styles h hl := by
    obtain ⟨hs, ht, ho, hp⟩ := h
    change Node.sliceList p l = if p ∈ s.platforms then l' else [] at hl
    change Node.sliceList p [_] = if p ∈ s.platforms then [_] else []
    by_cases hmem : p ∈ s.platforms
    · rw [if_pos hmem] at hl
      rw [Node.sliceList_singleton, if_pos hmem, hs, ht, hp, Reindexing.sets_only_of_mem p hmem]
      simp [Node.factory, Node.slice?, hmem, hl, ho]
    · simp [Node.sliceList_singleton, hs, Node.factory, Node.slice?, hmem]
  narrow owner part h _ := ⟨h.1, h.2.1, rfl, rfl⟩
  part {s t l l'} owner part h hne hwithin hnodes := by
    change Node.sliceList p l = if p ∈ part then l' else [] at hnodes
    change Node.sliceList p l = if p ∈ s.platforms then _ else []
    rw [hnodes, Reindexing.isEmpty_sets_only]
    by_cases hmem : p ∈ part
    · have hp : p ∈ s.platforms := hwithin.elim id fun hsub => hsub p hmem
      simp [hmem, hp]
    · simp [hmem]

end Correspondence

/-- The slice of a signature at a platform of its outermost node is the signature of the
declaration restricted to that platform. -/
theorem slice_signature (d : Dialect) (c : Conventions) (declaration : Declaration) (p : Platform)
    (hp : p ∈ (d.signature c declaration Node.factory).platforms) :
  (d.signature c declaration Node.factory).slice? p
    = some (d.signature c (declaration.reindex (.only p)) Node.factory)
  := by
  rw [platforms_signature] at hp
  have hrelated := (Correspondence.slicing_follows p).signature c d declaration
    (fun _ _ _ _ => trivial) hp ⟨rfl, rfl, rfl, rfl⟩
  change Node.sliceList p [_] = if p ∈ declaration.extent then _ else [] at hrelated
  rw [if_pos hp, Node.sliceList_singleton] at hrelated
  apply Option.toList_eq_singleton_iff.mp hrelated

/-- On the platform where a class is an alias, only its alias line is seen. -/
theorem slice_signature_partlyAliased :
  "jvm" ∈ (Dialect.kotlin.signature .kotlin (.classlike .partlyAliased) Node.factory).platforms ∧
    (Dialect.kotlin.signature .kotlin (.classlike .partlyAliased) Node.factory).slice? "jvm"
      = some (Dialect.kotlin.signature .kotlin
          (Declaration.reindex (.only "jvm") (.classlike .partlyAliased)) Node.factory)
  := by
  have hp : "jvm" ∈
      (Dialect.kotlin.signature .kotlin (.classlike .partlyAliased) Node.factory).platforms := by
    rw [platforms_signature]
    decide
  exact ⟨hp, slice_signature .kotlin .kotlin _ "jvm" hp⟩

end PlatformSignatures
