import PlatformSignatures.Proofs.ReindexedSignatures
import PlatformSignatures.Proofs.Retagging

/-!
# Platforms that agree

A signature forks only where its platforms disagree.  If a new platform `q` is put beside a smaller
platform `p` wherever `p` occurs in a declaration, with the values that `p` has, then it only joins
`p` on the nodes of the signature.
-/

namespace PlatformSignatures

namespace Reindexing

/-- The platform `q` put beside `p`, with the values of `p`. -/
def beside (p q : Platform) : Reindexing where
  sets platforms := if p ∈ platforms then platforms.insert q else platforms
  maps m :=
    match m.get? p with
    | some a => m.insert q a
    | none => m

variable (p q : Platform)

@[simp]
theorem mem_sets_beside (s : PlatformSet) (x : Platform) :
  x ∈ (beside p q).sets s ↔ x ∈ s ∨ (x = q ∧ p ∈ s)
  := by
  simp only [beside]
  split
  case isTrue h => simp [h, or_comm]
  case isFalse h => simp [h]

theorem get?_maps_beside {α : Type} (m : PlatformMap α) (x : Platform) :
  ((beside p q).maps m).get? x = if x = q then (m.get? p).or (m.get? q) else m.get? x
  := by
  simp only [beside]
  cases hp : m.get? p with
  | none => by_cases hx : x = q <;> simp [hx]
  | some a => simp [PlatformMap.get?_insert]

variable {p q}

/-- A platform at which an attribute has no value gets the value of the platform it is put
beside. -/
theorem get?_maps_beside_of_fresh {α : Type} {m : PlatformMap α} (hq : q ∉ m.keys) (x : Platform) :
  ((beside p q).maps m).get? x = if x = q then m.get? p else m.get? x
  := by
  rw [get?_maps_beside, (m.get?_eq_none_iff q).mpr hq, Option.or_none]

/-- A later platform with the values of an earlier one brings no new values. -/
theorem valuesOn_beside {α : Type} [DecidableEq α] (hpq : p < q) {m : PlatformMap α}
    {within : PlatformSet} (hm : q ∉ m.keys) (hw : q ∉ within) :
  ((beside p q).maps m).valuesOn ((beside p q).sets within) = m.valuesOn within
  := by
  have hother : ∀ l : List Platform, q ∉ l →
      l.filterMap ((beside p q).maps m).get? = l.filterMap m.get? := by
    intro l hl
    apply List.filterMap_congr
    intro x hx
    rw [get?_maps_beside_of_fresh hm, if_neg]
    rintro rfl
    apply hl hx
  unfold PlatformMap.valuesOn
  by_cases hp : p ∈ within
  · obtain ⟨front, back, hsplit, hinsert, hfront, hback⟩ :=
      OrderedSet.insertInto_eq_append q within.increasing hw
    have helements : ((beside p q).sets within).elements = front ++ q :: back := by
      simp only [beside, if_pos hp]
      apply hinsert
    have hqfront : q ∉ front := fun h => Std.lt_irrefl (hfront q h)
    have hqback : q ∉ back := fun h => Std.lt_irrefl (hback q h)
    have hpfront : p ∈ front := by
      have hmem : p ∈ front ++ back := hsplit ▸ hp
      apply (List.mem_append.mp hmem).resolve_right
      intro h
      apply Std.lt_irrefl (Std.lt_trans hpq (hback p h))
    rw [helements, hsplit, List.filterMap_append, List.filterMap_append, hother front hqfront,
      List.filterMap_cons, get?_maps_beside_of_fresh hm, if_pos rfl, hother back hqback]
    cases ha : m.get? p with
    | none => rfl
    | some a => exact eraseDups_insert (List.mem_filterMap.mpr ⟨p, hpfront, ha⟩) _
  · have hsets : (beside p q).sets within = within := by
      simp only [beside, if_neg hp]
    rw [hsets, hother within.elements hw]

theorem lawful_beside (hpq : p < q) :
  (beside p q).Lawful fun x => x ≠ q
  where
  sets_keys m := by
    ext x
    simp only [mem_sets_beside, PlatformMap.mem_keys, get?_maps_beside, ← Option.isSome_iff_exists]
    by_cases hx : x = q
    · simp [hx, or_comm]
    · simp [hx]
  maps_map f m := by
    ext1 x
    simp only [get?_maps_beside, PlatformMap.get?_map]
    split
    · rw [Option.map_or]
    · rfl
  isEmpty_sets s h := by
    have hempty := (OrderedSet.isEmpty_iff s).mp h
    apply (OrderedSet.isEmpty_iff _).mpr
    intro x
    simp [hempty]
  sets_union s t := by
    ext x
    simp only [mem_sets_beside, OrderedSet.mem_union]
    grind
  sets_without s t hs ht := by
    ext x
    simp only [mem_sets_beside, OrderedSet.mem_filter, decide_eq_true_eq]
    grind
  groupWithin_maps m within hm hw := by
    have hqm : q ∉ m.keys := fun h => hm q h rfl
    have hqw : q ∉ within := fun h => hw q h rfl
    apply groupWithin_eq_groups
    · rw [valuesOn_beside hpq hqm hqw, List.filter_eq_self.mpr]
      intro a ha
      obtain ⟨x, hx, hax⟩ := (m.mem_valuesOn within a).mp ha
      rw [Bool.not_eq_true', OrderedSet.isEmpty_eq_false_iff]
      use x
      simp [hx, hax]
    · intro a _
      ext x
      simp only [PlatformMap.mem_platformsOn, mem_sets_beside, get?_maps_beside_of_fresh hqm]
      grind

end Reindexing

/-- The platforms of a tree are changed where a new platform `q` is put beside `p`. -/
def Correspondence.spreading (p q : Platform) : Correspondence Node Node :=
  .retagging (Reindexing.beside p q).sets fun s t => t.owner = s.owner ∧ q ∉ s.platforms

theorem spreading_follows {p q : Platform} (hpq : p < q) :
  (Correspondence.spreading p q).Follows (.beside p q) (fun x => x ≠ q) fun _ => True
  where
  lawful := Reindexing.lawful_beside hpq
  admits h x hx := by
    obtain ⟨-, -, -, -, hq⟩ := h
    rintro rfl
    apply hq hx
  owner h := h.2.2.2.1
  platforms h := h.2.2.1
  owned {s t l l'} kind styles h hl := by
    obtain ⟨hs, ht, hp, ho, -⟩ := h
    change l.map (Node.mapPlatforms _) = l' at hl
    change [_].map (Node.mapPlatforms _) = _
    rw [hs, ht, ho, hp, ← hl]
    simp [Node.factory, Node.mapPlatforms, Node.mapPlatformsOfList_eq]
  narrow owner part h hpart := ⟨h.1, h.2.1, rfl, rfl, fun hq => hpart q hq rfl⟩
  part {s t l l'} owner part h hne _ hnodes := by
    obtain ⟨x, hx⟩ := (OrderedSet.isEmpty_eq_false_iff part).mp hne
    have hsets : ((Reindexing.beside p q).sets part).isEmpty = false := by
      apply (OrderedSet.isEmpty_eq_false_iff _).mpr
      use x
      simp [hx]
    rw [hsets]
    apply hnodes

/-- If a new platform is put beside a smaller one everywhere in a declaration, it joins that one on
the nodes of the signature, and nothing else changes. -/
theorem signature_beside (d : Dialect) (c : Conventions) (declaration : Declaration)
    {p q : Platform} (hpq : p < q) (hq : ∀ platforms ∈ declaration.platformSets, q ∉ platforms) :
  d.signature c (declaration.reindex (.beside p q)) Node.factory
    = (d.signature c declaration Node.factory).mapPlatforms fun platforms =>
        if p ∈ platforms then platforms.insert q else platforms
  := by
  have hextent : q ∉ declaration.extent := by
    intro h
    obtain ⟨platforms, hplatforms, hmem⟩ := declaration.mem_platformSets_of_mem_extent h
    apply hq platforms hplatforms hmem
  have hadmitted : ∀ platforms ∈ declaration.platformSets, ∀ x ∈ platforms, x ≠ q := by
    intro platforms hplatforms x hx hxq
    exact hq platforms hplatforms (hxq ▸ hx)
  have hscopes : (Correspondence.spreading p q).scopes
      ⟨Node.factory, declaration.id, declaration.extent⟩
      ⟨Node.factory, declaration.id, (Reindexing.beside p q).sets declaration.extent⟩ :=
    ⟨rfl, rfl, rfl, rfl, hextent⟩
  have hrelated := (spreading_follows hpq).signature c d declaration hadmitted trivial hscopes
  exact (List.singleton_inj.mp hrelated).symm

/-- A platform that agrees with the one on which a class is an alias joins its alias line. -/
theorem signature_beside_partlyAliased :
  ("jvm" : Platform) < "native" ∧
    (∀ platforms ∈ (Declaration.classlike Classlike.partlyAliased).platformSets,
      "native" ∉ platforms) ∧
    Dialect.kotlin.signature .kotlin
        (Declaration.reindex (.beside "jvm" "native") (.classlike .partlyAliased)) Node.factory
      = (Dialect.kotlin.signature .kotlin (.classlike .partlyAliased) Node.factory).mapPlatforms
          fun platforms => if "jvm" ∈ platforms then platforms.insert "native" else platforms
  := by
  have hless : ("jvm" : Platform) < "native" := by decide
  have hfresh : ∀ platforms ∈ (Declaration.classlike Classlike.partlyAliased).platformSets,
      "native" ∉ platforms := by
    decide
  exact ⟨hless, hfresh, signature_beside .kotlin .kotlin _ hless hfresh⟩

end PlatformSignatures
