import PlatformSignatures.Declaration
import PlatformSignatures.Proofs.Grouping

/-!
# Reindexing declarations

A reindexing changes the platforms of a declaration: the set on which it exists, and the platforms
of each attribute of its own.  Constructors, accessors and type parameters keep theirs.  It is
lawful if it commutes with what signatures do with platforms: taking the keys of an attribute,
leaving the keys of an attribute out of a set, adding them to a set, and grouping an attribute on
a set.
-/

namespace PlatformSignatures

/-- A change of the platforms of a declaration and of its attributes. -/
structure Reindexing where
  sets : PlatformSet → PlatformSet
  maps : {α : Type} → PlatformMap α → PlatformMap α

/-! ### Reindexed declarations -/

/-- Facets with the aliased types reindexed. -/
def Facets.reindex (r : Reindexing) (f : Facets) : Facets :=
  { f with actualAlias := f.actualAlias.map r.maps }

/-- A class-like declaration with its own platforms and attributes reindexed. -/
def Classlike.reindex (r : Reindexing) (c : Classlike) : Classlike := { c with
  platforms := r.sets c.platforms
  visibility := r.maps c.visibility
  modality := r.maps c.modality
  supertypes := r.maps c.supertypes
  facets := c.facets.reindex r }

/-- A function with its own platforms and attributes reindexed. -/
def Function.reindex (r : Reindexing) (f : Function) : Function := { f with
  platforms := r.sets f.platforms
  visibility := r.maps f.visibility
  modality := r.maps f.modality
  facets := f.facets.reindex r }

/-- A property with its own platforms and attributes reindexed. -/
def Property.reindex (r : Reindexing) (p : Property) : Property := { p with
  platforms := r.sets p.platforms
  visibility := r.maps p.visibility
  modality := r.maps p.modality
  facets := p.facets.reindex r }

/-- A type alias with its own platforms and attributes reindexed. -/
def TypeAlias.reindex (r : Reindexing) (t : TypeAlias) : TypeAlias := { t with
  platforms := r.sets t.platforms
  visibility := r.maps t.visibility
  underlying := r.maps t.underlying
  facets := t.facets.reindex r }

/-- A declaration with its own platforms and its own attributes reindexed. -/
def Declaration.reindex (r : Reindexing) : Declaration → Declaration
  | classlike c => classlike (c.reindex r)
  | function f => function (f.reindex r)
  | property p => property (p.reindex r)
  | typeAlias t => typeAlias (t.reindex r)
  | typeParameter t => typeParameter { t with
      platforms := r.sets t.platforms
      facets := t.facets.reindex r }
  | enumEntry e => enumEntry { e with
      platforms := r.sets e.platforms
      facets := e.facets.reindex r }

/-- The sets of platforms of the attributes among the facets. -/
def Facets.platformSets (f : Facets) : List PlatformSet :=
  f.actualAlias.toList.map (·.keys)

/-- The platforms of a declaration and those of each of its own attributes. -/
def Declaration.platformSets : Declaration → List PlatformSet
  | classlike c =>
    [c.platforms, c.visibility.keys, c.modality.keys, c.supertypes.keys] ++ c.facets.platformSets
  | function f => [f.platforms, f.visibility.keys, f.modality.keys] ++ f.facets.platformSets
  | property p => [p.platforms, p.visibility.keys, p.modality.keys] ++ p.facets.platformSets
  | typeAlias t => [t.platforms, t.visibility.keys, t.underlying.keys] ++ t.facets.platformSets
  | typeParameter t => t.platforms :: t.facets.platformSets
  | enumEntry e => e.platforms :: e.facets.platformSets

namespace Reindexing

/-- Groups with their platforms reindexed; those left without platforms are dropped. -/
def groups {α : Type} (r : Reindexing) (gs : List (α × PlatformSet)) : List (α × PlatformSet) :=
  (gs.map fun g => (g.1, r.sets g.2)).filter fun g => !g.2.isEmpty

theorem groups_cons {α : Type} (r : Reindexing) (g : α × PlatformSet)
    (gs : List (α × PlatformSet)) :
  r.groups (g :: gs)
    = if (r.sets g.2).isEmpty then r.groups gs else (g.1, r.sets g.2) :: r.groups gs
  := by
  rw [groups, List.map_cons, List.filter_cons]
  cases (r.sets g.2).isEmpty <;> rfl

/-- Groups are reindexed if the values that are left, and their platforms, are. -/
theorem groupWithin_eq_groups {α : Type} [DecidableEq α] (r : Reindexing)
    {m m' : PlatformMap α} {within within' : PlatformSet}
    (hvalues : m'.valuesOn within'
      = (m.valuesOn within).filter fun a => !(r.sets (m.platformsOn within a)).isEmpty)
    (hsets : ∀ a ∈ m'.valuesOn within',
      m'.platformsOn within' a = r.sets (m.platformsOn within a)) :
  groupWithin m' within' = r.groups (groupWithin m within)
  := by
  rw [groupWithin_eq, groupWithin_eq, groups, List.map_map, List.filter_map]
  have hkept : ((fun g : α × PlatformSet => !g.2.isEmpty) ∘
        (fun g => (g.1, r.sets g.2)) ∘ fun a => (a, m.platformsOn within a))
      = fun a => !(r.sets (m.platformsOn within a)).isEmpty := rfl
  rw [hkept, ← hvalues]
  apply List.map_congr_left
  intro a ha
  rw [hsets a ha]
  rfl

/-- A reindexing commutes with the operations on platforms, as long as every platform is
admitted. -/
structure Lawful (r : Reindexing) (admitted : Platform → Prop) : Prop where
  sets_keys {α : Type} (m : PlatformMap α) : r.sets m.keys = (r.maps m).keys
  maps_map {α β : Type} (f : α → β) (m : PlatformMap α) : r.maps (m.map f) = (r.maps m).map f
  isEmpty_sets (s : PlatformSet) : s.isEmpty → (r.sets s).isEmpty
  sets_union (s t : PlatformSet) : r.sets (s.union t) = (r.sets s).union (r.sets t)
  sets_without (s t : PlatformSet) (hs : ∀ p ∈ s, admitted p) (ht : ∀ p ∈ t, admitted p) :
    r.sets (s.filter fun p => p ∉ t) = (r.sets s).filter fun p => p ∉ r.sets t
  groupWithin_maps {α : Type} [DecidableEq α] (m : PlatformMap α) (within : PlatformSet)
    (hm : ∀ p ∈ m.keys, admitted p) (hw : ∀ p ∈ within, admitted p) :
    groupWithin (r.maps m) (r.sets within) = r.groups (groupWithin m within)

/-- The groups of a whole attribute are reindexed too. -/
theorem Lawful.groups_maps {r : Reindexing} {admitted : Platform → Prop} (h : r.Lawful admitted)
    {α : Type} [DecidableEq α] (m : PlatformMap α) (hm : ∀ p ∈ m.keys, admitted p) :
  (r.maps m).groups = r.groups m.groups
  := by
  rw [groups_eq_groupWithin, groups_eq_groupWithin, ← h.sets_keys]
  apply h.groupWithin_maps m m.keys hm hm

/-! ### Nothing changed -/

/-- The reindexing that changes no platforms. -/
def same : Reindexing where
  sets := id
  maps := id

theorem groups_same {α : Type} {gs : List (α × PlatformSet)}
    (h : ∀ g ∈ gs, g.2.isEmpty = false) :
  same.groups gs = gs
  := by
  have hmap : (gs.map fun g => (g.1, same.sets g.2)) = gs := List.map_id gs
  rw [groups, hmap, List.filter_eq_self]
  intro g hg
  rw [h g hg]
  rfl

theorem lawful_same :
  same.Lawful fun _ => True
  where
  sets_keys _ := rfl
  maps_map _ _ := rfl
  isEmpty_sets _ h := h
  sets_union _ _ := rfl
  sets_without _ _ _ _ := rfl
  groupWithin_maps m within _ _ := by
    symm
    apply groups_same
    intro g hg
    apply isEmpty_of_mem_groupWithin hg

end Reindexing

theorem Facets.reindex_same (f : Facets) :
  f.reindex .same = f
  := by
  have hmap : f.actualAlias.map Reindexing.same.maps = f.actualAlias :=
    congrFun Option.map_id f.actualAlias
  rw [reindex, hmap]

theorem Declaration.reindex_same (declaration : Declaration) :
  declaration.reindex .same = declaration
  := by
  cases declaration <;>
    simp only [reindex, Classlike.reindex, Function.reindex, Property.reindex, TypeAlias.reindex,
      Facets.reindex_same] <;>
    rfl

end PlatformSignatures
