import PlatformSignatures.Proofs.Correspondence
import PlatformSignatures.Proofs.Reindexing

/-!
# Correspondences that follow a reindexing

What differs between platforms is always written in one way: an attribute is split into its groups,
and each group is written on its own platforms.  A correspondence that follows a reindexing relates
an attribute written so to the reindexed attribute, and it relates the nodes that hold several
signatures of one declaration.
-/

namespace PlatformSignatures

variable {ν μ α : Type}

/-! ### Attributes split into groups -/

namespace Emission

theorem concat_apply (es : List (Emission ν)) (scope : Scope ν) :
  concat es scope = es.flatMap fun e => e scope
  := by
  induction es with
  | nil => rfl
  | cons e es ih =>
      rw [List.flatMap_cons, ← ih]
      rfl

variable [DecidableEq α]

/-- An attribute written once for each distinct value, on the platforms that have it. -/
def split (values : PlatformMap α) (body : α → Emission ν) : Emission ν := fun scope =>
  concat ((groupWithin values scope.platforms).map fun g => onPlatforms g.2 (body g.1)) scope

/-- A token of an attribute; blank tokens are left out. -/
def token (t : String) : Emission ν :=
  if Text.isBlank t then nothing else text t

omit [DecidableEq α] in
/-- The tokens of an attribute are its distinct tokens that are not blank, on the platforms that
have them. -/
theorem perPlatform_apply (values : PlatformMap α) (f : α → String) (scope : Scope ν) :
  perPlatform values f scope
    = ((groupWithin (values.map f) scope.platforms).filter fun g => !Text.isBlank g.1).map fun g =>
        scope.factory.text g.1 [] g.2
  := by
  have htokens : (scope.platforms.elements.filterMap fun p =>
        (values.get? p).map fun a => (p, f a))
      = (values.map f).entries.filter fun e => e.1 ∈ scope.platforms := by
    rw [PlatformMap.filter_entries_eq]
    simp only [PlatformMap.get?_map, Option.map_map, Function.comp_def]
  unfold perPlatform
  simp only [htokens, groupWithin]

omit [DecidableEq α] in
theorem exists_of_mem_perPlatform {values : PlatformMap α} {f : α → String} {scope : Scope ν}
    {n : ν} (h : n ∈ perPlatform values f scope) :
  ∃ a platforms, n = scope.factory.text (f a) [] platforms
  := by
  rw [perPlatform_apply] at h
  obtain ⟨g, hg, rfl⟩ := List.mem_map.mp h
  obtain ⟨-, p, -, hp⟩ := (mem_groupWithin _ _ g).mp (List.mem_filter.mp hg).1
  rw [PlatformMap.get?_map] at hp
  obtain ⟨a, -, ha⟩ := Option.map_eq_some_iff.mp hp
  use a, g.2
  rw [ha]

omit [DecidableEq α] in
/-- The tokens of an attribute are the attribute of tokens, split into its groups. -/
theorem perPlatform_eq_split (values : PlatformMap α) (f : α → String) :
  (perPlatform values f : Emission ν) = split (values.map f) token
  := by
  funext scope
  rw [perPlatform_apply, split, concat_apply, List.flatMap_map]
  induction groupWithin (values.map f) scope.platforms with
  | nil => rfl
  | cons g gs ih =>
      rw [List.flatMap_cons, ← ih, List.filter_cons, onPlatforms, token]
      by_cases hblank : Text.isBlank g.1
      · simp [hblank, nothing]
      · have hne : g.1 ≠ "" := by
          rintro h
          exact hblank (h ▸ rfl)
        simp [hblank, text, styledText, hne]

theorem supertypes_eq_split (opening : String) (values : PlatformMap (List SymbolId)) :
  (Signature.supertypes opening values : Emission ν)
    = split values fun ids => enclosed opening "" ", " (ids.map linkTo)
  := rfl

end Emission

namespace Correspondence

/-! ### Signatures with related bodies -/

/-- Two nodes are signatures with related bodies. -/
def RelatesSymbols (R : Correspondence ν μ) (owner : SymbolId) (platforms platforms' : PlatformSet)
    (node : NodeFactory ν → ν) (node' : NodeFactory μ → μ) : Prop :=
  ∃ e f, node = Signature.symbol owner platforms e ∧ node' = Signature.symbol owner platforms' f ∧
    R.Relates e f

theorem Relates.symbol {R : Correspondence ν μ} {e : Emission ν} {f : Emission μ}
    (he : R.Relates e f) (owner : SymbolId) (platforms platforms' : PlatformSet) :
  R.RelatesSymbols owner platforms platforms' (Signature.symbol owner platforms e)
    (Signature.symbol owner platforms' f)
  := by
  use e, f

/-! ### Correspondences that follow a reindexing -/

/-- A correspondence follows a reindexing inside a node if related scopes have reindexed platforms,
and what is written on a part of the platforms is dropped if that part is reindexed to no platforms.
The part need not lie within the scope if the platforms of the scope are kept. -/
structure FollowsInside (R : Correspondence ν μ) (r : Reindexing) (admitted : Platform → Prop)
    (keeps : PlatformSet → Prop) : Prop where
  lawful : r.Lawful admitted
  admits {s t} : R.scopes s t → ∀ p ∈ s.platforms, admitted p
  owner {s t} : R.scopes s t → t.owner = s.owner
  platforms {s t} : R.scopes s t → t.platforms = r.sets s.platforms
  narrow {s t} (owner : SymbolId) (part : PlatformSet) : R.scopes s t →
    (∀ p ∈ part, admitted p) →
    R.scopes ⟨s.factory, owner, part⟩ ⟨t.factory, owner, r.sets part⟩
  part {s t l l'} (owner : SymbolId) (part : PlatformSet) : R.scopes s t →
    part.isEmpty = false → (keeps s.platforms ∨ ∀ p ∈ part, p ∈ s.platforms) →
    R.nodes ⟨s.factory, owner, part⟩ ⟨t.factory, owner, r.sets part⟩ l l' →
    R.nodes s t l (if (r.sets part).isEmpty then [] else l')

/-- A correspondence follows a reindexing if it does so inside a node, and nodes of their own hold
related nodes. -/
structure Follows (R : Correspondence ν μ) (r : Reindexing) (admitted : Platform → Prop)
    (keeps : PlatformSet → Prop) : Prop extends R.FollowsInside r admitted keeps where
  owned {s t l l'} (kind : ContentKind) (styles : List TextStyle) : R.scopes s t →
    R.nodes s t l l' →
    R.nodes s t [s.factory.owned s.owner kind styles s.platforms l]
      [t.factory.owned t.owner kind styles t.platforms l']

section

variable {R : Correspondence ν μ} {r : Reindexing} {admitted : Platform → Prop}
  {keeps : PlatformSet → Prop}

namespace FollowsInside

variable (h : R.FollowsInside r admitted keeps)
include h

/-- Items for the groups of an attribute are related to items for the reindexed groups. -/
theorem concat_groups {s : Scope ν} {t : Scope μ} (hs : R.scopes s t) (owner : SymbolId)
    {item : α × PlatformSet → Emission ν} {item' : α × PlatformSet → Emission μ}
    (gs : List (α × PlatformSet)) (hne : ∀ g ∈ gs, g.2.isEmpty = false)
    (hwithin : ∀ g ∈ gs, keeps s.platforms ∨ ∀ p ∈ g.2, p ∈ s.platforms)
    (hitem : ∀ g ∈ gs, R.nodes ⟨s.factory, owner, g.2⟩ ⟨t.factory, owner, r.sets g.2⟩
      (item g s) (item' (g.1, r.sets g.2) t)) :
  R.nodes s t (Emission.concat (gs.map item) s) (Emission.concat ((r.groups gs).map item') t)
  := by
  simp only [Emission.concat_apply]
  induction gs with
  | nil => apply R.nil hs
  | cons g gs ih =>
      have hrest := ih (fun k hk => hne k (List.mem_cons_of_mem g hk))
        (fun k hk => hwithin k (List.mem_cons_of_mem g hk))
        (fun k hk => hitem k (List.mem_cons_of_mem g hk))
      have hfirst := h.part owner g.2 hs (hne g List.mem_cons_self)
        (hwithin g List.mem_cons_self) (hitem g List.mem_cons_self)
      have hboth := R.append hfirst hrest
      rw [Reindexing.groups_cons]
      cases hempty : (r.sets g.2).isEmpty with
      | true => simpa [hempty] using hboth
      | false => simpa [hempty] using hboth

/-- An attribute split into groups is related to the reindexed attribute. -/
theorem split [DecidableEq α] (m : PlatformMap α) (hm : ∀ p ∈ m.keys, admitted p)
    {body : α → Emission ν} {body' : α → Emission μ} (hbody : ∀ a, R.Relates (body a) (body' a)) :
  R.Relates (.split m body) (.split (r.maps m) body')
  := by
  intro s t hs
  unfold Emission.split
  rw [h.platforms hs, h.lawful.groupWithin_maps m s.platforms hm (h.admits hs)]
  apply h.concat_groups hs s.owner
  · intro g hg
    apply isEmpty_of_mem_groupWithin hg
  · intro g hg
    apply Or.inr (subset_of_mem_groupWithin hg)
  · intro g hg
    have hscope := h.narrow s.owner g.2 hs fun p hp =>
      h.admits hs p (subset_of_mem_groupWithin hg p hp)
    rw [Emission.onPlatforms, Emission.onPlatforms, h.owner hs]
    apply hbody g.1 hscope

theorem perPlatform (m : PlatformMap α) (hm : ∀ p ∈ m.keys, admitted p)
    (token : α → String) :
  R.Relates (.perPlatform m token) (.perPlatform (r.maps m) token)
  := by
  rw [Emission.perPlatform_eq_split, Emission.perPlatform_eq_split, ← h.lawful.maps_map]
  apply h.split
  · simpa using hm
  · intro a
    unfold Emission.token
    split
    · exact .nothing
    · exact .text a

theorem supertypes (opening : String) (m : PlatformMap (List SymbolId))
    (hm : ∀ p ∈ m.keys, admitted p) :
  R.Relates (Signature.supertypes opening m) (Signature.supertypes opening (r.maps m))
  := by
  rw [Emission.supertypes_eq_split, Emission.supertypes_eq_split]
  apply h.split m hm
  intro ids
  exact .enclosed opening "" ", " (Relates.map Relates.linkTo ids)

theorem visibility (c : Conventions) (m : PlatformMap Visibility)
    (hm : ∀ p ∈ m.keys, admitted p) :
  R.Relates (Signature.visibility c m) (Signature.visibility c (r.maps m))
  := h.perPlatform m hm c.visibilityToken

theorem modality (c : Conventions) (m : PlatformMap Modality)
    (hm : ∀ p ∈ m.keys, admitted p) :
  R.Relates (Signature.modality c m) (Signature.modality c (r.maps m))
  := h.perPlatform m hm c.modalityToken

end FollowsInside

/-! ### Nodes of their own -/

namespace Follows

variable (h : R.Follows r admitted keeps)
include h

/-- The nodes that two emissions write into a node of its own are related. -/
theorem make {owner : SymbolId} {platforms platforms' : PlatformSet} {F : NodeFactory ν}
    {G : NodeFactory μ} (kind : ContentKind) (styles : List TextStyle) {e : Emission ν}
    {f : Emission μ} (hs : R.scopes ⟨F, owner, platforms⟩ ⟨G, owner, platforms'⟩)
    (he : R.Relates e f) :
  R.nodes ⟨F, owner, platforms⟩ ⟨G, owner, platforms'⟩
    [Emission.make owner kind styles platforms e F]
    [Emission.make owner kind styles platforms' f G]
  := h.owned kind styles hs (he hs)

/-- Signatures with related bodies are related. -/
theorem symbol {owner : SymbolId} {platforms platforms' : PlatformSet} {F : NodeFactory ν}
    {G : NodeFactory μ} {e : Emission ν} {f : Emission μ}
    (hs : R.scopes ⟨F, owner, platforms⟩ ⟨G, owner, platforms'⟩) (he : R.Relates e f) :
  R.nodes ⟨F, owner, platforms⟩ ⟨G, owner, platforms'⟩
    [Signature.symbol owner platforms e F] [Signature.symbol owner platforms' f G]
  := h.make .symbol [.monospace] hs (he.group [.block])

theorem symbols {owner : SymbolId} {platforms platforms' : PlatformSet} {F : NodeFactory ν}
    {G : NodeFactory μ} {node : NodeFactory ν → ν} {node' : NodeFactory μ → μ}
    (hs : R.scopes ⟨F, owner, platforms⟩ ⟨G, owner, platforms'⟩)
    (hnode : R.RelatesSymbols owner platforms platforms' node node') :
  R.nodes ⟨F, owner, platforms⟩ ⟨G, owner, platforms'⟩ [node F] [node' G]
  := by
  obtain ⟨e, f, rfl, rfl, he⟩ := hnode
  apply h.symbol hs he

/-- The lines for the groups of aliased types are related to those for the reindexed types. -/
theorem lines {s : Scope ν} {t : Scope μ} (hs : R.scopes s t) (id : SymbolId)
    (m : PlatformMap TypeExpr) (hm : ∀ p ∈ m.keys, admitted p)
    (hwithin : keeps s.platforms ∨ ∀ p ∈ m.keys, p ∈ s.platforms)
    {line : TypeExpr → Emission ν} {line' : TypeExpr → Emission μ}
    (hline : ∀ a, R.Relates (line a) (line' a)) :
  R.nodes s t
    (Emission.concat (m.groups.map fun g => .made (Signature.symbol id g.2 (line g.1))) s)
    (Emission.concat ((r.maps m).groups.map fun g =>
      .made (Signature.symbol id g.2 (line' g.1))) t)
  := by
  have hkeys : ∀ g ∈ m.groups, ∀ p ∈ g.2, p ∈ m.keys := by
    intro g hg
    rw [groups_eq_groupWithin] at hg
    apply subset_of_mem_groupWithin hg
  rw [h.lawful.groups_maps m hm]
  apply h.concat_groups hs id
  · intro g hg
    rw [groups_eq_groupWithin] at hg
    apply isEmpty_of_mem_groupWithin hg
  · intro g hg
    apply hwithin.imp_right
    intro hsub p hp
    apply hsub p (hkeys g hg p hp)
  · intro g hg
    apply h.symbol _ (hline g.1)
    apply h.narrow id g.2 hs
    intro p hp
    apply hm p (hkeys g hg p hp)

theorem typeAlias (t : TypeAlias) (hm : ∀ p ∈ t.underlying.keys, admitted p)
    (hkeeps : keeps t.platforms) {F : NodeFactory ν} {G : NodeFactory μ}
    (hs : R.scopes ⟨F, t.id, t.platforms⟩ ⟨G, t.id, r.sets t.platforms⟩)
    {line : TypeExpr → Emission ν} {line' : TypeExpr → Emission μ}
    (hline : ∀ a, R.Relates (line a) (line' a)) :
  R.nodes ⟨F, t.id, t.platforms⟩ ⟨G, t.id, r.sets t.platforms⟩
    [Signature.typeAlias t line F] [Signature.typeAlias (t.reindex r) line' G]
  := h.owned .main [] hs (h.lines hs t.id t.underlying hm (Or.inl hkeeps) hline)

/-- A node for a part of the platforms that is left out if the part is empty. -/
theorem unlessEmpty {s : Scope ν} {t : Scope μ} (hs : R.scopes s t) (owner : SymbolId)
    (part : PlatformSet) (hwithin : ∀ p ∈ part, p ∈ s.platforms) {node : NodeFactory ν → ν}
    {node' : NodeFactory μ → μ}
    (hnode : R.nodes ⟨s.factory, owner, part⟩ ⟨t.factory, owner, r.sets part⟩
      [node s.factory] [node' t.factory]) :
  R.nodes s t ((if part.isEmpty then .nothing else .made node : Emission ν) s)
    ((if (r.sets part).isEmpty then .nothing else .made node' : Emission μ) t)
  := by
  cases hempty : part.isEmpty with
  | true =>
      rw [h.lawful.isEmpty_sets part hempty]
      apply R.nil hs
  | false =>
      have hpart := h.part owner part hs hempty (Or.inr hwithin) hnode
      cases hsets : (r.sets part).isEmpty with
      | true =>
          rw [hsets] at hpart
          apply hpart
      | false =>
          rw [hsets] at hpart
          apply hpart

theorem aliasedClasslike (c : Classlike) (aliased : PlatformMap TypeExpr)
    (hc : ∀ p ∈ c.platforms, admitted p) (hm : ∀ p ∈ aliased.keys, admitted p)
    {F : NodeFactory ν} {G : NodeFactory μ}
    (hs : R.scopes ⟨F, c.id, c.platforms.union aliased.keys⟩
      ⟨G, c.id, r.sets (c.platforms.union aliased.keys)⟩)
    {header : PlatformSet → NodeFactory ν → ν} {header' : PlatformSet → NodeFactory μ → μ}
    (hheader : ∀ part, R.scopes ⟨F, c.id, part⟩ ⟨G, c.id, r.sets part⟩ →
      R.nodes ⟨F, c.id, part⟩ ⟨G, c.id, r.sets part⟩ [header part F] [header' (r.sets part) G])
    {line : TypeExpr → Emission ν} {line' : TypeExpr → Emission μ}
    (hline : ∀ a, R.Relates (line a) (line' a)) :
  R.nodes ⟨F, c.id, c.platforms.union aliased.keys⟩
    ⟨G, c.id, r.sets (c.platforms.union aliased.keys)⟩
    [Signature.aliasedClasslike c aliased header line F]
    [Signature.aliasedClasslike (c.reindex r) (r.maps aliased) header' line' G]
  := by
  have hall : (r.sets c.platforms).union (r.maps aliased).keys
      = r.sets (c.platforms.union aliased.keys) := by
    rw [h.lawful.sets_union, h.lawful.sets_keys]
  have hregular : ((r.sets c.platforms).filter fun p => !(r.maps aliased).contains p)
      = r.sets (c.platforms.filter fun p => !aliased.contains p) := by
    have hleft := h.lawful.sets_without c.platforms aliased.keys hc hm
    rw [h.lawful.sets_keys] at hleft
    simpa [← PlatformMap.contains_iff] using hleft.symm
  have hlines := h.lines hs c.id aliased hm (Or.inr fun p hp => by simp [hp]) hline
  have hfirst := h.unlessEmpty hs c.id (c.platforms.filter fun p => !aliased.contains p)
    (fun p hp => by simp [((OrderedSet.mem_filter _ _ _).mp hp).1])
    (hheader _ (h.narrow c.id _ hs fun p hp => hc p ((OrderedSet.mem_filter _ _ _).mp hp).1))
  have hwhole := h.owned .main [] hs (R.append hfirst hlines)
  unfold Signature.aliasedClasslike Signature.main Emission.make
  simp only [Classlike.reindex, hall, hregular]
  apply hwhole

end Follows

end

end Correspondence

end PlatformSignatures
