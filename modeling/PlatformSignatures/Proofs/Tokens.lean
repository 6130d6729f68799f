import PlatformSignatures.Proofs.Following
import PlatformSignatures.Proofs.GroupOrder

/-!
# Tokens

The tokens of an attribute come from its groups on the platforms of the scope: groups whose values
have the same token are united, and blank tokens are left out.  So a platform of the scope has at
most one token, and it is that of its own value.
-/

namespace PlatformSignatures

variable {α β : Type} [DecidableEq α] [DecidableEq β]

/-! ### United groups -/

/-- Values may be made distinct before they are mapped. -/
theorem eraseDups_map_eraseDups (f : α → β) (l : List α) :
  (l.eraseDups.map f).eraseDups = (l.map f).eraseDups
  := by
  induction l using List.reverseRecOn with
  | nil => rfl
  | append_singleton l a ih =>
      rw [eraseDups_concat, List.map_append, List.map_singleton, eraseDups_concat, ← ih]
      split
      case isTrue h => rw [if_pos (List.mem_map_of_mem h)]
      case isFalse h =>
        rw [List.map_append, List.map_singleton, eraseDups_concat]
        simp only [List.mem_map, List.mem_eraseDups]

/-- The platforms of all groups of a list. -/
def platformsOfAll (groups : List (α × PlatformSet)) : PlatformSet :=
  groups.foldl (fun platforms g => platforms.union g.2) OrderedSet.empty

omit [DecidableEq α] in
theorem mem_foldl_union (groups : List (α × PlatformSet)) (platforms : PlatformSet)
    (p : Platform) :
  p ∈ groups.foldl (fun platforms g => platforms.union g.2) platforms
    ↔ p ∈ platforms ∨ ∃ g ∈ groups, p ∈ g.2
  := by
  induction groups generalizing platforms with
  | nil => simp
  | cons g gs ih => simp [ih, or_assoc]

omit [DecidableEq α] in
@[simp]
theorem mem_platformsOfAll (groups : List (α × PlatformSet)) (p : Platform) :
  p ∈ platformsOfAll groups ↔ ∃ g ∈ groups, p ∈ g.2
  := by
  simp [platformsOfAll, mem_foldl_union]

/-- Groups for the images of the values: those whose values have the same image are united, and the
images come in the order in which they first occur. -/
def unitedGroups (f : α → β) (groups : List (α × PlatformSet)) : List (β × PlatformSet) :=
  (groups.map fun g => f g.1).eraseDups.map fun b =>
    (b, platformsOfAll (groups.filter fun g => f g.1 = b))

/-- An attribute whose values are mapped has the united groups of the attribute. -/
theorem groupWithin_map (f : α → β) (m : PlatformMap α) (within : PlatformSet) :
  groupWithin (m.map f) within = unitedGroups f (groupWithin m within)
  := by
  have hvalues : (m.map f).valuesOn within = ((m.valuesOn within).map f).eraseDups := by
    rw [PlatformMap.valuesOn, PlatformMap.valuesOn, eraseDups_map_eraseDups, List.map_filterMap]
    simp only [PlatformMap.get?_map]
  have hsets : ∀ b, (m.map f).platformsOn within b
      = platformsOfAll ((groupWithin m within).filter fun g => f g.1 = b) := by
    intro b
    ext p
    rw [PlatformMap.mem_platformsOn, PlatformMap.get?_map, Option.map_eq_some_iff,
      mem_platformsOfAll]
    constructor
    · rintro ⟨hp, a, ha, rfl⟩
      use (a, m.platformsOn within a)
      rw [List.mem_filter, mem_groupWithin, PlatformMap.mem_platformsOn]
      exact ⟨⟨⟨rfl, p, hp, ha⟩, decide_eq_true rfl⟩, hp, ha⟩
    · rintro ⟨g, hg, hpg⟩
      obtain ⟨hmem, himage⟩ := List.mem_filter.mp hg
      rw [((mem_groupWithin m within g).mp hmem).1, PlatformMap.mem_platformsOn] at hpg
      exact ⟨hpg.1, g.1, hpg.2, of_decide_eq_true himage⟩
  rw [groupWithin_eq, unitedGroups, hvalues]
  simp only [hsets, groupWithin_eq m within, List.map_map, Function.comp_def]

/-- The groups on a set at one of its platforms: that of the value there, if there is one. -/
theorem filter_groupWithin (m : PlatformMap α) {within : PlatformSet} {p : Platform}
    (h : p ∈ within) :
  (groupWithin m within).filter (fun g => p ∈ g.2)
    = ((m.get? p).map fun a => (a, m.platformsOn within a)).toList
  := by
  have hgroups : (groupWithin m within).filter (fun g => p ∈ g.2)
      = ((m.valuesOn within).filter fun a => m.get? p = some a).map fun a =>
          (a, m.platformsOn within a) := by
    rw [groupWithin_eq, List.filter_map]
    simp only [Function.comp_def, PlatformMap.mem_platformsOn, h, true_and]
  rw [hgroups]
  cases hvalue : m.get? p with
  | none => simp
  | some a =>
      have hmem : a ∈ m.valuesOn within := (m.mem_valuesOn within a).mpr ⟨p, h, hvalue⟩
      have hfilter : (m.valuesOn within).filter (fun b => some a = some b) = [a] := by
        simp only [Option.some.injEq, eq_comm (a := a)]
        rw [List.filter_eq, (m.nodup_valuesOn within).count, if_pos hmem]
        rfl
      rw [hfilter]
      rfl

/-! ### Written tokens -/

namespace Emission

/-- The tokens of an attribute that are written: those of its groups on the platforms of the scope,
united if they are the same and left out if they are blank. -/
def tokenGroups (values : PlatformMap α) (token : α → String) (platforms : PlatformSet) :
    List (String × PlatformSet) :=
  (unitedGroups token (groupWithin values platforms)).filter fun g => !Text.isBlank g.1

/-- The groups of tokens at one platform of the scope: that of its own token, if it is to be
shown. -/
theorem filter_tokenGroups (values : PlatformMap α) (token : α → String) {platforms : PlatformSet}
    {p : Platform} (h : p ∈ platforms) :
  (tokenGroups values token platforms).filter (fun g => p ∈ g.2)
    = (((values.get? p).map token).map fun t =>
        (t, (values.map token).platformsOn platforms t)).toList.filter fun g => !Text.isBlank g.1
  := by
  rw [tokenGroups, ← groupWithin_map, List.filter_comm, filter_groupWithin _ h,
    PlatformMap.get?_map]

/-- What is written of an attribute are its united groups of tokens that are not blank, each as a
text without styles; the tokens are distinct.  A platform of the scope has a text of its own token
and no other one, if its token is not blank, and else it has none; and no text is for a platform
outside of the scope. -/
theorem perPlatform_groups_tokens (values : PlatformMap α) (token : α → String)
    (owner : SymbolId) (platforms : PlatformSet) :
  (∀ {ν : Type} (factory : NodeFactory ν),
      perPlatform values token ⟨factory, owner, platforms⟩
        = (tokenGroups values token platforms).map fun g => factory.text g.1 [] g.2) ∧
    ((tokenGroups values token platforms).map (·.1)).Nodup ∧
    (∀ p ∈ platforms, ∀ a, values.get? p = some a → Text.isBlank (token a) = false →
      ∃ shared, (perPlatform values token ⟨Node.factory, owner, platforms⟩).filter
          (fun n => p ∈ n.platforms) = [.text (token a) [] shared]) ∧
    (∀ p ∈ platforms, (∀ a, values.get? p = some a → Text.isBlank (token a)) →
      (perPlatform values token ⟨Node.factory, owner, platforms⟩).filter
          (fun n => p ∈ n.platforms) = []) ∧
    ∀ n ∈ perPlatform values token ⟨Node.factory, owner, platforms⟩, ∀ p ∈ n.platforms,
      p ∈ platforms
  := by
  have hwritten : ∀ {ν : Type} (factory : NodeFactory ν),
      perPlatform values token ⟨factory, owner, platforms⟩
        = (tokenGroups values token platforms).map fun g => factory.text g.1 [] g.2 := by
    intro ν factory
    rw [perPlatform_apply, tokenGroups, groupWithin_map]
  have hfilter : ∀ p, (perPlatform values token ⟨Node.factory, owner, platforms⟩).filter
        (fun n => p ∈ n.platforms)
      = ((tokenGroups values token platforms).filter fun g => p ∈ g.2).map fun g =>
          .text g.1 [] g.2 := by
    intro p
    rw [hwritten, List.filter_map]
    rfl
  refine ⟨hwritten, ?_, ?_, ?_, ?_⟩
  · rw [tokenGroups, ← groupWithin_map]
    have hgrouping := isGrouping_groupByValue
      ((values.map token).entries.filter fun e => e.1 ∈ platforms)
    apply List.Nodup.sublist _ hgrouping.distinct
    apply List.filter_sublist.map
  · intro p hp a hvalue hblank
    use (values.map token).platformsOn platforms (token a)
    rw [hfilter, filter_tokenGroups values token hp, hvalue]
    simp [hblank]
  · intro p hp hblank
    rw [hfilter, filter_tokenGroups values token hp]
    cases hvalue : values.get? p with
    | none => rfl
    | some a => simp [hblank a hvalue]
  · rw [hwritten, List.forall_mem_map]
    intro g hg p hp
    rw [tokenGroups, ← groupWithin_map] at hg
    apply subset_of_mem_groupWithin (List.mem_filter.mp hg).1 p hp

/-- Internal on two platforms and public on a third one, where Kotlin shows no visibility. -/
theorem perPlatform_groups_tokens_internal :
  let values := PlatformMap.ofList
    [("js", Visibility.internalAccess), ("jvm", .publicAccess), ("native", .internalAccess)]
  let platforms : PlatformSet := OrderedSet.ofList ["js", "jvm"]
  let nodes := perPlatform values Conventions.kotlin.visibilityToken
    ⟨Node.factory, SymbolId.ofClass "app" "Point", platforms⟩
  ("js" ∈ platforms ∧ values.get? "js" = some .internalAccess ∧
      Text.isBlank (Conventions.kotlin.visibilityToken .internalAccess) = false ∧
      ∃ shared, nodes.filter (fun n => "js" ∈ n.platforms) = [.text "internal " [] shared]) ∧
    "jvm" ∈ platforms ∧
      (∀ a, values.get? "jvm" = some a → Text.isBlank (Conventions.kotlin.visibilityToken a)) ∧
      nodes.filter (fun n => "jvm" ∈ n.platforms) = []
  := by
  intro values platforms nodes
  have hjs : values.get? "js" = some .internalAccess := by decide
  have hjvm : ∀ a, values.get? "jvm" = some a →
      Text.isBlank (Conventions.kotlin.visibilityToken a) := by
    intro a ha
    have hvalue : values.get? "jvm" = some .publicAccess := by decide
    obtain rfl := Option.some.inj (hvalue.symm.trans ha)
    decide
  obtain ⟨-, -, hshown, hblank, -⟩ := perPlatform_groups_tokens values
    Conventions.kotlin.visibilityToken (SymbolId.ofClass "app" "Point") platforms
  constructor
  · exact ⟨by decide, hjs, by decide, hshown "js" (by decide) _ hjs (by decide)⟩
  · exact ⟨by decide, hjvm, hblank "jvm" (by decide) hjvm⟩

end Emission

end PlatformSignatures
