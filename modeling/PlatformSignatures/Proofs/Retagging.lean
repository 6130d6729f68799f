import PlatformSignatures.Proofs.Correspondence

/-!
# Trees with other platforms

Changing the platforms of every node of a tree, and nothing else.  What is written without looking
at platforms is changed into what is written in the scope with changed platforms.
-/

namespace PlatformSignatures

namespace Node

mutual

/-- A tree with the platforms of each node changed by a function. -/
def mapPlatforms (f : PlatformSet → PlatformSet) : Node → Node
  | text t styles platforms => text t styles (f platforms)
  | link t target platforms => link t target (f platforms)
  | group kind owner styles platforms cs =>
    group kind owner styles (f platforms) (mapPlatformsOfList f cs)

/-- A list of trees with the platforms of each node changed by a function. -/
def mapPlatformsOfList (f : PlatformSet → PlatformSet) : List Node → List Node
  | [] => []
  | c :: cs => mapPlatforms f c :: mapPlatformsOfList f cs

end

theorem mapPlatformsOfList_eq (f : PlatformSet → PlatformSet) (l : List Node) :
  mapPlatformsOfList f l = l.map (mapPlatforms f)
  := by
  induction l with
  | nil => rfl
  | cons c cs ih => rw [mapPlatformsOfList, ih, List.map_cons]

end Node

namespace Correspondence

/-- What is written is changed into what is written with changed platforms, for scopes that satisfy
a condition. -/
def retagging (f : PlatformSet → PlatformSet) (condition : Scope Node → Scope Node → Prop) :
    Correspondence Node Node where
  scopes s t := s.factory = Node.factory ∧ t.factory = Node.factory ∧
    t.platforms = f s.platforms ∧ condition s t
  nodes _ _ l l' := l.map (Node.mapPlatforms f) = l'
  nil _ := rfl
  append hl hk := by rw [List.map_append, hl, hk]
  text {s t} text styles h _ := by
    obtain ⟨hs, ht, hp, -⟩ := h
    rw [hs, ht, hp]
    rfl
  link {s t} text target h := by
    obtain ⟨hs, ht, hp, -⟩ := h
    rw [hs, ht, hp]
    rfl
  group {s t l l'} styles h hl := by
    obtain ⟨hs, ht, hp, -⟩ := h
    rw [hs, ht, hp, ← hl]
    simp [Node.factory, Node.mapPlatforms, Node.mapPlatformsOfList_eq]

end Correspondence

end PlatformSignatures
