import PlatformSignatures.Content.Node
import PlatformSignatures.Proofs.OrderedSets

/-!
# Nodes of a tree

The nodes of a tree are listed in document order.  A tree is nested if every node in it is for
some of the platforms of the node around it.
-/

namespace PlatformSignatures

namespace Node

/-- The symbol that a node belongs to. -/
def owner : Node → Option SymbolId
  | group _ o _ _ _ => o
  | _ => none

mutual

/-- A tree with all nodes inside it, in document order. -/
def nodes : Node → List Node
  | text t styles platforms => [text t styles platforms]
  | link t target platforms => [link t target platforms]
  | group kind owner styles platforms cs =>
    group kind owner styles platforms cs :: nodesOfList cs

/-- The nodes of a list of trees. -/
def nodesOfList : List Node → List Node
  | [] => []
  | c :: cs => nodes c ++ nodesOfList cs

end

theorem nodes_eq (n : Node) :
  n.nodes = n :: nodesOfList n.children
  := by
  cases n <;> rfl

theorem mem_nodesOfList (n : Node) (l : List Node) :
  n ∈ nodesOfList l ↔ ∃ c ∈ l, n ∈ c.nodes
  := by
  induction l with
  | nil => simp [nodesOfList]
  | cons c cs ih => simp [nodesOfList, ih]

theorem mem_nodes (n root : Node) :
  n ∈ root.nodes ↔ n = root ∨ ∃ c ∈ root.children, n ∈ c.nodes
  := by
  rw [nodes_eq, List.mem_cons, mem_nodesOfList]

/-! ### Nested platforms -/

/-- A node is for a part of some platforms if it is for at least one of them and for no others. -/
def IsPartOf (n : Node) (platforms : PlatformSet) : Prop :=
  n.platforms.isEmpty = false ∧ ∀ p ∈ n.platforms, p ∈ platforms

/-- Every node inside another one is for a part of the platforms of that one. -/
def Nested (root : Node) : Prop :=
  ∀ outer ∈ root.nodes, ∀ inner ∈ outer.children, inner.IsPartOf outer.platforms

theorem nested_iff (root : Node) :
  root.Nested ↔ ∀ c ∈ root.children, c.IsPartOf root.platforms ∧ c.Nested
  := by
  constructor
  · intro h c hc
    constructor
    · apply h root ((mem_nodes root root).mpr (Or.inl rfl)) c hc
    · intro outer houter
      apply h outer
      apply (mem_nodes outer root).mpr (Or.inr ⟨c, hc, houter⟩)
  · intro h outer houter inner hinner
    obtain rfl | ⟨c, hc, hmem⟩ := (mem_nodes outer root).mp houter
    · apply (h inner hinner).1
    · apply (h c hc).2 outer hmem inner hinner

/-! ### Symbols and text of lists -/

theorem symbolsOfList_eq_flatMap (l : List Node) :
  symbolsOfList l = l.flatMap symbols
  := by
  induction l with
  | nil => rfl
  | cons c cs ih => rw [symbolsOfList, ih, List.flatMap_cons]

theorem nodesOfList_eq_flatMap (l : List Node) :
  nodesOfList l = l.flatMap nodes
  := by
  induction l with
  | nil => rfl
  | cons c cs ih => rw [nodesOfList, ih, List.flatMap_cons]

theorem plainTextOfList_eq_join (l : List Node) :
  plainTextOfList l = String.join (l.map plainText)
  := by
  induction l with
  | nil => rfl
  | cons c cs ih => rw [plainTextOfList, ih, List.map_cons, String.join_cons]

theorem linksOfList_eq_flatMap (l : List Node) :
  linksOfList l = l.flatMap links
  := by
  induction l with
  | nil => rfl
  | cons c cs ih => rw [linksOfList, ih, List.flatMap_cons]

theorem plainTextOfList_append (l m : List Node) :
  plainTextOfList (l ++ m) = plainTextOfList l ++ plainTextOfList m
  := by
  induction l with
  | nil => exact String.empty_append.symm
  | cons c cs ih => rw [List.cons_append, plainTextOfList, plainTextOfList, ih, String.append_assoc]

theorem nodesOfList_append (l m : List Node) :
  nodesOfList (l ++ m) = nodesOfList l ++ nodesOfList m
  := by
  rw [nodesOfList_eq_flatMap, nodesOfList_eq_flatMap, nodesOfList_eq_flatMap, List.flatMap_append]

theorem linksOfList_append (l m : List Node) :
  linksOfList (l ++ m) = linksOfList l ++ linksOfList m
  := by
  rw [linksOfList_eq_flatMap, linksOfList_eq_flatMap, linksOfList_eq_flatMap, List.flatMap_append]

/-- Texts have no other nodes inside. -/
theorem nodesOfList_texts {α : Type} (f : α → String) (styles : List TextStyle)
    (platforms : α → PlatformSet) (as : List α) :
  nodesOfList (as.map fun a => .text (f a) styles (platforms a))
    = as.map fun a => .text (f a) styles (platforms a)
  := by
  induction as with
  | nil => rfl
  | cons a as ih =>
      rw [List.map_cons, nodesOfList, ih]
      rfl

/-- A group has the text of what is in it. -/
theorem plainTextOfList_group (kind : Option ContentKind) (owner : Option SymbolId)
    (styles : List TextStyle) (platforms : PlatformSet) (children : List Node) :
  plainTextOfList [.group kind owner styles platforms children] = plainTextOfList children
  := String.append_empty

/-- A group has the links of what is in it. -/
theorem linksOfList_group (kind : Option ContentKind) (owner : Option SymbolId)
    (styles : List TextStyle) (platforms : PlatformSet) (children : List Node) :
  linksOfList [.group kind owner styles platforms children] = linksOfList children
  := List.append_nil _

end Node

end PlatformSignatures
