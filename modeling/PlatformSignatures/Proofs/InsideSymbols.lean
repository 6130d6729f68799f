import PlatformSignatures.Proofs.ReindexedSignatures
import PlatformSignatures.Proofs.Trees

/-!
# What stands inside a symbol

A signature is written with texts, links and groups, on narrower and narrower platforms.  Hence no
node inside it belongs to a declaration of its own, no text is empty, and platforms are nested.
-/

namespace PlatformSignatures

/-! ### Nodes inside a symbol -/

/-- What holds of a node that is written inside a symbol on some platforms. -/
structure Node.Inside (platforms : PlatformSet) (n : Node) : Prop where
  unowned : ∀ k ∈ n.nodes, k.kind = none ∧ k.owner = none
  text_ne : ∀ t styles shared, .text t styles shared ∈ n.nodes → t ≠ ""
  nested : platforms.isEmpty = false → n.IsPartOf platforms ∧ n.Nested

namespace Node.Inside

variable {platforms part : PlatformSet}

theorem text {t : String} (styles : List TextStyle) (h : t ≠ "") :
  Inside platforms (.text t styles platforms)
  where
  unowned k hk := by
    obtain rfl := List.mem_singleton.mp hk
    exact ⟨rfl, rfl⟩
  text_ne t' styles' shared hmem := by
    obtain ⟨rfl, -⟩ := Node.text.inj (List.mem_singleton.mp hmem)
    apply h
  nested hne := by
    refine ⟨⟨hne, fun p hp => hp⟩, ?_⟩
    apply (nested_iff _).mpr
    rintro c ⟨⟩

theorem link (t : String) (target : SymbolId) :
  Inside platforms (.link t target platforms)
  where
  unowned k hk := by
    obtain rfl := List.mem_singleton.mp hk
    exact ⟨rfl, rfl⟩
  text_ne t' styles' shared hmem := by
    cases List.mem_singleton.mp hmem
  nested hne := by
    refine ⟨⟨hne, fun p hp => hp⟩, ?_⟩
    apply (nested_iff _).mpr
    rintro c ⟨⟩

theorem group {cs : List Node} (styles : List TextStyle) (h : ∀ c ∈ cs, Inside platforms c) :
  Inside platforms (.group none none styles platforms cs)
  where
  unowned k hk := by
    obtain rfl | ⟨c, hc, hkc⟩ := (mem_nodes k _).mp hk
    · exact ⟨rfl, rfl⟩
    · apply (h c hc).unowned k hkc
  text_ne t styles' shared hmem := by
    obtain ⟨⟨⟩⟩ | ⟨c, hc, hkc⟩ := (mem_nodes _ _).mp hmem
    apply (h c hc).text_ne t styles' shared hkc
  nested hne := by
    refine ⟨⟨hne, fun p hp => hp⟩, ?_⟩
    apply (nested_iff _).mpr
    intro c hc
    apply (h c hc).nested hne

/-- What is written on a part of the platforms is also inside a symbol on all of them. -/
theorem mono {n : Node} (hne : part.isEmpty = false) (hpart : ∀ p ∈ part, p ∈ platforms)
    (h : Inside part n) :
  Inside platforms n
  where
  unowned := h.unowned
  text_ne := h.text_ne
  nested _ := by
    obtain ⟨⟨hsome, hsub⟩, hnested⟩ := h.nested hne
    exact ⟨⟨hsome, fun p hp => hpart p (hsub p hp)⟩, hnested⟩

end Node.Inside

namespace Correspondence

/-- The nodes written in a scope are as they have to be inside a symbol. -/
def inside : Correspondence Node Node where
  scopes s t := s.factory = Node.factory ∧ t = s
  nodes s _ l _ := ∀ n ∈ l, n.Inside s.platforms
  nil _ := by
    rintro n ⟨⟩
  append hl hk n hn := (List.mem_append.mp hn).elim (hl n) (hk n)
  text {s t} text styles h hne := by
    rw [h.1, List.forall_mem_singleton]
    apply Node.Inside.text styles hne
  link {s t} text target h := by
    rw [h.1, List.forall_mem_singleton]
    apply Node.Inside.link
  group {s t l l'} styles h hl := by
    rw [h.1, List.forall_mem_singleton]
    apply Node.Inside.group styles hl

theorem inside_follows :
  inside.FollowsInside .same (fun _ => True) fun _ => False
  where
  lawful := Reindexing.lawful_same
  admits _ _ _ := trivial
  owner h := by rw [h.2]
  platforms h := by
    rw [h.2]
    rfl
  narrow owner part h _ := by
    rw [h.2]
    exact ⟨h.1, rfl⟩
  part {s t l l'} owner part h hne hwithin hnodes n hn := by
    apply Node.Inside.mono hne
    · exact hwithin.resolve_left id
    · exact hnodes n hn

/-- A signature with a related body is one block of nodes that are as they have to be inside it. -/
theorem exists_block {owner : SymbolId} {platforms platforms' : PlatformSet}
    {node node' : NodeFactory Node → Node}
    (h : inside.RelatesSymbols owner platforms platforms' node node') :
  ∃ cs, node Node.factory
      = .group (some .symbol) (some owner) [.monospace] platforms
          [.group none none [.block] platforms cs] ∧
    ∀ n ∈ cs, n.Inside platforms
  := by
  obtain ⟨e, f, rfl, -, he⟩ := h
  use e ⟨Node.factory, owner, platforms⟩
  constructor
  · rfl
  · exact he (s := ⟨Node.factory, owner, platforms⟩) ⟨rfl, rfl⟩

end Correspondence

end PlatformSignatures
