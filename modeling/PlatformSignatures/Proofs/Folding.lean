import PlatformSignatures.Proofs.ReindexedSignatures

/-!
# Signatures through any factory

Whatever factory a signature is written through, the nodes are those of the content tree, made
again by that factory.  In fact every function on trees that takes the ways of making trees to those
of a factory takes the content tree of a signature to the signature written through the factory.
-/

namespace PlatformSignatures

variable {μ : Type}

namespace Node

/-! ### Functions that respect a factory -/

/-- A function on trees respects a factory if it takes the four ways of making a tree to the four
ways of making a node. -/
structure Respects (h : Node → μ) (G : NodeFactory μ) : Prop where
  text (t : String) (styles : List TextStyle) (platforms : PlatformSet) :
    h (.text t styles platforms) = G.text t styles platforms
  link (t : String) (target : SymbolId) (platforms : PlatformSet) :
    h (.link t target platforms) = G.link t target platforms
  group (styles : List TextStyle) (platforms : PlatformSet) (cs : List Node) :
    h (.group none none styles platforms cs) = G.group (cs.map h) styles platforms
  owned (owner : SymbolId) (kind : ContentKind) (styles : List TextStyle)
    (platforms : PlatformSet) (cs : List Node) :
    h (.group (some kind) (some owner) styles platforms cs)
      = G.owned owner kind styles platforms (cs.map h)

theorem foldList_eq_map (G : NodeFactory μ) (l : List Node) :
  foldList G l = l.map (fold G)
  := by
  induction l with
  | nil => rfl
  | cons c cs ih => rw [foldList, ih, List.map_cons]

/-- Making a tree again by a factory respects that factory. -/
theorem fold_respects (G : NodeFactory μ) :
  Respects (fold G) G
  where
  text _ _ _ := rfl
  link _ _ _ := rfl
  group _ _ _ := by
    rw [← foldList_eq_map]
    rfl
  owned _ _ _ _ _ := by
    rw [← foldList_eq_map]
    rfl

/-! ### Trees as strings -/

mutual

/-- The text of a tree in which every link is written in brackets. -/
def bracketedText : Node → String
  | text t _ _ => t
  | link t _ _ => "[" ++ t ++ "]"
  | group _ _ _ _ cs => bracketedTextOfList cs

/-- The text of a list of trees in which every link is written in brackets. -/
def bracketedTextOfList : List Node → String
  | [] => ""
  | c :: cs => bracketedText c ++ bracketedTextOfList cs

end

theorem bracketedTextOfList_eq_join (l : List Node) :
  bracketedTextOfList l = String.join (l.map bracketedText)
  := by
  induction l with
  | nil => rfl
  | cons c cs ih => rw [bracketedTextOfList, ih, List.map_cons, String.join_cons]

theorem bracketedText_respects :
  Respects bracketedText .strings
  where
  text _ _ _ := rfl
  link _ _ _ := rfl
  group _ _ cs := bracketedTextOfList_eq_join cs
  owned _ _ _ _ cs := bracketedTextOfList_eq_join cs

end Node

/-! ### Signatures -/

namespace Correspondence

variable {h : Node → μ} {G : NodeFactory μ}

/-- What is written through a factory is the image of the trees under a function that respects the
factory. -/
def image (hG : Node.Respects h G) : Correspondence Node μ where
  scopes s t := s.factory = Node.factory ∧ t.factory = G ∧ t.owner = s.owner ∧
    t.platforms = s.platforms
  nodes _ _ l l' := l.map h = l'
  nil _ := rfl
  append hl hk := by rw [List.map_append, hl, hk]
  text {s t} text styles hscopes _ := by
    obtain ⟨hs, ht, -, hp⟩ := hscopes
    rw [hs, ht, hp, ← hG.text]
    rfl
  link {s t} text target hscopes := by
    obtain ⟨hs, ht, -, hp⟩ := hscopes
    rw [hs, ht, hp, ← hG.link]
    rfl
  group {s t l l'} styles hscopes hl := by
    obtain ⟨hs, ht, -, hp⟩ := hscopes
    rw [hs, ht, hp, ← hl, ← hG.group]
    rfl

theorem image_follows (hG : Node.Respects h G) :
  (image hG).Follows .same (fun _ => True) fun _ => True
  where
  lawful := Reindexing.lawful_same
  admits _ _ _ := trivial
  owner hscopes := hscopes.2.2.1
  platforms hscopes := hscopes.2.2.2
  narrow owner part hscopes _ := ⟨hscopes.1, hscopes.2.1, rfl, rfl⟩
  part {s t l l'} owner part hscopes hne _ hnodes := by
    change l.map h = if part.isEmpty then [] else l'
    rw [hne]
    apply hnodes
  owned {s t l l'} kind styles hscopes hl := by
    obtain ⟨hs, ht, ho, hp⟩ := hscopes
    change l.map h = l' at hl
    rw [hs, ht, ho, hp, ← hl, ← hG.owned]
    rfl

end Correspondence

section

variable (d : Dialect) (c : Conventions) (declaration : Declaration)

/-- A function that respects a factory takes the content tree of a signature to the signature
written through that factory. -/
theorem Node.Respects.signature {h : Node → μ} {G : NodeFactory μ} (hG : Respects h G) :
  d.signature c declaration G = h (d.signature c declaration factory)
  := by
  have hall : ∀ platforms ∈ declaration.platformSets, ∀ p ∈ platforms, True :=
    fun _ _ _ _ => trivial
  have hrelated := (Correspondence.image_follows hG).signature c d declaration hall trivial
    ⟨rfl, rfl, rfl, rfl⟩
  rw [declaration.reindex_same] at hrelated
  exact (List.singleton_inj.mp hrelated).symm

/-- The signature written through a factory is the fold of the content tree; as a string it is the
text of the tree with brackets around links. -/
theorem signature_eq_fold :
  (∀ {ν : Type} (F : NodeFactory ν),
      d.signature c declaration F = (d.signature c declaration Node.factory).fold F) ∧
    d.signature c declaration .strings
      = (d.signature c declaration Node.factory).bracketedText
  := by
  constructor
  · intro ν F
    apply (Node.fold_respects F).signature
  · apply Node.bracketedText_respects.signature

end

end PlatformSignatures
