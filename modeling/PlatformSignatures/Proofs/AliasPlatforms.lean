import PlatformSignatures.Proofs.Coverage
import PlatformSignatures.Proofs.Grouping
import PlatformSignatures.Proofs.Lines

/-!
# Platforms of type aliases

The lines of a type alias share out the platforms on which it has an aliased type.  The check of a
model makes sure that these include the platforms of the alias.  They may be more: such a line is
for platforms that the alias does not exist on.
-/

namespace PlatformSignatures

/-- Nodes share out a set of platforms if each is for some of them, and each of the platforms
belongs to exactly one node. -/
structure Node.ShareOut (nodes : List Node) (platforms : PlatformSet) : Prop where
  nonempty : ∀ n ∈ nodes, n.platforms.isEmpty = false
  disjoint : nodes.Pairwise fun n k => ∀ p ∈ n.platforms, p ∉ k.platforms
  covers : ∀ p, (∃ n ∈ nodes, p ∈ n.platforms) ↔ p ∈ platforms

/-- Nodes for the groups of an attribute share out the platforms on which it has a value. -/
theorem shareOut_groups {α : Type} [DecidableEq α] (m : PlatformMap α)
    (node : α × PlatformSet → Node) (hnode : ∀ g, (node g).platforms = g.2) :
  Node.ShareOut (m.groups.map node) m.keys
  where
  nonempty := by
    rw [List.forall_mem_map]
    intro g hg
    rw [hnode]
    rw [groups_eq_groupWithin] at hg
    apply isEmpty_of_mem_groupWithin hg
  disjoint := by
    rw [List.pairwise_map, groups_eq_groupWithin]
    apply (pairwise_groupWithin m m.keys).imp
    intro g h hdisjoint p hp
    rw [hnode] at hp ⊢
    apply hdisjoint p hp
  covers p := by
    rw [← exists_mem_groups_iff]
    simp only [List.mem_map, exists_exists_and_eq_and, hnode]

/-- The symbols of a type alias share out the platforms on which it has an aliased type. -/
theorem shareOut_typeAlias (d : Dialect) (c : Conventions) (t : TypeAlias) :
  Node.ShareOut (d.signature c (.typeAlias t) Node.factory).symbols t.underlying.keys
  := by
  rw [Node.symbols_typeAlias]
  apply shareOut_groups
  intro g
  rfl

/-- The symbols of a type alias that is begun with its aliased types share out its platforms. -/
theorem shareOut_new (d : Dialect) (c : Conventions) (id : SymbolId) (name : String)
    (underlying : PlatformMap TypeExpr) :
  Node.ShareOut (d.signature c (.typeAlias (.new id name underlying)) Node.factory).symbols
    (TypeAlias.new id name underlying).platforms
  := shareOut_typeAlias d c (.new id name underlying)

/-- The symbols of a type alias of a covered model share out its platforms, and stay on the
platforms of the node that contains them, exactly if it has aliased types on no other platforms.
In any case they share out the platforms on which it has an aliased type. -/
theorem typeAlias_stays_iff (d : Dialect) (c : Conventions) {m : Model} (hm : m.check = .ok ())
    {t : TypeAlias} (ht : .typeAlias t ∈ m.declarations) :
  Node.ShareOut (d.signature c (.typeAlias t) Node.factory).symbols t.underlying.keys ∧
    (Node.ShareOut (d.signature c (.typeAlias t) Node.factory).symbols t.platforms
      ↔ ∀ p ∈ t.underlying.keys, p ∈ t.platforms) ∧
    ((∀ n ∈ (d.signature c (.typeAlias t) Node.factory).symbols, ∀ p ∈ n.platforms,
        p ∈ (d.signature c (.typeAlias t) Node.factory).platforms)
      ↔ ∀ p ∈ t.underlying.keys, p ∈ t.platforms)
  := by
  have hshare := shareOut_typeAlias d c t
  have hroot : (d.signature c (.typeAlias t) Node.factory).platforms = t.platforms := by
    rw [Dialect.signature_typeAlias]
    rfl
  have hcovered := (m.check_eq_ok_iff.mp hm) (.typeAlias t) ht
  obtain ⟨-, -, hunderlying, -⟩ := (Coverage.typeAlias_eq_ok_iff t).mp hcovered
  constructor
  · apply hshare
  constructor
  · constructor
    · intro h p hp
      apply (h.covers p).mp
      apply (hshare.covers p).mpr hp
    · intro hkeys
      have hsame : t.platforms = t.underlying.keys := by
        ext p
        constructor
        · apply hunderlying
        · apply hkeys
      rw [hsame]
      apply hshare
  · rw [hroot]
    constructor
    · intro h p hp
      obtain ⟨n, hn, hpn⟩ := (hshare.covers p).mpr hp
      apply h n hn p hpn
    · intro hkeys n hn p hp
      apply hkeys
      apply (hshare.covers p).mp
      use n

/-- A type alias of one platform with aliased types on two. -/
def TypeAlias.overreaching : TypeAlias where
  id := SymbolId.ofClass "pkg" "Count"
  name := "Count"
  platforms := OrderedSet.ofList ["jvm"]
  visibility := PlatformMap.ofList [("jvm", .publicAccess)]
  type := .ofSymbol (SymbolId.ofClass "pkg" "Count")
  underlying := PlatformMap.ofList [
    ("js", .ofSymbol (SymbolId.ofClass "kotlin" "Int")),
    ("jvm", .ofSymbol (SymbolId.ofClass "kotlin" "Int"))]

theorem typeAlias_stays_iff_overreaching :
  (Model.mk [.typeAlias .overreaching]).check = .ok () ∧
    ((∀ n ∈ (Dialect.kotlin.signature .kotlin (.typeAlias .overreaching) Node.factory).symbols,
        ∀ p ∈ n.platforms,
          p ∈ (Dialect.kotlin.signature .kotlin (.typeAlias .overreaching)
            Node.factory).platforms)
      ↔ ∀ p ∈ TypeAlias.overreaching.underlying.keys, p ∈ TypeAlias.overreaching.platforms)
  := by
  have hcheck : (Model.mk [.typeAlias .overreaching]).check = .ok () := by rfl
  have hstays := typeAlias_stays_iff .kotlin .kotlin hcheck List.mem_cons_self
  exact ⟨hcheck, hstays.2.2⟩

/-- A covered type alias need not stay on its platforms. -/
theorem not_shareOut_overreaching :
  (Model.mk [.typeAlias .overreaching]).check = .ok () ∧
    ¬ Node.ShareOut
        (Dialect.kotlin.signature .kotlin (.typeAlias .overreaching) Node.factory).symbols
        TypeAlias.overreaching.platforms
  := by
  constructor
  · rfl
  · intro h
    have hkey : "js" ∈ TypeAlias.overreaching.underlying.keys := by decide
    have hplatform : "js" ∉ TypeAlias.overreaching.platforms := by decide
    apply hplatform
    apply (h.covers "js").mp
    apply ((shareOut_typeAlias _ _ _).covers "js").mpr hkey

end PlatformSignatures
