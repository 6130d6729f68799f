import PlatformSignatures.Model
import PlatformSignatures.Proofs.UntaggedLines

/-!
# Redundant forks

A signature forks redundantly if two of its symbols differ in nothing but their platforms.  This
happens exactly if two of the types that a declaration is an alias of are different but are
written alike, since the lines of an alias are grouped by the types and not by how these are
written.
-/

namespace PlatformSignatures

section

variable {gs : List (TypeExpr × PlatformSet)} {line : TypeExpr × PlatformSet → Node}
  {same : TypeExpr × PlatformSet → TypeExpr × PlatformSet → Prop}

/-- Lines are different apart from their platforms exactly if no two of them are the same. -/
theorem nodup_lines_iff (h : ∀ g k, (line g).untagged = (line k).untagged ↔ same g k) :
  ((gs.map line).map Node.untagged).Nodup ↔ gs.Pairwise fun g k => ¬ same g k
  := by
  rw [List.map_map, List.Nodup, List.pairwise_map]
  apply List.Pairwise.iff
  intro g k
  apply not_congr (h g k)

/-- A node before the lines that is different from all of them does not matter. -/
theorem nodup_cons_lines_iff {n : Node} (hn : ∀ g, n.untagged ≠ (line g).untagged) :
  ((n :: gs.map line).map Node.untagged).Nodup ↔ ((gs.map line).map Node.untagged).Nodup
  := by
  rw [List.map_cons, List.nodup_cons]
  apply and_iff_right
  rw [List.map_map, List.mem_map]
  rintro ⟨g, -, hg⟩
  apply hn g hg.symm

end

/-- The symbols of a signature are different apart from their platforms exactly if no two types
that the declaration is an alias of are written alike beside the same visibilities. -/
theorem nodup_symbols_iff (d : Dialect) (c : Conventions) (declaration : Declaration) :
  ((d.signature c declaration Node.factory).symbols.map Node.untagged).Nodup
    ↔ declaration.aliasTargets.groups.Pairwise fun g h =>
        ¬ (declaration.lineVisibilities c g.2 = declaration.lineVisibilities c h.2 ∧
          d.WritesAlike g.1 h.1)
  := by
  cases declaration with
  | typeAlias t =>
      rw [Node.symbols_typeAlias]
      apply nodup_lines_iff
      apply Dialect.untagged_aliasLine_eq_iff
  | classlike k =>
      cases halias : k.facets.actualAlias with
      | none =>
          have htargets : (Declaration.classlike k).aliasTargets = PlatformMap.empty := by
            simp [Declaration.aliasTargets, halias]
          rw [Dialect.signature_classlike d c halias, Node.symbols_classHeader, htargets]
          exact iff_of_true (List.pairwise_singleton _ _) .nil
      | some aliased =>
          have htargets : (Declaration.classlike k).aliasTargets = aliased := by
            simp [Declaration.aliasTargets, halias]
          have hlines :
              ((aliased.groups.map fun g =>
                  Signature.symbol k.id g.2 (d.classLine k g.1) Node.factory).map
                    Node.untagged).Nodup
                ↔ aliased.groups.Pairwise fun g h => ¬ d.WritesAlike g.1 h.1 :=
            nodup_lines_iff (d.untagged_classLine_eq_iff k)
          have hsame : ∀ g h : TypeExpr × PlatformSet,
              ((Declaration.classlike k).lineVisibilities c g.2
                  = (Declaration.classlike k).lineVisibilities c h.2 ∧ d.WritesAlike g.1 h.1)
                ↔ d.WritesAlike g.1 h.1 := by
            intro g h
            apply and_iff_right rfl
          simp only [hsame]
          rw [Node.symbols_aliasedClasslike d c halias, htargets, ← hlines]
          split
          · rfl
          · apply nodup_cons_lines_iff
            apply d.untagged_classHeader_ne c k
  | _ => cases d <;> exact iff_of_true (List.pairwise_singleton _ _) .nil

/-- A signature has no redundant fork exactly if no two types that the declaration is an alias of
are written alike beside the same visibilities, and types with proper names are written alike
exactly if they have the same normal form. -/
theorem no_redundant_fork_iff (d : Dialect) (c : Conventions) (declaration : Declaration) :
  (((d.signature c declaration Node.factory).symbols.map Node.untagged).Nodup
      ↔ declaration.aliasTargets.groups.Pairwise fun g h =>
          ¬ (declaration.lineVisibilities c g.2 = declaration.lineVisibilities c h.2 ∧
            d.WritesAlike g.1 h.1)) ∧
    ∀ a b : TypeExpr, a.Names d.IsName → b.Names d.IsName →
      (d.WritesAlike a b ↔ d.normalForm a = d.normalForm b)
  := by
  constructor
  · apply nodup_symbols_iff
  · intro a b ha hb
    rw [d.writesAlike_iff SymbolId.anonymous OrderedSet.empty]
    apply d.typeExpr_eq_iff _ _ ha hb

/-- A type alias for a type on one platform and for its nullable variant on another. -/
def TypeAlias.partlyNullable : TypeAlias where
  id := SymbolId.ofClass "pkg" "Label"
  name := "Label"
  platforms := OrderedSet.ofList ["js", "jvm"]
  visibility := PlatformMap.ofList [("js", .publicAccess), ("jvm", .publicAccess)]
  type := .ofSymbol (SymbolId.ofClass "pkg" "Label")
  underlying := PlatformMap.ofList [
    ("js", .ofSymbol (SymbolId.ofClass "kotlin" "String")),
    ("jvm", .nullable (.ofSymbol (SymbolId.ofClass "kotlin" "String")))]

theorem no_redundant_fork_iff_partlyNullable :
  (TypeExpr.Names Dialect.java.IsName (.ofSymbol (SymbolId.ofClass "kotlin" "String")) ∧
    TypeExpr.Names Dialect.java.IsName
      (.nullable (.ofSymbol (SymbolId.ofClass "kotlin" "String")))) ∧
    Dialect.java.WritesAlike (.ofSymbol (SymbolId.ofClass "kotlin" "String"))
      (.nullable (.ofSymbol (SymbolId.ofClass "kotlin" "String")))
  := by
  have hnames : TypeExpr.Names Dialect.java.IsName
      (.ofSymbol (SymbolId.ofClass "kotlin" "String")) := trivial
  have hnullable : TypeExpr.Names Dialect.java.IsName
      (.nullable (.ofSymbol (SymbolId.ofClass "kotlin" "String"))) := trivial
  have hforks := no_redundant_fork_iff .java .java (.typeAlias .partlyNullable)
  exact ⟨⟨hnames, hnullable⟩, (hforks.2 _ _ hnames hnullable).mpr rfl⟩

/-- A covered type alias can have a redundant fork. -/
theorem redundant_fork_partlyNullable :
  (Model.mk [.typeAlias .partlyNullable]).check = .ok () ∧
    ¬ ((Dialect.java.signature .java (.typeAlias .partlyNullable) Node.factory).symbols.map
        Node.untagged).Nodup
  := by
  constructor
  · rfl
  · rw [nodup_symbols_iff]
    intro h
    have hgroups : (Declaration.typeAlias .partlyNullable).aliasTargets.groups
        = [(.ofSymbol (SymbolId.ofClass "kotlin" "String"), OrderedSet.ofList ["js"]),
          (.nullable (.ofSymbol (SymbolId.ofClass "kotlin" "String")),
            OrderedSet.ofList ["jvm"])] := by decide
    rw [hgroups, List.pairwise_pair] at h
    apply h
    constructor
    · decide
    · intro owner platforms
      rfl

end PlatformSignatures
