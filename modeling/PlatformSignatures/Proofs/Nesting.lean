import PlatformSignatures.Proofs.Skeleton

/-!
# Nested platforms of signatures

In the signature of a declaration that exists somewhere, every node inside a symbol is for a part
of the platforms of the node around it, and no text is empty.  The symbols themselves are nested in
the outermost node in the same way, except those of a type alias.
-/

namespace PlatformSignatures

/-! ### Platforms of the symbols -/

theorem isEmpty_of_mem_parts {α : Type} [DecidableEq α] {m : PlatformMap α} {s : PlatformSet}
    (h : s ∈ m.parts) :
  s.isEmpty = false
  := by
  rw [parts_eq_map_groups, groups_eq_groupWithin] at h
  obtain ⟨g, hg, rfl⟩ := List.mem_map.mp h
  apply isEmpty_of_mem_groupWithin hg

theorem subset_of_mem_parts {α : Type} [DecidableEq α] {m : PlatformMap α} {s : PlatformSet}
    (h : s ∈ m.parts) :
  ∀ p ∈ s, p ∈ m.keys
  := by
  rw [parts_eq_map_groups, groups_eq_groupWithin] at h
  obtain ⟨g, hg, rfl⟩ := List.mem_map.mp h
  apply subset_of_mem_groupWithin hg

namespace Declaration

variable {declaration : Declaration} {s : PlatformSet}

/-- No symbol of a declaration that exists somewhere is without platforms. -/
theorem isEmpty_of_mem_symbolPlatforms (hd : declaration.platforms.isEmpty = false)
    (h : s ∈ declaration.symbolPlatforms) :
  s.isEmpty = false
  := by
  cases declaration with
  | typeAlias t => exact isEmpty_of_mem_parts (m := t.underlying) h
  | classlike k =>
      cases halias : k.facets.actualAlias with
      | none =>
          simp only [symbolPlatforms, halias, List.mem_singleton] at h
          rw [h]
          apply hd
      | some aliased =>
          simp only [symbolPlatforms, halias] at h
          cases List.mem_append.mp h with
          | inl hregular => simpa using (List.mem_filter.mp hregular).2
          | inr hpart => apply isEmpty_of_mem_parts hpart
  | _ d =>
      rw [List.mem_singleton.mp h]
      apply hd

/-- The symbols of a declaration that is no type alias are on platforms where it is shown. -/
theorem subset_of_mem_symbolPlatforms (htype : ∀ t, declaration ≠ .typeAlias t)
    (h : s ∈ declaration.symbolPlatforms) :
  ∀ p ∈ s, p ∈ declaration.extent
  := by
  cases declaration with
  | typeAlias t => exact absurd rfl (htype t)
  | classlike k =>
      cases halias : k.facets.actualAlias with
      | none =>
          simp only [symbolPlatforms, extent, halias, List.mem_singleton] at h ⊢
          rw [h]
          exact fun p hp => hp
      | some aliased =>
          simp only [symbolPlatforms, extent, halias] at h ⊢
          intro p hp
          rw [OrderedSet.mem_union]
          cases List.mem_append.mp h with
          | inl hregular =>
              obtain rfl := List.mem_singleton.mp (List.mem_filter.mp hregular).1
              exact Or.inl ((k.mem_regularPlatforms aliased p).mp hp).1
          | inr hpart => exact Or.inr (subset_of_mem_parts hpart p hp)
  | _ d =>
      rw [List.mem_singleton.mp h]
      exact fun p hp => hp

theorem isEmpty_extent (hd : declaration.platforms.isEmpty = false) :
  declaration.extent.isEmpty = false
  := by
  obtain ⟨p, hp⟩ := (OrderedSet.isEmpty_eq_false_iff _).mp hd
  apply (OrderedSet.isEmpty_eq_false_iff _).mpr
  use p
  cases declaration with
  | classlike k =>
      cases halias : k.facets.actualAlias with
      | none =>
          simp only [extent, halias]
          apply hp
      | some aliased =>
          simp only [extent, halias, OrderedSet.mem_union]
          apply Or.inl hp
  | _ d => exact hp

end Declaration

/-! ### Symbols and signatures -/

namespace Node

variable {declaration : Declaration} {n root : Node}

/-- What is in a symbol on some platforms is nested. -/
theorem IsLine.nested (h : n.IsLine declaration) (hne : n.platforms.isEmpty = false) :
  n.Nested
  := by
  apply (nested_iff n).mpr
  intro c hc
  apply (h.inside c hc).nested hne

theorem IsLine.text_ne (h : n.IsLine declaration) {t : String} {styles : List TextStyle}
    {platforms : PlatformSet} (hmem : .text t styles platforms ∈ n.nodes) :
  t ≠ ""
  := by
  obtain rfl | ⟨c, hc, htext⟩ := (mem_nodes _ _).mp hmem
  · cases h.kind
  · apply (h.inside c hc).text_ne t styles platforms htext

namespace Shape

variable (h : Shape declaration root)
include h

theorem text_ne {t : String} {styles : List TextStyle} {platforms : PlatformSet}
    (hmem : .text t styles platforms ∈ root.nodes) :
  t ≠ ""
  := by
  cases h with
  | single halias hn hplatforms => apply hn.text_ne hmem
  | several halias hcs hplatforms =>
      obtain ⟨⟨⟩⟩ | ⟨c, hc, htext⟩ := (mem_nodes _ _).mp hmem
      apply (hcs c hc).text_ne htext

theorem isEmpty_of_mem_symbols (hd : declaration.platforms.isEmpty = false)
    (hn : n ∈ root.symbols) :
  n.platforms.isEmpty = false
  := by
  apply Declaration.isEmpty_of_mem_symbolPlatforms hd
  rw [← h.map_platforms]
  apply List.mem_map_of_mem hn

theorem nested_of_mem_symbols (hd : declaration.platforms.isEmpty = false)
    (hn : n ∈ root.symbols) :
  n.Nested
  := by
  apply (h.isLine_of_mem n hn).nested
  apply h.isEmpty_of_mem_symbols hd hn

/-- A signature is nested as a whole if its symbols are on platforms of the outermost node. -/
theorem nested (hd : declaration.platforms.isEmpty = false)
    (htype : ∀ t, declaration ≠ .typeAlias t) :
  root.platforms.isEmpty = false ∧ root.Nested
  := by
  have hempty := fun n => h.isEmpty_of_mem_symbols (n := n) hd
  have hnested := fun n => h.nested_of_mem_symbols (n := n) hd
  cases h with
  | single halias hn hplatforms =>
      have hself : root ∈ root.symbols := by simp [hn.symbols]
      exact ⟨hempty root hself, hnested root hself⟩
  | several halias hcs hplatforms =>
      rw [symbols_several hcs] at hempty hnested
      constructor
      · apply Declaration.isEmpty_extent hd
      · apply (nested_iff _).mpr
        intro c hc
        refine ⟨⟨hempty c hc, ?_⟩, hnested c hc⟩
        apply Declaration.subset_of_mem_symbolPlatforms htype
        rw [hplatforms]
        apply List.mem_map_of_mem hc

end Shape

end Node

/-- In the signature of a declaration that exists somewhere, what is in a symbol is nested, no text
is empty, and unless the declaration is a type alias the whole signature is nested; a class that is
an alias is shown on its own platforms and on those of its aliases. -/
theorem nested_signature (d : Dialect) (c : Conventions) {declaration : Declaration}
    (hd : declaration.platforms.isEmpty = false) :
  (∀ n ∈ (d.signature c declaration Node.factory).nodes, n.kind = some .symbol →
      n.platforms.isEmpty = false ∧ n.Nested) ∧
    (∀ t styles platforms,
      .text t styles platforms ∈ (d.signature c declaration Node.factory).nodes → t ≠ "") ∧
    ((∀ t, declaration ≠ .typeAlias t) →
      (d.signature c declaration Node.factory).platforms.isEmpty = false ∧
        (d.signature c declaration Node.factory).Nested) ∧
    ∀ k aliased, declaration = .classlike k → k.facets.actualAlias = some aliased →
      ∀ p, p ∈ (d.signature c declaration Node.factory).platforms
        ↔ p ∈ k.platforms ∨ p ∈ aliased.keys
  := by
  have hshape := shape_signature d c declaration
  refine ⟨?_, ?_, hshape.nested hd, ?_⟩
  · intro n hn hkind
    have hmem : n ∈ (d.signature c declaration Node.factory).symbols := by
      rw [hshape.symbols_eq_filter]
      simp [hn, hkind]
    exact ⟨hshape.isEmpty_of_mem_symbols hd hmem, hshape.nested_of_mem_symbols hd hmem⟩
  · intro t styles platforms
    apply hshape.text_ne
  · rintro k aliased rfl halias p
    rw [platforms_signature, Declaration.extent, halias]
    apply OrderedSet.mem_union

/-- A class that is an alias on one of its platforms has nested platforms. -/
theorem nested_signature_partlyAliased :
  (Declaration.classlike .partlyAliased).platforms.isEmpty = false ∧
    (Dialect.kotlin.signature .kotlin (.classlike .partlyAliased) Node.factory).Nested
  := by
  have hd : (Declaration.classlike .partlyAliased).platforms.isEmpty = false := by decide
  have hnested := nested_signature .kotlin .kotlin hd
  refine ⟨hd, (hnested.2.2.1 ?_).2⟩
  rintro t ⟨⟩

end PlatformSignatures
