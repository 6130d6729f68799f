import Mathlib.Data.List.Nodup
import PlatformSignatures.Proofs.Coverage
import PlatformSignatures.Proofs.InsideSymbols

/-!
# The skeleton of signatures

A signature is one symbol, or a node around several symbols if the declaration is an alias.  On
which platforms the symbols are depends on the declaration alone, and on each platform of a covered
declaration there is exactly one symbol.
-/

namespace PlatformSignatures

/-! ### Platforms of the symbols -/

/-- The platforms of each distinct value of an attribute, in the order in which the values first
occur. -/
def PlatformMap.parts {α : Type} [DecidableEq α] (m : PlatformMap α) : List PlatformSet :=
  (m.valuesOn m.keys).map (m.platformsOn m.keys)

/-- The platforms on which a class that is an alias is still a class. -/
def Classlike.regularPlatforms (k : Classlike) (aliased : PlatformMap TypeExpr) : PlatformSet :=
  k.platforms.filter fun p => p ∉ aliased.keys

@[simp]
theorem Classlike.mem_regularPlatforms (k : Classlike) (aliased : PlatformMap TypeExpr)
    (p : Platform) :
  p ∈ k.regularPlatforms aliased ↔ p ∈ k.platforms ∧ p ∉ aliased.keys
  := by
  simp [regularPlatforms]

/-- The platforms of the symbols of a declaration. -/
def Declaration.symbolPlatforms : Declaration → List PlatformSet
  | typeAlias t => t.underlying.parts
  | classlike k =>
    match k.facets.actualAlias with
    | none => [k.platforms]
    | some aliased =>
      [k.regularPlatforms aliased].filter (fun s => !s.isEmpty) ++ aliased.parts
  | declaration => [declaration.platforms]

theorem parts_eq_map_groups {α : Type} [DecidableEq α] (m : PlatformMap α) :
  m.parts = m.groups.map (·.2)
  := by
  rw [groups_eq_groupWithin, groupWithin_eq, List.map_map]
  rfl

/-- A platform is in exactly one part of an attribute if it has a value, and else in none. -/
theorem countP_parts {α : Type} [DecidableEq α] (m : PlatformMap α) (p : Platform) :
  m.parts.countP (fun s => p ∈ s) = if p ∈ m.keys then 1 else 0
  := by
  rw [PlatformMap.parts, List.countP_map]
  split
  case isTrue hp =>
    obtain ⟨a, ha⟩ := (m.mem_keys p).mp hp
    have hmem : a ∈ m.valuesOn m.keys := (m.mem_valuesOn m.keys a).mpr ⟨p, hp, ha⟩
    have htest : ((fun s : PlatformSet => decide (p ∈ s)) ∘ m.platformsOn m.keys) = (· == a) := by
      funext b
      simp [hp, ha, eq_comm, beq_eq_decide]
    rw [htest]
    apply List.count_eq_one_of_mem (m.nodup_valuesOn m.keys) hmem
  case isFalse hp =>
    apply List.countP_eq_zero.mpr
    intro a _
    simp [hp]

/-! ### Symbols -/

/-- A node holds one signature of a declaration, in one block unless there is nothing to write, and
no node below it belongs to a declaration. -/
structure Node.HoldsSignature (declaration : Declaration) (n : Node) : Prop where
  kind : n.kind = some .symbol
  owner : n.owner = some declaration.id
  styles : n.styles = [.monospace]
  entry : declaration.isEnumEntry = true → n.children = []
  block : declaration.isEnumEntry = false →
    ∃ cs, n.children = [.group none none [.block] n.platforms cs]
  below : ∀ k ∈ nodesOfList n.children, k.kind = none ∧ k.owner = none

/-- A node holds one signature, and the nodes in it are as they have to be inside a symbol. -/
structure Node.IsLine (declaration : Declaration) (n : Node) : Prop
    extends n.HoldsSignature declaration where
  inside : ∀ c ∈ n.children, c.Inside n.platforms

namespace Node

variable {declaration : Declaration} {n root : Node}

theorem isLine_block (hentry : declaration.isEnumEntry = false) {platforms : PlatformSet}
    {cs : List Node} (h : ∀ c ∈ cs, c.Inside platforms) :
  IsLine declaration (.group (some .symbol) (some declaration.id) [.monospace] platforms
    [.group none none [.block] platforms cs])
  := by
  have hblock : Inside platforms (.group none none [.block] platforms cs) := Inside.group _ h
  refine ⟨⟨rfl, rfl, rfl, ?_, ?_, ?_⟩, ?_⟩
  · rw [hentry]
    rintro ⟨⟩
  · intro _
    use cs
    rfl
  · intro k hk
    obtain ⟨c, hc, hkc⟩ := (mem_nodesOfList k _).mp hk
    obtain rfl := List.mem_singleton.mp hc
    apply hblock.unowned k hkc
  · rintro c hc
    obtain rfl := List.mem_singleton.mp hc
    apply hblock

theorem isLine_entry (e : EnumEntry) :
  IsLine (.enumEntry e) (.group (some .symbol) (some e.id) [.monospace] e.platforms [])
  := by
  refine ⟨⟨rfl, rfl, rfl, fun _ => rfl, ?_, ?_⟩, ?_⟩
  · rintro ⟨⟩
  · rintro k ⟨⟩
  · rintro c ⟨⟩

namespace IsLine

variable (h : n.IsLine declaration)
include h

theorem symbols :
  n.symbols = [n]
  := by
  have hkind := h.kind
  cases n with
  | group kind owner styles platforms cs =>
      obtain rfl : kind = some .symbol := hkind
      rfl
  | _ => cases hkind

theorem filter_nodes :
  n.nodes.filter (fun k => k.kind = some .symbol) = [n]
  := by
  have hbelow : (nodesOfList n.children).filter (fun k => k.kind = some .symbol) = [] := by
    apply List.filter_eq_nil_iff.mpr
    intro k hk
    simp [(h.below k hk).1]
  rw [nodes_eq, List.filter_cons, hbelow]
  simp [h.kind]

end IsLine

/-! ### The shape of a signature -/

/-- A signature is one symbol, or a node around the symbols of an alias. -/
inductive Shape (declaration : Declaration) : Node → Prop
  | single {n : Node} (halias : declaration.isAlias = false) (hn : n.IsLine declaration)
      (hplatforms : declaration.symbolPlatforms = [n.platforms]) : Shape declaration n
  | several {cs : List Node} (halias : declaration.isAlias = true)
      (hcs : ∀ n ∈ cs, n.IsLine declaration)
      (hplatforms : declaration.symbolPlatforms = cs.map platforms) :
      Shape declaration (.group (some .main) (some declaration.id) [] declaration.extent cs)

/-- What is listed of a list of lines is listed of each. -/
theorem flatMap_lines {cs : List Node} (hcs : ∀ n ∈ cs, n.IsLine declaration)
    {f : Node → List Node} (hf : ∀ n : Node, n.IsLine declaration → f n = [n]) :
  cs.flatMap f = cs
  := by
  induction cs with
  | nil => rfl
  | cons c cs ih =>
      obtain ⟨hc, hrest⟩ := List.forall_mem_cons.mp hcs
      rw [List.flatMap_cons, hf c hc, ih hrest, List.singleton_append]

theorem symbols_several {cs : List Node} (hcs : ∀ n ∈ cs, n.IsLine declaration)
    (owner : Option SymbolId) (styles : List TextStyle) (platforms : PlatformSet) :
  (group (some .main) owner styles platforms cs).symbols = cs
  := by
  apply Eq.trans (symbolsOfList_eq_flatMap cs)
  apply flatMap_lines hcs
  intro n hn
  apply hn.symbols

namespace Shape

variable (h : Shape declaration root)
include h

theorem isLine_of_mem :
  ∀ n ∈ root.symbols, n.IsLine declaration
  := by
  cases h with
  | single halias hn hplatforms =>
      rw [hn.symbols, List.forall_mem_singleton]
      apply hn
  | several halias hcs hplatforms =>
      rw [symbols_several hcs]
      apply hcs

theorem map_platforms :
  root.symbols.map platforms = declaration.symbolPlatforms
  := by
  cases h with
  | single halias hn hplatforms =>
      rw [hn.symbols, hplatforms]
      rfl
  | several halias hcs hplatforms => rw [symbols_several hcs, hplatforms]

theorem symbols_eq_filter :
  root.symbols = root.nodes.filter fun n => n.kind = some .symbol
  := by
  cases h with
  | single halias hn hplatforms => rw [hn.symbols, hn.filter_nodes]
  | @several cs halias hcs hplatforms =>
      rw [symbols_several hcs, nodes_eq, List.filter_cons, if_neg (by simp [kind]), children,
        nodesOfList_eq_flatMap, List.filter_flatMap]
      symm
      apply flatMap_lines hcs
      intro n hn
      apply hn.filter_nodes

theorem plainText_eq :
  root.plainText = String.join (root.symbols.map plainText)
  := by
  cases h with
  | single halias hn hplatforms => simp [hn.symbols, String.join_cons]
  | several halias hcs hplatforms =>
      rw [symbols_several hcs, plainText, plainTextOfList_eq_join]

end Shape

end Node

/-! ### Signatures -/

theorem Declaration.symbolPlatforms_ordinary {declaration : Declaration}
    (halias : declaration.isAlias = false) :
  declaration.symbolPlatforms = [declaration.platforms]
  := by
  cases declaration with
  | classlike k =>
      have hnone : k.facets.actualAlias = none := by
        simpa [Declaration.isAlias] using halias
      simp [Declaration.symbolPlatforms, Declaration.platforms, hnone]
  | typeAlias t => cases halias
  | _ => rfl

section

variable (d : Dialect) (c : Conventions)

theorem shape_ordinary {declaration : Declaration} (halias : declaration.isAlias = false)
    (hentry : declaration.isEnumEntry = false) :
  Node.Shape declaration (d.signature c declaration Node.factory)
  := by
  have hall : ∀ platforms ∈ declaration.platformSets, ∀ p ∈ platforms, True :=
    fun _ _ _ _ => trivial
  have hrelated := Correspondence.inside_follows.ordinary c d hall halias hentry
  obtain ⟨cs, hroot, hcs⟩ := Correspondence.exists_block hrelated
  rw [hroot]
  exact .single halias (Node.isLine_block hentry hcs) (Declaration.symbolPlatforms_ordinary halias)

theorem shape_typeAlias (t : TypeAlias) :
  Node.Shape (.typeAlias t) (d.signature c (.typeAlias t) Node.factory)
  := by
  have hroot : d.signature c (.typeAlias t) Node.factory
      = .group (some .main) (some t.id) [] t.platforms
          (t.underlying.groups.map fun g =>
            Signature.symbol t.id g.2 (d.aliasLine c t g.1) Node.factory) := by
    rw [Dialect.signature_typeAlias, Signature.typeAlias, Signature.main, Emission.make,
      Emission.concat_made]
    rfl
  rw [hroot]
  apply Node.Shape.several rfl
  · rw [List.forall_mem_map]
    intro g _
    have hline := Correspondence.inside_follows.aliasLine c d t (fun _ _ _ _ => trivial) g.1
    obtain ⟨cs, hsymbol, hcs⟩ := Correspondence.exists_block (hline.symbol t.id g.2 g.2)
    rw [hsymbol]
    exact Node.isLine_block rfl hcs
  · rw [List.map_map]
    apply parts_eq_map_groups

/-- The nodes in the node around the signatures of a class that is an alias. -/
theorem signature_eq_main {k : Classlike} {aliased : PlatformMap TypeExpr}
    (halias : k.facets.actualAlias = some aliased) :
  d.signature c (.classlike k) Node.factory
    = .group (some .main) (some k.id) [] (Declaration.classlike k).extent
        ((if (k.regularPlatforms aliased).isEmpty then []
            else [d.classHeader c k (k.regularPlatforms aliased) Node.factory])
          ++ aliased.groups.map fun g =>
            Signature.symbol k.id g.2 (d.classLine k g.1) Node.factory)
  := by
  have hextent : (Declaration.classlike k).extent = k.platforms.union aliased.keys := by
    simp [Declaration.extent, halias]
  have hregular : (k.platforms.filter fun p => !aliased.contains p)
      = k.regularPlatforms aliased := by
    ext p
    simp [← PlatformMap.contains_iff]
  rw [Dialect.signature_aliasedClasslike d c halias, Signature.aliasedClasslike, hregular, hextent,
    Signature.main, Emission.make]
  change Node.group _ _ _ _ ((ite _ _ _ : Emission Node) _ ++ Emission.concat _ _) = _
  rw [Emission.concat_made]
  split <;> rfl

theorem shape_aliasedClasslike {k : Classlike} {aliased : PlatformMap TypeExpr}
    (halias : k.facets.actualAlias = some aliased) :
  Node.Shape (.classlike k) (d.signature c (.classlike k) Node.factory)
  := by
  have hlines : ∀ n ∈ aliased.groups.map fun g =>
      Signature.symbol k.id g.2 (d.classLine k g.1) Node.factory, n.IsLine (.classlike k) := by
    rw [List.forall_mem_map]
    intro g _
    have hline := Correspondence.Relates.classLine (R := .inside) d k g.1
    obtain ⟨cs, hsymbol, hcs⟩ := Correspondence.exists_block (hline.symbol k.id g.2 g.2)
    rw [hsymbol]
    exact Node.isLine_block rfl hcs
  have hplatforms : aliased.parts = (aliased.groups.map fun g =>
      Signature.symbol k.id g.2 (d.classLine k g.1) Node.factory).map Node.platforms := by
    rw [List.map_map]
    apply parts_eq_map_groups
  have hheader := Correspondence.inside_follows.classHeader c d k (fun _ _ _ _ => trivial)
    (k.regularPlatforms aliased)
  obtain ⟨cs, hsymbol, hcs⟩ := Correspondence.exists_block hheader
  rw [signature_eq_main d c halias, hsymbol]
  apply Node.Shape.several
  · simp [Declaration.isAlias, halias]
  · intro n hn
    cases List.mem_append.mp hn with
    | inl hfirst =>
        split at hfirst
        · cases hfirst
        · obtain rfl := List.mem_singleton.mp hfirst
          exact Node.isLine_block rfl hcs
    | inr hline => apply hlines n hline
  · simp only [Declaration.symbolPlatforms, halias, hplatforms, List.map_append]
    congr 1
    cases hempty : (k.regularPlatforms aliased).isEmpty with
    | true => simp [hempty]
    | false => simp [hempty, Node.platforms]

/-- A signature has one of the two shapes. -/
theorem shape_signature (declaration : Declaration) :
  Node.Shape declaration (d.signature c declaration Node.factory)
  := by
  cases declaration with
  | classlike k =>
      cases halias : k.facets.actualAlias with
      | none => exact shape_ordinary d c (by simp [Declaration.isAlias, halias]) rfl
      | some aliased => apply shape_aliasedClasslike d c halias
  | typeAlias t => apply shape_typeAlias
  | enumEntry e => cases d <;> exact .single rfl (Node.isLine_entry e) rfl
  | _ => exact shape_ordinary d c rfl rfl

end

/-! ### The skeleton -/

/-- Each platform of a covered declaration is on exactly one of its symbols. -/
theorem countP_symbolPlatforms {m : Model} (hm : m.check = .ok ()) {declaration : Declaration}
    (hd : declaration ∈ m.declarations) {p : Platform} (hp : p ∈ declaration.platforms) :
  declaration.symbolPlatforms.countP (fun s => p ∈ s) = 1
  := by
  cases declaration with
  | typeAlias t =>
      have hcovered := (m.check_eq_ok_iff.mp hm) (.typeAlias t) hd
      obtain ⟨-, -, hunderlying, -⟩ := (Coverage.typeAlias_eq_ok_iff t).mp hcovered
      apply Eq.trans (countP_parts t.underlying p)
      rw [if_pos (hunderlying p hp)]
  | classlike k =>
      have hplatform : p ∈ k.platforms := hp
      cases halias : k.facets.actualAlias with
      | none => simp [Declaration.symbolPlatforms, halias, hplatform]
      | some aliased =>
          simp only [Declaration.symbolPlatforms, halias, List.countP_append, countP_parts,
            List.countP_filter]
          by_cases hkey : p ∈ aliased.keys
          · simp [hkey]
          · have hne : (k.regularPlatforms aliased).isEmpty = false := by
              apply (OrderedSet.isEmpty_eq_false_iff _).mpr
              use p
              simp [hplatform, hkey]
            simp [hkey, hplatform, hne]
  | _ d =>
      have hplatform : p ∈ d.platforms := hp
      simp [Declaration.symbolPlatforms, Declaration.platforms, hplatform]

/-- What can be said about a signature without its text: the outermost node belongs to the
declaration and stands for one signature, or for several if the declaration is an alias; the symbols
are the nodes of that kind, each holds one signature, and their platforms depend on the declaration
alone; and the text is that of the symbols. -/
structure Node.Skeleton (declaration : Declaration) (root : Node) : Prop where
  owner : root.owner = some declaration.id
  several : declaration.isAlias = true → root.kind = some .main ∧ root.styles = []
  single : declaration.isAlias = false → root.kind = some .symbol
  symbols : root.symbols = root.nodes.filter fun n => n.kind = some .symbol
  holds : ∀ n ∈ root.symbols, n.HoldsSignature declaration
  platforms : root.symbols.map Node.platforms = declaration.symbolPlatforms
  text : root.plainText = String.join (root.symbols.map plainText)

theorem Node.Shape.skeleton {declaration : Declaration} {root : Node}
    (h : Shape declaration root) :
  root.Skeleton declaration
  where
  owner := by
    cases h with
    | single halias hn hplatforms => apply hn.owner
    | several halias hcs hplatforms => rfl
  several halias := by
    cases h with
    | single hnot hn hplatforms => cases hnot.symm.trans halias
    | several _ hcs hplatforms => exact ⟨rfl, rfl⟩
  single halias := by
    cases h with
    | single _ hn hplatforms => apply hn.kind
    | several hsome hcs hplatforms => cases hsome.symm.trans halias
  symbols := h.symbols_eq_filter
  holds n hn := (h.isLine_of_mem n hn).toHoldsSignature
  platforms := h.map_platforms
  text := h.plainText_eq

/-- Every signature has the skeleton that its declaration gives it, and on each platform of a
covered declaration there is exactly one symbol. -/
theorem skeleton_signature (d : Dialect) (c : Conventions) (declaration : Declaration) :
  (d.signature c declaration Node.factory).Skeleton declaration ∧
    ∀ m : Model, m.check = .ok () → declaration ∈ m.declarations →
      ∀ p ∈ declaration.platforms,
        (d.signature c declaration Node.factory).symbols.countP (fun n => p ∈ n.platforms) = 1
  := by
  have hshape := shape_signature d c declaration
  constructor
  · apply hshape.skeleton
  · intro m hm hd p hp
    have hcount := countP_symbolPlatforms hm hd hp
    rw [← hshape.map_platforms, List.countP_map] at hcount
    apply hcount

/-- On the platform where a class is an alias, only its alias line is counted. -/
theorem skeleton_signature_partlyAliased :
  (Model.mk [.classlike .partlyAliased]).check = .ok () ∧
    "jvm" ∈ (Declaration.classlike .partlyAliased).platforms ∧
    (Dialect.kotlin.signature .kotlin (.classlike .partlyAliased) Node.factory).symbols.countP
      (fun n => "jvm" ∈ n.platforms) = 1
  := by
  have hcheck : (Model.mk [.classlike .partlyAliased]).check = .ok () := by rfl
  have hplatform : "jvm" ∈ (Declaration.classlike .partlyAliased).platforms := by decide
  have hskeleton := skeleton_signature .kotlin .kotlin (.classlike .partlyAliased)
  exact ⟨hcheck, hplatform, hskeleton.2 _ hcheck List.mem_cons_self "jvm" hplatform⟩

end PlatformSignatures
