import Mathlib.Data.List.Basic
import Mathlib.Data.List.Flatten
import Mathlib.Data.List.Infix
import PlatformSignatures.Proofs.Trees

/-!
# Outermost symbols

A node of a tree is told apart from others that look the same by the path to it, and paths come in
document order if they increase lexicographically.  The symbols that are collected from a tree are
the nodes of kind symbol at the paths on which there is no such node before.  Their texts and links
are parts of those of the tree.
-/

namespace PlatformSignatures

namespace Node

/-- What holds of a node if it holds of its children holds of all nodes. -/
theorem induct {P : Node → Prop} (step : ∀ n, (∀ c ∈ n.children, P c) → P n) (n : Node) :
  P n
  := by
  apply step
  intro c hc
  cases n with
  | group kind owner styles platforms cs =>
      have hlt : sizeOf c < sizeOf cs := List.sizeOf_lt_of_mem hc
      exact induct step c
  | _ => contradiction
termination_by sizeOf n
decreasing_by
  simp only [group.sizeOf_spec]
  omega

/-! ### Paths -/

/-- The node that a path leads to, which goes to the child with the given index in each step. -/
def follow? : Node → List Nat → Option Node
  | n, [] => some n
  | n, i :: path => n.children[i]?.bind fun c => c.follow? path

/-- A path leads to a node of kind symbol. -/
def LeadsToSymbol (root : Node) (path : List Nat) : Prop :=
  ∃ n, root.follow? path = some n ∧ n.kind = some .symbol

/-- A path leads to a node of kind symbol, and there is no other one around that. -/
structure LeadsToOutermost (root : Node) (path : List Nat) : Prop where
  leads : root.LeadsToSymbol path
  outermost : ∀ around, around <+: path → root.LeadsToSymbol around → around = path

section

variable {n : Node} {i : Nat} {path : List Nat}

theorem leadsToSymbol_nil :
  n.LeadsToSymbol [] ↔ n.kind = some .symbol
  := by
  constructor
  · rintro ⟨m, hm, hkind⟩
    obtain rfl := Option.some.inj hm
    exact hkind
  · intro hkind
    exact ⟨n, rfl, hkind⟩

theorem leadsToSymbol_cons :
  n.LeadsToSymbol (i :: path) ↔ ∃ c, n.children[i]? = some c ∧ c.LeadsToSymbol path
  := by
  constructor
  · rintro ⟨m, hm, hkind⟩
    obtain ⟨c, hc, hpath⟩ := Option.bind_eq_some_iff.mp hm
    exact ⟨c, hc, m, hpath, hkind⟩
  · rintro ⟨c, hc, m, hpath, hkind⟩
    exact ⟨m, Option.bind_eq_some_iff.mpr ⟨c, hc, hpath⟩, hkind⟩

/-- Nothing inside a symbol is an outermost one. -/
theorem leadsToOutermost_iff_nil (h : n.kind = some .symbol) :
  n.LeadsToOutermost path ↔ path = []
  := by
  constructor
  · intro hpath
    exact (hpath.outermost [] List.nil_prefix (leadsToSymbol_nil.mpr h)).symm
  · rintro rfl
    exact ⟨leadsToSymbol_nil.mpr h, fun around hnil _ => List.prefix_nil.mp hnil⟩

/-- The outermost symbols of a node of another kind are those of its children. -/
theorem leadsToOutermost_cons (h : n.kind ≠ some .symbol) :
  n.LeadsToOutermost (i :: path) ↔ ∃ c, n.children[i]? = some c ∧ c.LeadsToOutermost path
  := by
  constructor
  · rintro ⟨hleads, houtermost⟩
    obtain ⟨c, hc, hpath⟩ := leadsToSymbol_cons.mp hleads
    refine ⟨c, hc, hpath, fun around haround hsymbol => ?_⟩
    have heq := houtermost (i :: around) ((List.prefix_cons_inj i).mpr haround)
      (leadsToSymbol_cons.mpr ⟨c, hc, hsymbol⟩)
    exact (List.cons.inj heq).2
  · rintro ⟨c, hc, hpath⟩
    refine ⟨leadsToSymbol_cons.mpr ⟨c, hc, hpath.leads⟩, fun around haround hsymbol => ?_⟩
    obtain rfl | ⟨rest, rfl, hrest⟩ := List.prefix_cons_iff.mp haround
    · exact absurd (leadsToSymbol_nil.mp hsymbol) h
    · obtain ⟨d, hd, hsymbol⟩ := leadsToSymbol_cons.mp hsymbol
      obtain rfl := Option.some.inj (hd.symm.trans hc)
      rw [hpath.outermost rest hrest hsymbol]

end

/-- Two outermost symbols of which one is around the other are the same. -/
theorem LeadsToOutermost.eq_of_prefix {root : Node} {p q : List Nat}
    (hp : root.LeadsToOutermost p) (hq : root.LeadsToOutermost q) (h : p <+: q) :
  p = q
  := hq.outermost p h hp.leads

/-- Around every symbol, or at it, there is one outermost symbol. -/
theorem LeadsToSymbol.existsUnique_outermost {root : Node} {path : List Nat}
    (h : root.LeadsToSymbol path) :
  ∃! p, root.LeadsToOutermost p ∧ p <+: path
  := by
  -- The first symbol that a path comes to is an outermost one.
  have hexists : ∃ p, root.LeadsToOutermost p ∧ p <+: path := by
    induction path generalizing root with
    | nil =>
        have hkind := leadsToSymbol_nil.mp h
        exact ⟨[], (leadsToOutermost_iff_nil hkind).mpr rfl, List.prefix_rfl⟩
    | cons i path ih =>
        by_cases hkind : root.kind = some .symbol
        · exact ⟨[], (leadsToOutermost_iff_nil hkind).mpr rfl, List.nil_prefix⟩
        · obtain ⟨c, hc, hpath⟩ := leadsToSymbol_cons.mp h
          obtain ⟨p, hp, hprefix⟩ := ih hpath
          exact ⟨i :: p, (leadsToOutermost_cons hkind).mpr ⟨c, hc, hp⟩,
            (List.prefix_cons_inj i).mpr hprefix⟩
  obtain ⟨p, hp, hprefix⟩ := hexists
  refine ⟨p, ⟨hp, hprefix⟩, ?_⟩
  rintro q ⟨hq, hqprefix⟩
  obtain h | h := List.prefix_or_prefix_of_prefix hqprefix hprefix
  · exact hq.eq_of_prefix hp h
  · exact (hp.eq_of_prefix hq h).symm

/-! ### Paths of the collected symbols -/

mutual

/-- The paths to the symbols that are collected from a tree. -/
def symbolPaths : Node → List (List Nat)
  | group (some .symbol) _ _ _ _ => [[]]
  | group _ _ _ _ cs => symbolPathsOfList 0 cs
  | _ => []

/-- The paths to the symbols that are collected from children, of which the first has the given
index. -/
def symbolPathsOfList (index : Nat) : List Node → List (List Nat)
  | [] => []
  | c :: cs => (symbolPaths c).map (index :: ·) ++ symbolPathsOfList (index + 1) cs

end

theorem symbolPathsOfList_eq_flatMap (index : Nat) (cs : List Node) :
  symbolPathsOfList index cs
    = (cs.zipIdx index).flatMap fun e => e.1.symbolPaths.map (e.2 :: ·)
  := by
  induction cs generalizing index with
  | nil => rfl
  | cons c cs ih => rw [symbolPathsOfList, ih, List.zipIdx_cons, List.flatMap_cons]

section

variable {n : Node}

theorem symbols_eq_singleton (h : n.kind = some .symbol) :
  n.symbols = [n]
  := by
  cases n with
  | group kind owner styles platforms cs =>
      obtain rfl : kind = some .symbol := h
      rfl
  | _ => contradiction

theorem symbolPaths_eq_singleton (h : n.kind = some .symbol) :
  n.symbolPaths = [[]]
  := by
  cases n with
  | group kind owner styles platforms cs =>
      obtain rfl : kind = some .symbol := h
      rfl
  | _ => contradiction

theorem symbols_eq_flatMap (h : n.kind ≠ some .symbol) :
  n.symbols = n.children.flatMap symbols
  := by
  match n with
  | text _ _ _ => rfl
  | link _ _ _ => rfl
  | group none _ _ _ cs => apply symbolsOfList_eq_flatMap
  | group (some .main) _ _ _ cs => apply symbolsOfList_eq_flatMap
  | group (some .symbol) _ _ _ _ => contradiction

theorem symbolPaths_eq_flatMap (h : n.kind ≠ some .symbol) :
  n.symbolPaths = n.children.zipIdx.flatMap fun e => e.1.symbolPaths.map (e.2 :: ·)
  := by
  match n with
  | text _ _ _ => rfl
  | link _ _ _ => rfl
  | group none _ _ _ cs => apply symbolPathsOfList_eq_flatMap
  | group (some .main) _ _ _ cs => apply symbolPathsOfList_eq_flatMap
  | group (some .symbol) _ _ _ _ => contradiction

end

theorem map_follow?_symbolPaths (n : Node) :
  n.symbolPaths.map n.follow? = n.symbols.map some
  := by
  induction n using induct with
  | step n ih =>
      by_cases h : n.kind = some .symbol
      · rw [symbolPaths_eq_singleton h, symbols_eq_singleton h]
        rfl
      · have hchild : ∀ e ∈ n.children.zipIdx,
            (e.1.symbolPaths.map (e.2 :: ·)).map n.follow? = e.1.symbols.map some := by
          rintro ⟨c, i⟩ he
          have hc : n.children[i]? = some c := List.mk_mem_zipIdx_iff_getElem?.mp he
          rw [← ih c (List.mem_of_getElem? hc), List.map_map]
          apply List.map_congr_left
          intro path _
          rw [Function.comp_apply, follow?, hc, Option.bind_some]
        have hindices := List.flatMap_map Prod.fst (fun c => c.symbols.map some)
          n.children.zipIdx
        rw [List.zipIdx_map_fst] at hindices
        rw [symbolPaths_eq_flatMap h, symbols_eq_flatMap h, List.map_flatMap, List.map_flatMap,
          List.flatMap_congr hchild, hindices]

theorem mem_symbolPaths (n : Node) (path : List Nat) :
  path ∈ n.symbolPaths ↔ n.LeadsToOutermost path
  := by
  induction n using induct generalizing path with
  | step n ih =>
      by_cases h : n.kind = some .symbol
      · rw [symbolPaths_eq_singleton h, List.mem_singleton, leadsToOutermost_iff_nil h]
      · rw [symbolPaths_eq_flatMap h, List.mem_flatMap]
        constructor
        · rintro ⟨⟨c, i⟩, he, hpath⟩
          have hc : n.children[i]? = some c := List.mk_mem_zipIdx_iff_getElem?.mp he
          obtain ⟨rest, hrest, rfl⟩ := List.mem_map.mp hpath
          apply (leadsToOutermost_cons h).mpr
          exact ⟨c, hc, (ih c (List.mem_of_getElem? hc) rest).mp hrest⟩
        · intro hpath
          cases path with
          | nil => exact absurd (leadsToSymbol_nil.mp hpath.leads) h
          | cons i rest =>
              obtain ⟨c, hc, hrest⟩ := (leadsToOutermost_cons h).mp hpath
              refine ⟨(c, i), List.mk_mem_zipIdx_iff_getElem?.mpr hc, ?_⟩
              exact List.mem_map_of_mem ((ih c (List.mem_of_getElem? hc) rest).mpr hrest)

theorem pairwise_symbolPaths (n : Node) :
  n.symbolPaths.Pairwise (· < ·)
  := by
  induction n using induct with
  | step n ih =>
      by_cases h : n.kind = some .symbol
      · rw [symbolPaths_eq_singleton h]
        apply List.pairwise_singleton
      · rw [symbolPaths_eq_flatMap h, List.pairwise_flatMap]
        constructor
        · rintro ⟨c, i⟩ he
          have hc : n.children[i]? = some c := List.mk_mem_zipIdx_iff_getElem?.mp he
          rw [List.pairwise_map]
          apply (ih c (List.mem_of_getElem? hc)).imp
          intro p q hpq
          exact List.cons_lt_cons_iff.mpr (.inr ⟨rfl, hpq⟩)
        · -- Paths through different children are ordered by the indices of these.
          have hindices : n.children.zipIdx.Pairwise fun e f => e.2 < f.2 := by
            rw [← List.pairwise_map, List.zipIdx_map_snd]
            exact List.pairwise_lt_range'
          apply hindices.imp
          intro e f hlt p hp q hq
          obtain ⟨p, -, rfl⟩ := List.mem_map.mp hp
          obtain ⟨q, -, rfl⟩ := List.mem_map.mp hq
          exact List.cons_lt_cons_iff.mpr (.inl hlt)

/-! ### Parts of a tree in its symbols -/

/-- If a node shows what its children show, one after the other, then it shows what its outermost
symbols show. -/
theorem flatMap_symbols_sublist {α : Type} {shown : Node → List α}
    (h : ∀ n : Node, (n.children.flatMap shown).Sublist (shown n)) (n : Node) :
  (n.symbols.flatMap shown).Sublist (shown n)
  := by
  induction n using induct with
  | step n ih =>
      by_cases hkind : n.kind = some .symbol
      · rw [symbols_eq_singleton hkind, List.flatMap_singleton]
      · rw [symbols_eq_flatMap hkind, List.flatMap_assoc]
        exact (List.Sublist.flatMap_right n.children ih).trans (h n)

theorem links_children_sublist (n : Node) :
  (n.children.flatMap links).Sublist n.links
  := by
  cases n with
  | group kind owner styles platforms cs =>
      rw [links, linksOfList_eq_flatMap, children]
  | _ => apply List.nil_sublist

theorem letters_children_sublist (n : Node) :
  (n.children.flatMap fun c => c.plainText.toList).Sublist n.plainText.toList
  := by
  cases n with
  | group kind owner styles platforms cs =>
      rw [plainText, plainTextOfList_eq_join, String.toList_join, List.flatMap_map, children]
  | _ => apply List.nil_sublist

/-! ### The outermost symbols -/

/-- The nodes of a list are the outermost symbols of a tree, which stand at the given paths. -/
structure AreOutermost (root : Node) (listed : List Node) (paths : List (List Nat)) : Prop where
  found : paths.map root.follow? = listed.map some
  /-- They are listed in document order, and each of them once. -/
  ordered : paths.Pairwise (· < ·)
  outermost : ∀ path, path ∈ paths ↔ root.LeadsToOutermost path
  /-- None of them is inside another one. -/
  apart : ∀ p ∈ paths, ∀ q ∈ paths, p <+: q → p = q
  /-- Every symbol is one of them or is inside exactly one of them. -/
  around : ∀ path, root.LeadsToSymbol path → ∃! p, p ∈ paths ∧ p <+: path

theorem symbols_areOutermost (root : Node) :
  root.AreOutermost root.symbols root.symbolPaths
  where
  found := map_follow?_symbolPaths root
  ordered := pairwise_symbolPaths root
  outermost := mem_symbolPaths root
  apart p hp q hq h := by
    rw [mem_symbolPaths] at hp hq
    exact hp.eq_of_prefix hq h
  around path h := by
    simp only [mem_symbolPaths]
    exact h.existsUnique_outermost

/-- A symbol hides whatever is inside it. -/
example (inner : Node) (platforms : PlatformSet) :
  symbolPaths (.group (some .main) none [] platforms
    [.text "a" [] platforms, .group (some .symbol) none [] platforms [inner]]) = [[1]]
  := rfl

/-- The symbols of a tree are the nodes of kind symbol that are inside no other one, in document
order, and what they show is shown by the tree in the same order. -/
theorem symbols_outermost (root : Node) :
  (∃ paths, root.AreOutermost root.symbols paths)
    ∧ (String.join (root.symbols.map plainText)).toList.Sublist root.plainText.toList
    ∧ (root.symbols.flatMap links).Sublist root.links
  := by
  refine ⟨⟨root.symbolPaths, symbols_areOutermost root⟩, ?_, ?_⟩
  · rw [String.toList_join, List.flatMap_map]
    exact flatMap_symbols_sublist letters_children_sublist root
  · exact flatMap_symbols_sublist links_children_sublist root

end Node

end PlatformSignatures
