import PlatformSignatures.Proofs.ReadingTypes
import PlatformSignatures.Proofs.ReindexedSignatures
import PlatformSignatures.Proofs.Retagging

/-!
# Lines without platforms

What the lines of an alias are once the platforms of their nodes are taken away.  Two lines of a
type alias are then the same if they show the same visibilities and types that are written alike.
The header of a class that is an alias is never the same as one of its lines.
-/

namespace PlatformSignatures

variable {ν : Type}

/-! ### Trees without platforms -/

/-- A tree without the platforms of its nodes. -/
def Node.untagged (n : Node) : Node :=
  n.mapPlatforms fun _ => OrderedSet.empty

namespace Dialect

/-- Two types are written alike if the same nodes are written for them. -/
def WritesAlike (d : Dialect) (a b : TypeExpr) : Prop :=
  ∀ owner platforms, d.typeExpr a ⟨Node.factory, owner, platforms⟩
    = d.typeExpr b ⟨Node.factory, owner, platforms⟩

/-- What is written for a type depends on owner and platforms in the tags only. -/
theorem typeExpr_retagged (d : Dialect) (t : TypeExpr) (owner owner' : SymbolId)
    (platforms platforms' : PlatformSet) :
  (d.typeExpr t ⟨Node.factory, owner, platforms⟩).map (Node.mapPlatforms fun _ => platforms')
    = d.typeExpr t ⟨Node.factory, owner', platforms'⟩
  := by
  have hself := Correspondence.Relates.typeExpr
    (R := .retagging (fun _ => platforms') fun _ _ => True) d t
  apply hself
  exact ⟨rfl, rfl, rfl, trivial⟩

/-- Types are written alike if they are in one scope. -/
theorem writesAlike_iff (d : Dialect) (owner : SymbolId) (platforms : PlatformSet)
    (a b : TypeExpr) :
  d.WritesAlike a b
    ↔ d.typeExpr a ⟨Node.factory, owner, platforms⟩ = d.typeExpr b ⟨Node.factory, owner, platforms⟩
  := by
  constructor
  · intro h
    apply h
  · intro h owner' platforms'
    rw [← typeExpr_retagged d a owner owner' platforms platforms', h]
    apply typeExpr_retagged

theorem length_text (t : String) (scope : Scope ν) :
  (Emission.text t scope).length ≤ 1
  := by
  unfold Emission.text Emission.styledText
  split
  · apply Nat.zero_le
  · apply Nat.le_refl

theorem length_javaType (t : TypeExpr) (scope : Scope ν) :
  (Java.typeExpr t scope).length ≤ 1
  := by
  cases t with
  | nullable inner => apply length_javaType inner
  | variance v inner => cases v <;> apply Nat.le_refl
  | primitive name => apply length_text
  | typeParameter name => apply length_text
  | _ => apply Nat.le_refl

theorem length_markedType (id : SymbolId) (marker : FunctionMarker) (es : List (Emission ν))
    (scope : Scope ν) :
  (Kotlin.markedType id marker es scope).length ≤ 1
  := by
  cases marker with
  | notFunction => cases es <;> apply Nat.le_refl
  | function => cases es <;> apply Nat.le_refl
  | extension =>
      cases es with
      | nil => apply Nat.le_refl
      | cons r es => cases es <;> apply Nat.le_refl

/-- A type is written as at most one node. -/
theorem length_typeExpr (d : Dialect) (t : TypeExpr) (scope : Scope ν) :
  (d.typeExpr t scope).length ≤ 1
  := by
  cases d with
  | java => apply length_javaType
  | kotlin =>
      cases t with
      | named id arguments marker => apply length_markedType
      | variance v inner => cases v <;> apply Nat.le_refl
      | typeParameter name => apply length_text
      | _ => apply Nat.le_refl

end Dialect

/-! ### Lines -/

section

variable {α : Type} [DecidableEq α] {l l' : List α} {a : α}

theorem append_ne_of_notMem (k : List α) (hl : a ∉ l) (hl' : a ∉ l') :
  l ++ (k ++ [a]) ≠ l' ++ k
  := by
  intro h
  have hcount := congrArg (List.count a) h
  simp [List.count_eq_zero_of_not_mem hl, List.count_eq_zero_of_not_mem hl'] at hcount

/-- The parts of a list around a fixed middle, if the middle ends with an item that does not occur
before it and at most one item comes after it. -/
theorem append_middle_inj (k : List α) {r r' : List α} (hl : a ∉ l) (hl' : a ∉ l')
    (hr : r.length ≤ 1) (hr' : r'.length ≤ 1) :
  l ++ (k ++ [a]) ++ r = l' ++ (k ++ [a]) ++ r' ↔ l = l' ∧ r = r'
  := by
  constructor
  · intro h
    match r, r' with
    | [], [] =>
        have hleft := List.append_cancel_right h
        exact ⟨List.append_cancel_right hleft, rfl⟩
    -- Here the fixed item would occur once more on the left than on the right.
    | [u], [] =>
        rw [List.append_nil, ← List.append_assoc l' k] at h
        exact absurd (List.append_inj_left' h rfl) (append_ne_of_notMem k hl hl')
    | [], [u] =>
        rw [List.append_nil, ← List.append_assoc l k] at h
        exact absurd (List.append_inj_left' h rfl).symm (append_ne_of_notMem k hl' hl)
    | [u], [u'] =>
        have hleft := List.append_inj_left' h rfl
        exact ⟨List.append_cancel_right hleft, List.append_inj_right' h rfl⟩
  · rintro ⟨rfl, rfl⟩
    rfl

end

/-- The visibilities that are shown on the lines of a declaration for some platforms. -/
def Declaration.lineVisibilities (c : Conventions) (platforms : PlatformSet) :
    Declaration → List String
  | typeAlias t =>
    ((t.visibility.map c.visibilityToken).valuesOn platforms).filter fun v => !Text.isBlank v
  | _ => []

/-- The types that a declaration is an alias of. -/
def Declaration.aliasTargets : Declaration → PlatformMap TypeExpr
  | typeAlias t => t.underlying
  | classlike k => k.facets.actualAlias.getD PlatformMap.empty
  | _ => PlatformMap.empty

theorem untagged_symbol (owner : SymbolId) (platforms : PlatformSet) (body : Emission Node) :
  (Signature.symbol owner platforms body Node.factory).untagged
    = .group (some .symbol) (some owner) [.monospace] OrderedSet.empty
        [.group none none [.block] OrderedSet.empty
          ((body ⟨Node.factory, owner, platforms⟩).map Node.untagged)]
  := by
  change Node.group _ _ _ _ (Node.mapPlatformsOfList _ [.group _ _ _ _ _]) = _
  rw [Node.mapPlatformsOfList, Node.mapPlatformsOfList, Node.mapPlatforms,
    Node.mapPlatformsOfList_eq]
  rfl

/-- The shown visibilities without platforms. -/
theorem untagged_visibility (c : Conventions) (values : PlatformMap Visibility) (owner : SymbolId)
    (platforms : PlatformSet) :
  (Signature.visibility c values ⟨Node.factory, owner, platforms⟩).map Node.untagged
    = (((values.map c.visibilityToken).valuesOn platforms).filter fun v => !Text.isBlank v).map
        fun v => .text v [] OrderedSet.empty
  := by
  unfold Signature.visibility
  rw [Emission.perPlatform_apply, groupWithin_eq, List.filter_map, List.map_map, List.map_map]
  rfl

theorem visibilityToken_mem (c : Conventions) (v : Visibility) :
  c.visibilityToken v ∈ ["", "public ", "private ", "protected ", "internal "]
  := by
  unfold Conventions.visibilityToken
  split
  case isTrue => apply List.mem_cons_self
  case isFalse h =>
    cases v with
    | packageAccess => exact absurd (Or.inr rfl) h
    | _ => decide

theorem modalityToken_mem (c : Conventions) (m : Modality) :
  c.modalityToken m ∈ ["", "abstract ", "open ", "final ", "sealed "]
  := by
  unfold Conventions.modalityToken
  split
  case isTrue => apply List.mem_cons_self
  case isFalse h =>
    cases m with
    | unspecified => exact absurd (Or.inr rfl) h
    | _ => decide

/-- Visibilities are not shown as equals signs. -/
theorem equals_notMem_visibility (c : Conventions) (values : PlatformMap Visibility)
    (owner : SymbolId) (platforms : PlatformSet) :
  Node.text " = " [] OrderedSet.empty
    ∉ (Signature.visibility c values ⟨Node.factory, owner, platforms⟩).map Node.untagged
  := by
  intro h
  obtain ⟨n, hn, huntagged⟩ := List.mem_map.mp h
  obtain ⟨v, shared, rfl⟩ := Emission.exists_of_mem_perPlatform hn
  have htoken : c.visibilityToken v = " = " := (Node.text.inj huntagged).1
  have hmem := visibilityToken_mem c v
  rw [htoken] at hmem
  exact absurd hmem (by decide)

/-- What does not look at platforms is written without them. -/
theorem untagged_of_relates {e : Emission Node}
    (h : Correspondence.Relates (.retagging (fun _ => OrderedSet.empty) fun _ _ => True) e e)
    (owner : SymbolId) (platforms : PlatformSet) :
  (e ⟨Node.factory, owner, platforms⟩).map Node.untagged
    = e ⟨Node.factory, owner, OrderedSet.empty⟩
  := by
  apply h
  exact ⟨rfl, rfl, rfl, trivial⟩

namespace Dialect

theorem untagged_aliasLine (d : Dialect) (c : Conventions) (t : TypeAlias) (underlying : TypeExpr)
    (owner : SymbolId) (platforms : PlatformSet) :
  (d.aliasLine c t underlying ⟨Node.factory, owner, platforms⟩).map Node.untagged
    = c.blockAnnotations t.facets ⟨Node.factory, owner, OrderedSet.empty⟩ ++
      ((Signature.visibility c t.visibility ⟨Node.factory, owner, platforms⟩).map Node.untagged ++
        (d.aliasHead t ⟨Node.factory, owner, OrderedSet.empty⟩ ++
          [.text " = " [] OrderedSet.empty]) ++
        d.typeExpr underlying ⟨Node.factory, owner, OrderedSet.empty⟩)
  := by
  have hannotations := untagged_of_relates (.blockAnnotations c t.facets) owner platforms
  have hhead : (d.aliasHead t ⟨Node.factory, owner, platforms⟩).map Node.untagged
      = d.aliasHead t ⟨Node.factory, owner, OrderedSet.empty⟩ := by
    apply untagged_of_relates
    apply Correspondence.Relates.aliasHead
  have htype := typeExpr_retagged d underlying owner owner platforms OrderedSet.empty
  change (c.blockAnnotations t.facets _ ++ Signature.visibility c t.visibility _ ++
    d.aliasHead t _ ++ [Node.text " = " [] platforms] ++ d.typeExpr underlying _).map
      Node.untagged = _
  rw [List.map_append, List.map_append, List.map_append, List.map_append, hannotations, hhead,
    ← htype]
  simp only [List.append_assoc]
  rfl

/-- The lines of a type alias differ in nothing but platforms exactly if the same visibilities are
shown and the aliased types are written alike. -/
theorem untagged_aliasLine_eq_iff (d : Dialect) (c : Conventions) (t : TypeAlias)
    (g h : TypeExpr × PlatformSet) :
  (Signature.symbol t.id g.2 (d.aliasLine c t g.1) Node.factory).untagged
      = (Signature.symbol t.id h.2 (d.aliasLine c t h.1) Node.factory).untagged
    ↔ (Declaration.typeAlias t).lineVisibilities c g.2
        = (Declaration.typeAlias t).lineVisibilities c h.2 ∧ d.WritesAlike g.1 h.1
  := by
  classical
  have hmiddle := append_middle_inj (d.aliasHead t ⟨Node.factory, t.id, OrderedSet.empty⟩)
    (equals_notMem_visibility c t.visibility t.id g.2)
    (equals_notMem_visibility c t.visibility t.id h.2)
    (d.length_typeExpr g.1 ⟨Node.factory, t.id, OrderedSet.empty⟩)
    (d.length_typeExpr h.1 ⟨Node.factory, t.id, OrderedSet.empty⟩)
  have htexts : Function.Injective fun v => Node.text v [] OrderedSet.empty := by
    intro v w h
    exact (Node.text.inj h).1
  simp only [untagged_symbol, untagged_aliasLine, Node.group.injEq, List.cons.injEq, true_and,
    and_true, List.append_cancel_left_eq]
  apply Iff.trans hmiddle
  apply and_congr
  · rw [untagged_visibility, untagged_visibility]
    apply (List.map_injective_iff.mpr htexts).eq_iff
  · apply (writesAlike_iff d t.id OrderedSet.empty g.1 h.1).symm

theorem untagged_classLine (d : Dialect) (k : Classlike) (target : TypeExpr) (owner : SymbolId)
    (platforms : PlatformSet) :
  (d.classLine k target ⟨Node.factory, owner, platforms⟩).map Node.untagged
    = d.aliasedHead k ⟨Node.factory, owner, OrderedSet.empty⟩ ++
      d.typeExpr target ⟨Node.factory, owner, OrderedSet.empty⟩
  := by
  have hhead : (d.aliasedHead k ⟨Node.factory, owner, platforms⟩).map Node.untagged
      = d.aliasedHead k ⟨Node.factory, owner, OrderedSet.empty⟩ := by
    apply untagged_of_relates
    apply Correspondence.Relates.aliasedHead
  rw [← hhead, ← typeExpr_retagged d target owner owner platforms OrderedSet.empty]
  apply List.map_append

/-- The lines of a class differ in nothing but platforms exactly if the types that it is an alias
of are written alike. -/
theorem untagged_classLine_eq_iff (d : Dialect) (k : Classlike) (g h : TypeExpr × PlatformSet) :
  (Signature.symbol k.id g.2 (d.classLine k g.1) Node.factory).untagged
      = (Signature.symbol k.id h.2 (d.classLine k h.1) Node.factory).untagged
    ↔ d.WritesAlike g.1 h.1
  := by
  simp only [untagged_symbol, untagged_classLine, Node.group.injEq, List.cons.injEq, true_and,
    and_true, List.append_cancel_left_eq]
  apply (writesAlike_iff d k.id OrderedSet.empty g.1 h.1).symm

/-- Whether the lines of a class that is an alias begin with a node. -/
def opensAlias : Dialect → Node → Bool
  | kotlin, .text t _ _ => t = "actual typealias "
  | java, .link _ _ _ => true
  | _, _ => false

theorem opensAlias_untagged (d : Dialect) (n : Node) :
  d.opensAlias n.untagged = d.opensAlias n
  := by
  cases d <;> cases n <;> rfl

/-- A line that does not begin like the lines of a class that is an alias. -/
def BeginsOtherwise (d : Dialect) (line : List Node) : Prop :=
  ∃ n rest, line = n :: rest ∧ d.opensAlias n = false

variable {d : Dialect}

theorem BeginsOtherwise.append {l : List Node} (h : d.BeginsOtherwise l) (k : List Node) :
  d.BeginsOtherwise (l ++ k)
  := by
  obtain ⟨n, rest, rfl, hn⟩ := h
  use n, rest ++ k
  exact ⟨rfl, hn⟩

theorem beginsOtherwise_append {l : List Node} (h : ∀ n ∈ l, d.opensAlias n = false)
    {k : List Node} (hk : d.BeginsOtherwise k) :
  d.BeginsOtherwise (l ++ k)
  := by
  cases l with
  | nil => apply hk
  | cons n rest =>
      use n, rest ++ k
      exact ⟨rfl, h n List.mem_cons_self⟩

theorem opensAlias_text (text : String) (owner : SymbolId) (platforms : PlatformSet) :
  ∀ n ∈ Emission.text text ⟨Node.factory, owner, platforms⟩, opensAlias java n = false
  := by
  unfold Emission.text Emission.styledText
  split
  · apply List.forall_mem_nil
  · rw [List.forall_mem_singleton]
    rfl

theorem opensAlias_perPlatform {α : Type} (d : Dialect) (values : PlatformMap α)
    (token : α → String) (htoken : ∀ a, token a ≠ "actual typealias ") (owner : SymbolId)
    (platforms : PlatformSet) :
  ∀ n ∈ Emission.perPlatform values token ⟨Node.factory, owner, platforms⟩,
    d.opensAlias n = false
  := by
  intro n hn
  obtain ⟨a, shared, rfl⟩ := Emission.exists_of_mem_perPlatform hn
  cases d with
  | kotlin => apply decide_eq_false (htoken a)
  | java => rfl

theorem opensAlias_visibility (d : Dialect) (c : Conventions) (values : PlatformMap Visibility)
    (owner : SymbolId) (platforms : PlatformSet) :
  ∀ n ∈ Signature.visibility c values ⟨Node.factory, owner, platforms⟩, d.opensAlias n = false
  := by
  apply opensAlias_perPlatform
  intro v h
  have hmem := visibilityToken_mem c v
  rw [h] at hmem
  exact absurd hmem (by decide)

theorem opensAlias_modality (d : Dialect) (c : Conventions) (values : PlatformMap Modality)
    (owner : SymbolId) (platforms : PlatformSet) :
  ∀ n ∈ Signature.modality c values ⟨Node.factory, owner, platforms⟩, d.opensAlias n = false
  := by
  apply opensAlias_perPlatform
  intro v h
  have hmem := modalityToken_mem c v
  rw [h] at hmem
  exact absurd hmem (by decide)

theorem opensAlias_blockAnnotations (d : Dialect) (c : Conventions) (f : Facets)
    (scope : Scope Node) (hs : scope.factory = Node.factory) :
  ∀ n ∈ c.blockAnnotations f scope, d.opensAlias n = false
  := by
  intro n hn
  unfold Conventions.blockAnnotations at hn
  rw [Emission.concat_apply, List.flatMap_map] at hn
  obtain ⟨a, -, ha⟩ := List.mem_flatMap.mp hn
  obtain rfl := List.mem_singleton.mp ha
  rw [hs]
  cases d <;> rfl

theorem beginsOtherwise_text {text : String} (hne : text ≠ "") (h : text ≠ "actual typealias ")
    (owner : SymbolId) (platforms : PlatformSet) :
  d.BeginsOtherwise (Emission.text text ⟨Node.factory, owner, platforms⟩)
  := by
  use .text text [] platforms, []
  constructor
  · apply if_neg hne
  · cases d with
    | kotlin => apply decide_eq_false h
    | java => rfl

/-- What is written before the name of a class ends with a keyword. -/
theorem exists_keyword (k : Classlike) :
  ∃ word ∈ ["class ", "interface ", "enum ", "object ", "annotation class "],
    word.toList <:+ (Kotlin.classKeyword k).toList
  := by
  unfold Kotlin.classKeyword
  cases k.kind with
  | ordinary =>
      use "class ", by decide
      rw [String.toList_append]
      apply List.suffix_append
  | interface => exact ⟨"interface ", by decide, List.suffix_rfl⟩
  | enumeration => exact ⟨"enum ", by decide, List.suffix_rfl⟩
  | object => exact ⟨"object ", by decide, List.suffix_rfl⟩
  | annotationType => exact ⟨"annotation class ", by decide, List.suffix_rfl⟩

theorem classKeyword_ne (k : Classlike) {text : String}
    (h : ∀ word ∈ ["class ", "interface ", "enum ", "object ", "annotation class "],
      ¬ word.toList <:+ text.toList) :
  Kotlin.classKeyword k ≠ text
  := by
  rintro rfl
  obtain ⟨word, hword, hsuffix⟩ := exists_keyword k
  apply h word hword hsuffix

/-- The header of a class does not begin like the lines of a class that is an alias. -/
theorem beginsOtherwise_classHeader (d : Dialect) (c : Conventions) (k : Classlike)
    (platforms : PlatformSet) :
  ∃ body, d.classHeader c k platforms Node.factory
      = Signature.symbol k.id platforms body Node.factory ∧
    d.BeginsOtherwise (body ⟨Node.factory, k.id, platforms⟩)
  := by
  have hannotations := opensAlias_blockAnnotations d c k.facets
    ⟨Node.factory, k.id, platforms⟩ rfl
  have hvisibility := opensAlias_visibility d c k.visibility k.id platforms
  have hmodality := opensAlias_modality d c k.modality k.id platforms
  cases d with
  | kotlin =>
      have hmodifiers : ∀ n ∈ Kotlin.classModality c k ⟨Node.factory, k.id, platforms⟩,
          opensAlias kotlin n = false := by
        unfold Kotlin.classModality
        split
        · apply hmodality
        · apply List.forall_mem_nil
      refine ⟨_, rfl, ?_⟩
      apply BeginsOtherwise.append
      apply BeginsOtherwise.append
      apply BeginsOtherwise.append
      apply BeginsOtherwise.append
      change BeginsOtherwise kotlin (_ ++ _ ++ _ ++ _)
      rw [List.append_assoc, List.append_assoc]
      apply beginsOtherwise_append hannotations
      apply beginsOtherwise_append hvisibility
      apply beginsOtherwise_append hmodifiers
      apply beginsOtherwise_text
      · apply classKeyword_ne k (by decide)
      · apply classKeyword_ne k (by decide)
  | java =>
      have hmodifiers : ∀ n ∈ Java.classModifiers c k ⟨Node.factory, k.id, platforms⟩,
          opensAlias java n = false := by
        unfold Java.classModifiers
        split
        · intro n hn
          cases List.mem_append.mp hn with
          | inl hn => apply hmodality n hn
          | inr hn => apply opensAlias_text _ _ _ n hn
        · apply List.forall_mem_nil
      refine ⟨_, rfl, ?_⟩
      apply BeginsOtherwise.append
      apply BeginsOtherwise.append
      apply BeginsOtherwise.append
      change BeginsOtherwise java (_ ++ _ ++ _ ++ _)
      rw [List.append_assoc, List.append_assoc]
      apply beginsOtherwise_append hannotations
      apply beginsOtherwise_append hvisibility
      apply beginsOtherwise_append hmodifiers
      apply beginsOtherwise_text
      · cases k.kind <;> decide
      · cases k.kind <;> decide

/-- The header of a class differs from its lines in more than platforms. -/
theorem untagged_classHeader_ne (d : Dialect) (c : Conventions) (k : Classlike)
    (platforms : PlatformSet) (g : TypeExpr × PlatformSet) :
  (d.classHeader c k platforms Node.factory).untagged
    ≠ (Signature.symbol k.id g.2 (d.classLine k g.1) Node.factory).untagged
  := by
  obtain ⟨body, hheader, n, rest, hbody, hn⟩ := beginsOtherwise_classHeader d c k platforms
  intro h
  simp only [hheader, untagged_symbol, hbody, untagged_classLine, Node.group.injEq,
    List.cons.injEq, true_and, and_true, List.map_cons] at h
  have hopens : d.opensAlias n.untagged = true := by
    cases d with
    | kotlin =>
        have hfirst : n.untagged = .text "actual typealias " [] OrderedSet.empty :=
          (List.cons.inj h).1
        rw [hfirst]
        rfl
    | java =>
        have hfirst : n.untagged = .link k.shownName k.id OrderedSet.empty :=
          (List.cons.inj h).1
        rw [hfirst]
        rfl
  rw [opensAlias_untagged, hn] at hopens
  exact absurd hopens (by decide)

end Dialect

end PlatformSignatures
