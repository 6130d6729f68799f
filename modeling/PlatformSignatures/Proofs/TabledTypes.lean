import PlatformSignatures.Proofs.Capitals
import PlatformSignatures.Proofs.TypeTable

/-!
# Types as they are tabled

Every type is written as the table of the language has it.  A named type is written as one group,
in which the nodes of each argument stand once and in order, among the link and the punctuation of
the type itself.  As long as no name in a type is empty, neither is its text.
-/

namespace PlatformSignatures

/-! ### Arguments -/

/-- Nodes that hold some parts, each once and in order, among nodes of their own. -/
inductive Node.Holds (own : Node → Prop) : List (List Node) → List Node → Prop where
  | nil : Holds own [] []
  | own {n : Node} {parts : List (List Node)} {ns : List Node} :
    own n → Holds own parts ns → Holds own parts (n :: ns)
  | part (part : List Node) {parts : List (List Node)} {ns : List Node} :
    Holds own parts ns → Holds own (part :: parts) (part ++ ns)

theorem Node.Holds.append {own : Node → Prop} {parts parts' : List (List Node)}
    {ns ns' : List Node} (h : Holds own parts ns) (h' : Holds own parts' ns') :
  Holds own (parts ++ parts') (ns ++ ns')
  := by
  induction h with
  | nil => apply h'
  | own hn _ ih => exact .own hn ih
  | part p _ ih =>
      rw [List.append_assoc]
      exact .part p ih

namespace Emission

variable {own : Node → Prop} {owner : SymbolId} {platforms : PlatformSet}

/-- An emission writes what some others write, each once and in order, among nodes of its own. -/
def Holds (own : Node → Prop) (owner : SymbolId) (platforms : PlatformSet)
    (es : List (Emission Node)) (e : Emission Node) : Prop :=
  Node.Holds own (es.map fun e => e ⟨Node.factory, owner, platforms⟩)
    (e ⟨Node.factory, owner, platforms⟩)

namespace Holds

variable {es es' : List (Emission Node)} {e e' : Emission Node}

theorem nothing :
  Holds own owner platforms [] .nothing
  := .nil

theorem append (h : Holds own owner platforms es e) (h' : Holds own owner platforms es' e') :
  Holds own owner platforms (es ++ es') (e ++ e')
  := by
  rw [Holds, List.map_append]
  apply Node.Holds.append h h'

theorem single (e : Emission Node) :
  Holds own owner platforms [e] e
  := by
  have h : Node.Holds own [e ⟨Node.factory, owner, platforms⟩]
      (e ⟨Node.factory, owner, platforms⟩ ++ []) := .part _ .nil
  rwa [List.append_nil] at h

theorem text {t : String} (h : own (.text t [] platforms)) :
  Holds own owner platforms [] (.text t)
  := by
  by_cases ht : t = ""
  · rw [ht]
    exact .nil
  · rw [Holds, text_of_ne ht]
    exact .own h .nil

theorem linkTo {id : SymbolId} (h : own (.link id.displayName id platforms)) :
  Holds own owner platforms [] (.linkTo id)
  := .own h .nil

theorem separated {separator : String} (h : own (.text separator [] platforms))
    (es : List (Emission Node)) :
  Holds own owner platforms es (.separated separator es)
  := by
  induction es with
  | nil => exact .nil
  | cons e es ih =>
      cases es with
      | nil => exact single e
      | cons e' es => exact ((single e).append (text h)).append ih

theorem enclosed {opening closing separator : String}
    (h : ∀ t ∈ [opening, closing, separator], own (.text t [] platforms))
    (es : List (Emission Node)) :
  Holds own owner platforms es (.enclosed opening closing separator es)
  := by
  simp only [List.forall_mem_cons] at h
  obtain ⟨hopening, hclosing, hseparator, -⟩ := h
  cases es with
  | nil => exact .nil
  | cons e es =>
      have hitems : Holds own owner platforms (e :: es) (.separated separator (e :: es)) :=
        separated hseparator (e :: es)
      have hall := ((text hopening).append hitems).append (text hclosing)
      rwa [List.nil_append, List.append_nil] at hall

end Holds

end Emission

namespace Kotlin

open Emission

variable {owner : SymbolId} {platforms : PlatformSet}

theorem holds_namedType {own : Node → Prop} {id : SymbolId}
    (hlink : own (.link id.displayName id platforms))
    (hmarks : ∀ t ∈ ["<", ">", ", "], own (.text t [] platforms)) (es : List (Emission Node)) :
  ∃ body, namedType id es = group [] body ∧ Holds own owner platforms es body
  := ⟨_, rfl, (Holds.linkTo hlink).append (.enclosed hmarks es)⟩

theorem holds_arrow {own : Node → Prop}
    (hmarks : ∀ t ∈ [".", "(", ", ", ") -> "], own (.text t [] platforms))
    (r : Option (Emission Node)) (as : List (Emission Node)) (a : Emission Node) :
  ∃ body, arrow r as a = group [] body ∧ Holds own owner platforms (r.toList ++ as ++ [a]) body
  := by
  simp only [List.forall_mem_cons] at hmarks
  obtain ⟨hdot, hopening, hcomma, harrow, -⟩ := hmarks
  have hreceiver : Holds own owner platforms r.toList (receiver r) := by
    cases r with
    | none => exact .nothing
    | some r => exact (Holds.single r).append (.text hdot)
  have hall := (((hreceiver.append (.text hopening)).append (.separated hcomma as)).append
    (.text harrow)).append (.single a)
  rw [List.append_nil, List.append_nil] at hall
  exact ⟨_, rfl, hall⟩

/-- What is written for a marked type holds what is written for its arguments. -/
theorem holds_markedType {own : Node → Prop} {id : SymbolId}
    (hlink : own (.link id.displayName id platforms))
    (hmarks : ∀ t ∈ Dialect.kotlin.punctuation, own (.text t [] platforms))
    (marker : FunctionMarker) (es : List (Emission Node)) :
  ∃ body, markedType id marker es = group [] body ∧ Holds own owner platforms es body
  := by
  have hnamed : ∀ t ∈ ["<", ">", ", "], own (.text t [] platforms) := fun t ht =>
    hmarks t (by revert t; decide)
  have harrow : ∀ t ∈ [".", "(", ", ", ") -> "], own (.text t [] platforms) := fun t ht =>
    hmarks t (by revert t; decide)
  obtain ⟨-, heq⟩ | ⟨-, as, a, rfl, heq⟩ | ⟨-, r, as, a, rfl, heq⟩ :=
    markedType_cases id marker es
  · rw [heq]
    apply holds_namedType hlink hnamed
  · rw [heq]
    apply holds_arrow harrow none
  · rw [heq]
    apply holds_arrow harrow (some r)

end Kotlin

namespace Dialect

/-- What is written for a named type by itself: the link to its symbol, and punctuation. -/
def IsOwn (d : Dialect) (id : SymbolId) (platforms : PlatformSet) (n : Node) : Prop :=
  n = .link id.displayName id platforms ∨ ∃ mark ∈ d.punctuation, n = .text mark [] platforms

/-- A named type is written as a group of what is written for its arguments and of its own
nodes. -/
theorem exists_holds (d : Dialect) (owner : SymbolId) (platforms : PlatformSet) (id : SymbolId)
    (arguments : List TypeExpr) (marker : FunctionMarker) :
  ∃ children, d.typeExpr (.named id arguments marker) ⟨Node.factory, owner, platforms⟩
      = [.group none none [] platforms children] ∧
    Node.Holds (d.IsOwn id platforms)
      (arguments.map fun a => d.typeExpr a ⟨Node.factory, owner, platforms⟩) children
  := by
  have hbody : ∃ body, d.typeExpr (.named id arguments marker) = Emission.group [] body ∧
      Emission.Holds (d.IsOwn id platforms) owner platforms (arguments.map d.typeExpr) body := by
    have hlink : d.IsOwn id platforms (.link id.displayName id platforms) := Or.inl rfl
    have hmarks : ∀ t ∈ d.punctuation, d.IsOwn id platforms (.text t [] platforms) :=
      fun t ht => Or.inr ⟨t, ht, rfl⟩
    cases d with
    | kotlin =>
        change ∃ body, Kotlin.markedType id marker (Kotlin.typeExprs arguments) = _ ∧ _
        rw [Kotlin.typeExprs_eq_map]
        apply Kotlin.holds_markedType hlink hmarks
    | java =>
        have hnamed : ∀ t ∈ ["<", ">", ", "], java.IsOwn id platforms (.text t [] platforms) :=
          fun t ht => hmarks t (by revert t; decide)
        change ∃ body, Kotlin.namedType id (Java.typeExprs arguments) = _ ∧ _
        rw [Java.typeExprs_eq_map]
        apply Kotlin.holds_namedType hlink hnamed
  obtain ⟨body, heq, hholds⟩ := hbody
  use body ⟨Node.factory, owner, platforms⟩
  constructor
  · rw [heq]
    rfl
  · rwa [Emission.Holds, List.map_map] at hholds

end Dialect

/-! ### Types with proper names -/

theorem Text.capitalize_ne_empty {s : String} (h : s ≠ "") :
  capitalize s ≠ ""
  := by
  rw [capitalize]
  split
  case h_1 hnil => exact absurd (String.toList_eq_nil_iff.mp hnil) h
  case h_2 c cs _ =>
    have hupper : uppercase c ≠ [] := by
      obtain hself | ⟨hne, -⟩ := uppercase_cases c
      · simp [hself]
      · apply hne
    intro hempty
    rw [String.ofList_eq_empty_iff, List.append_eq_nil_iff] at hempty
    exact hupper hempty.1

theorem namedText_ne_empty {id : SymbolId} (h : id.displayName ≠ "") (arguments : List String) :
  namedText id arguments ≠ ""
  := by
  rw [namedText]
  split
  · apply h
  · simp

theorem Kotlin.arrowText_ne_empty (marker : FunctionMarker) (arguments : List String) :
  arrowText marker arguments ≠ ""
  := by
  rw [arrowText]
  split <;> simp

/-- The name of a type is among the names in it. -/
theorem TypeExpr.mem_names {t : TypeExpr} {name : String} (h : t.name? = some name) :
  name ∈ t.names
  := by
  rw [names, List.mem_filterMap]
  refine ⟨t, ?_, h⟩
  cases t <;> apply List.mem_cons_self

theorem TypeExpr.ne_empty_of_name? {t : TypeExpr} (h : "" ∉ t.names) {name : String}
    (hname : t.name? = some name) :
  name ≠ ""
  := by
  rintro rfl
  apply h (mem_names hname)

theorem Kotlin.textOf_ne_empty {t : TypeExpr} (h : "" ∉ t.names) :
  textOf t ≠ ""
  := by
  cases t with
  | named id arguments marker =>
      rw [textOf]
      split
      · apply arrowText_ne_empty
      · apply namedText_ne_empty (TypeExpr.ne_empty_of_name? h rfl)
  | variance v inner => cases v <;> simp [textOf]
  | nullable inner => simp [textOf]
  | primitive name => apply Text.capitalize_ne_empty (TypeExpr.ne_empty_of_name? h rfl)
  | typeParameter name => apply TypeExpr.ne_empty_of_name? h rfl
  | _ => decide

theorem Java.textOf_ne_empty (t : TypeExpr) (h : "" ∉ t.names) :
  textOf t ≠ ""
  := by
  cases t with
  | named id arguments marker => apply namedText_ne_empty (TypeExpr.ne_empty_of_name? h rfl)
  | variance v inner => cases v <;> simp [textOf]
  | nullable inner => exact textOf_ne_empty inner h
  | primitive name => apply TypeExpr.ne_empty_of_name? h rfl
  | typeParameter name => apply TypeExpr.ne_empty_of_name? h rfl
  | _ => decide

namespace Dialect

/-- The text of a type on its own is that of the table, with plain spaces. -/
theorem typeText_eq (d : Dialect) (t : TypeExpr) :
  d.typeText t = Text.plainSpaces (d.textOf t)
  := by
  rw [← d.writtenText_typeExpr t]
  rfl

theorem textOf_ne_empty (d : Dialect) {t : TypeExpr} (h : "" ∉ t.names) :
  d.textOf t ≠ ""
  := by
  cases d with
  | kotlin => apply Kotlin.textOf_ne_empty h
  | java => apply Java.textOf_ne_empty t h

/-- A type is written as the table has it: with the text of the table, and with the links of the
types in it, in preorder.  A named type holds what is written for its arguments, each once and in
order.  If no name in the type is empty, neither is its text. -/
theorem typeExpr_follows_table (d : Dialect) (owner : SymbolId) (platforms : PlatformSet)
    (t : TypeExpr) :
  Node.plainTextOfList (d.typeExpr t ⟨Node.factory, owner, platforms⟩) = d.textOf t ∧
    Node.linksOfList (d.typeExpr t ⟨Node.factory, owner, platforms⟩)
      = t.parts.filterMap d.linkOf ∧
    (∀ id arguments marker, t = .named id arguments marker →
      ∃ children, d.typeExpr t ⟨Node.factory, owner, platforms⟩
          = [.group none none [] platforms children] ∧
        Node.Holds (d.IsOwn id platforms)
          (arguments.map fun a => d.typeExpr a ⟨Node.factory, owner, platforms⟩) children) ∧
    ("" ∉ t.names → Node.plainTextOfList (d.typeExpr t ⟨Node.factory, owner, platforms⟩) ≠ "")
  := by
  have htext : Node.plainTextOfList (d.typeExpr t ⟨Node.factory, owner, platforms⟩)
      = d.textOf t := d.writtenText_typeExpr t
  refine ⟨htext, d.writtenLinks_typeExpr t, ?_, ?_⟩
  · rintro id arguments marker rfl
    apply d.exists_holds
  · intro h
    rw [htext]
    apply d.textOf_ne_empty h

theorem typeExpr_follows_table_integerAction :
  let action := TypeExpr.integerAction "Function2" (.primitive "int")
  let nodes := kotlin.typeExpr action
    ⟨Node.factory, SymbolId.anonymous, OrderedSet.singleton "jvm"⟩
  "" ∉ action.names ∧
    Node.plainTextOfList nodes = "T.(in Int) -> Unit?" ∧
    Node.linksOfList nodes = [SymbolId.ofClass "kotlin" "Int", SymbolId.kotlinUnit] ∧
    Node.plainTextOfList nodes ≠ ""
  := by
  intro action nodes
  have hnames : "" ∉ action.names := by decide
  obtain ⟨htext, hlinks, -, hne⟩ := typeExpr_follows_table kotlin SymbolId.anonymous
    (OrderedSet.singleton "jvm") action
  have htable : kotlin.textOf action = "T.(in Int) -> Unit?" := by decide
  have htargets : action.parts.filterMap kotlin.linkOf
      = [SymbolId.ofClass "kotlin" "Int", SymbolId.kotlinUnit] := by decide
  exact ⟨hnames, htext.trans htable, hlinks.trans htargets, hne hnames⟩

end Dialect

end PlatformSignatures
