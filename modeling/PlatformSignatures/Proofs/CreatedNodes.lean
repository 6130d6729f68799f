import PlatformSignatures.Proofs.Programs

/-!
# Nodes created by programs

The steps of a program create its nodes in document order.  A step is inside those that move to
other platforms, the innermost of which decides the platforms of what the step creates.  Loosening
a program takes a group away, or the owner of a node with its own scope; the text and the links of
what is written remain.
-/

namespace PlatformSignatures

/-! ### Steps that create nodes -/

/-- A step that creates nodes. -/
inductive Creation where
  | text (t : String) (styles : List TextStyle)
  | link (t : String) (target : SymbolId)
  | group (styles : List TextStyle)
  | owned (owner : SymbolId) (kind : ContentKind) (styles : List TextStyle)
      (platforms : PlatformSet)
  | tokens (values : PlatformMap String)

/-- The nodes that a step may create in a scope with some platforms. -/
def Creation.Makes (current : PlatformSet) (l : List Node) : Creation → Prop
  | text t styles => l = if t = "" then [] else [.text t styles current]
  | link t target => l = [.link t target current]
  | group styles => ∃ children, l = [.group none none styles current children]
  | owned owner kind styles platforms =>
    ∃ children, l = [.group (some kind) (some owner) styles platforms children]
  | tokens values =>
    l.map Node.plainText = (values.valuesOn current).filter (fun t => !Text.isBlank t) ∧
    ∀ n ∈ l, n.IsPartOf current ∧ ∃ t, n = .text t [] n.platforms ∧ t ≠ ""

/-- A text that a step creates is not empty. -/
theorem Creation.Makes.text_ne_empty {c : Creation} {current : PlatformSet} {l : List Node}
    (h : c.Makes current l) {t : String} {styles : List TextStyle} {platforms : PlatformSet}
    (ht : .text t styles platforms ∈ l) :
  t ≠ ""
  := by
  cases c with
  | text t' styles' =>
      by_cases hempty : t' = ""
      · rw [h, if_pos hempty] at ht
        cases ht
      · rw [h, if_neg hempty, List.mem_singleton] at ht
        obtain ⟨rfl, -, -⟩ := Node.text.inj ht
        exact hempty
  | link t' target =>
      rw [h, List.mem_singleton] at ht
      cases ht
  | group styles' =>
      obtain ⟨children, rfl⟩ := h
      cases List.mem_singleton.mp ht
  | owned owner kind styles' platforms' =>
      obtain ⟨children, rfl⟩ := h
      cases List.mem_singleton.mp ht
  | tokens values =>
      obtain ⟨-, t', heq, hne⟩ := h.2 _ ht
      obtain ⟨rfl, -, -⟩ := Node.text.inj heq
      exact hne

/-- A step with the sets of platforms that have been moved to around it, innermost first. -/
structure Placed where
  step : Creation
  around : List PlatformSet

namespace Program

mutual

/-- The steps of a program that create nodes, in document order. -/
def creations (around : List PlatformSet) : Program → List Placed
  | nothing => []
  | followedBy first second => creations around first ++ creations around second
  | text t => [⟨.text t [], around⟩]
  | styledText t styles => [⟨.text t styles, around⟩]
  | link t target => [⟨.link t target, around⟩]
  | group styles body => ⟨.group styles, around⟩ :: creations around body
  | onPlatforms platforms body => creations (platforms :: around) body
  | owned owner kind styles platforms body =>
    ⟨.owned owner kind styles platforms, around⟩ :: creations (platforms :: around) body
  | enclosed _ _ _ [] => []
  | enclosed opening closing separator (item :: items) =>
    ⟨.text opening [], around⟩ :: creationsOfItems separator around (item :: items)
      ++ [⟨.text closing [], around⟩]
  | perPlatform values token => [⟨.tokens (values.map token), around⟩]

/-- The steps of the items of a list with a separator between them. -/
def creationsOfItems (separator : String) (around : List PlatformSet) : List Program → List Placed
  | [] => []
  | [item] => creations around item
  | item :: items =>
    creations around item ++ ⟨.text separator [], around⟩ ::
      creationsOfItems separator around items

end

end Program

/-- Steps create nodes one after the other, each on the innermost platforms around it, or on those
of the scope if there are none. -/
inductive Creates (scope : PlatformSet) : List Placed → List Node → Prop
  | nil : Creates scope [] []
  | cons {c : Placed} {cs : List Placed} {l k : List Node} :
    c.step.Makes (c.around.headD scope) l → Creates scope cs k → Creates scope (c :: cs) (l ++ k)

namespace Creates

variable {scope : PlatformSet}

theorem append {cs ds : List Placed} {l k : List Node} (h : Creates scope cs l)
    (h' : Creates scope ds k) :
  Creates scope (cs ++ ds) (l ++ k)
  := by
  induction h with
  | nil => exact h'
  | cons hc _ ih =>
      rw [List.append_assoc]
      exact .cons hc ih

/-- The nodes of a step that is all there is. -/
theorem single {c : Placed} {l : List Node} (h : c.step.Makes (c.around.headD scope) l) :
  Creates scope [c] l
  := by
  rw [← List.append_nil l]
  exact .cons h .nil

/-- A text is created as it is written. -/
theorem text (t : String) (styles : List TextStyle) (owner : SymbolId)
    (around : List PlatformSet) :
  Creates scope [⟨.text t styles, around⟩]
    (Node.nodesOfList
      (Emission.styledText t styles ⟨Node.factory, owner, around.headD scope⟩))
  := by
  apply single
  unfold Emission.styledText
  split
  case isTrue hempty => exact (if_pos hempty).symm
  case isFalse hne => exact (if_neg hne).symm

/-- The tokens of an attribute are for parts of the platforms. -/
theorem tokens {α : Type} (values : PlatformMap α) (token : α → String) (owner : SymbolId)
    (around : List PlatformSet) :
  Creates scope [⟨.tokens (values.map token), around⟩]
    (Node.nodesOfList
      (Emission.perPlatform values token ⟨Node.factory, owner, around.headD scope⟩))
  := by
  apply single
  rw [Emission.perPlatform_apply]
  simp only [Node.factory, Node.nodesOfList_texts]
  constructor
  · rw [groupWithin_eq, List.filter_map, List.map_map, List.map_map]
    exact List.map_id _
  · intro n hn
    obtain ⟨g, hmem, rfl⟩ := List.mem_map.mp hn
    obtain ⟨hg, hblank⟩ := List.mem_filter.mp hmem
    use ⟨isEmpty_of_mem_groupWithin hg, subset_of_mem_groupWithin hg⟩, g.1, rfl
    intro hempty
    rw [hempty] at hblank
    cases hblank

/-- A group comes before what is in it. -/
theorem group {c : Placed} {cs : List Placed} {kind : Option ContentKind}
    {owner : Option SymbolId} {styles : List TextStyle} {platforms : PlatformSet}
    {children : List Node}
    (hc : c.step.Makes (c.around.headD scope) [.group kind owner styles platforms children])
    (h : Creates scope cs (Node.nodesOfList children)) :
  Creates scope (c :: cs) (Node.nodesOfList [.group kind owner styles platforms children])
  := by
  rw [Node.nodesOfList, Node.nodes, Node.nodesOfList, List.append_nil]
  exact .cons hc h

/-- No step creates a text that is empty. -/
theorem text_ne_empty {cs : List Placed} {l : List Node} (h : Creates scope cs l) {t : String}
    {styles : List TextStyle} {platforms : PlatformSet} (ht : .text t styles platforms ∈ l) :
  t ≠ ""
  := by
  induction h with
  | nil => cases ht
  | cons hc _ ih =>
      rcases List.mem_append.mp ht with hmade | hrest
      · exact hc.text_ne_empty hmade
      · exact ih hrest

end Creates

namespace Program

mutual

/-- The steps of a program create the nodes that it writes. -/
theorem creates (p : Program) (owner : SymbolId) (scope : PlatformSet)
    (around : List PlatformSet) :
  Creates scope (p.creations around)
    (Node.nodesOfList (p.emission ⟨Node.factory, owner, around.headD scope⟩))
  := by
  cases p with
  | nothing => exact .nil
  | followedBy first second =>
      rw [creations, emission]
      change Creates _ _ (Node.nodesOfList (_ ++ _))
      rw [Node.nodesOfList_append]
      exact .append (creates first owner scope around) (creates second owner scope around)
  | text t => exact .text t [] owner around
  | styledText t styles => exact .text t styles owner around
  | link t target => exact .single rfl
  | group styles body => exact .group ⟨_, rfl⟩ (creates body owner scope around)
  | onPlatforms platforms body => exact creates body owner scope (platforms :: around)
  | owned owner' kind styles platforms body =>
      -- The body is written for the owner that is given, on the sets around it and one more.
      exact .group ⟨_, rfl⟩ (creates body owner' scope (platforms :: around))
  | enclosed opening closing separator items =>
      cases items with
      | nil => exact .nil
      | cons item items =>
          rw [creations, emission, emissions, Emission.enclosed_cons]
          change Creates _ _ (Node.nodesOfList (_ ++ _ ++ _))
          rw [Node.nodesOfList_append, Node.nodesOfList_append]
          have hitems := createsItems separator (item :: items) owner scope around
          exact ((Creates.text opening [] owner around).append hitems).append
            (.text closing [] owner around)
  | perPlatform values token => exact .tokens values token owner around

theorem createsItems (separator : String) (items : List Program) (owner : SymbolId)
    (scope : PlatformSet) (around : List PlatformSet) :
  Creates scope (creationsOfItems separator around items)
    (Node.nodesOfList
      (Emission.separated separator (emissions items) ⟨Node.factory, owner, around.headD scope⟩))
  := by
  match items with
  | [] => exact .nil
  | [item] => exact creates item owner scope around
  | item :: item' :: items =>
      have hrest := createsItems separator (item' :: items) owner scope around
      have hitem := creates item owner scope around
      rw [creationsOfItems, emissions, emissions, Emission.separated_cons_cons]
      · change Creates _ _ (Node.nodesOfList (_ ++ _ ++ _))
        rw [Node.nodesOfList_append, Node.nodesOfList_append, List.append_assoc]
        exact hitem.append ((Creates.text separator [] owner around).append hrest)
      · exact List.cons_ne_nil _ _

end

end Program

/-! ### Loosened programs -/

/-- Nodes have the same text and links, whatever owners they are written for. -/
def sameContent : Correspondence Node Node where
  -- The owners may differ, since what is in a node may be left in the scope around it.
  scopes s t := s.factory = Node.factory ∧ t.factory = Node.factory ∧ s.platforms = t.platforms
  nodes _ _ l l' :=
    Node.plainTextOfList l = Node.plainTextOfList l' ∧ Node.linksOfList l = Node.linksOfList l'
  nil _ := ⟨rfl, rfl⟩
  append := by
    rintro s t l l' k k' ⟨htext, hlinks⟩ ⟨htext', hlinks'⟩
    rw [Node.plainTextOfList_append, Node.plainTextOfList_append, Node.linksOfList_append,
      Node.linksOfList_append, htext, htext', hlinks, hlinks']
    exact ⟨rfl, rfl⟩
  text := by
    rintro ⟨_, _, _⟩ ⟨_, _, _⟩ t styles ⟨rfl, rfl, rfl⟩ _
    exact ⟨rfl, rfl⟩
  link := by
    rintro ⟨_, _, _⟩ ⟨_, _, _⟩ t target ⟨rfl, rfl, rfl⟩
    exact ⟨rfl, rfl⟩
  group := by
    rintro ⟨_, _, _⟩ ⟨_, _, _⟩ l l' styles ⟨rfl, rfl, rfl⟩ ⟨htext, hlinks⟩
    constructor
    · rw [Node.factory, Node.plainTextOfList_group, Node.plainTextOfList_group, htext]
    · rw [Node.factory, Node.linksOfList_group, Node.linksOfList_group, hlinks]

namespace SameContent

variable {e f : Emission Node} (h : sameContent.Relates e f)
include h

theorem onPlatforms (platforms : PlatformSet) :
  sameContent.Relates (.onPlatforms platforms e) (.onPlatforms platforms f)
  := by
  rintro s t ⟨hs, ht, -⟩
  exact h ⟨hs, ht, rfl⟩

/-- A group can be left for what is in it. -/
theorem ungroup (styles : List TextStyle) :
  sameContent.Relates (.group styles e) f
  := by
  rintro ⟨F, owner, platforms⟩ t hscopes
  obtain ⟨htext, hlinks⟩ := h hscopes
  obtain ⟨rfl, -, -⟩ := hscopes
  exact ⟨(Node.plainTextOfList_group ..).trans htext, (Node.linksOfList_group ..).trans hlinks⟩

/-- A node that has its own scope can be left for what is in it on the same platforms. -/
theorem disown (owner : SymbolId) (kind : ContentKind) (styles : List TextStyle)
    (platforms : PlatformSet) :
  sameContent.Relates (.owned owner kind styles platforms e) (.onPlatforms platforms f)
  := by
  rintro ⟨F, _, _⟩ ⟨G, owner', _⟩ ⟨rfl, rfl, -⟩
  obtain ⟨htext, hlinks⟩ := h (s := ⟨Node.factory, owner, platforms⟩)
    (t := ⟨Node.factory, owner', platforms⟩) ⟨rfl, rfl, rfl⟩
  exact ⟨(Node.plainTextOfList_group ..).trans htext, (Node.linksOfList_group ..).trans hlinks⟩

theorem owned (owner : SymbolId) (kind : ContentKind) (styles : List TextStyle)
    (platforms : PlatformSet) :
  sameContent.Relates (.owned owner kind styles platforms e) (.owned owner kind styles platforms f)
  := by
  rintro ⟨F, _, _⟩ ⟨G, _, _⟩ ⟨rfl, rfl, -⟩
  obtain ⟨htext, hlinks⟩ := h (s := ⟨Node.factory, owner, platforms⟩)
    (t := ⟨Node.factory, owner, platforms⟩) ⟨rfl, rfl, rfl⟩
  constructor
  · exact (Node.plainTextOfList_group ..).trans (htext.trans (Node.plainTextOfList_group ..).symm)
  · exact (Node.linksOfList_group ..).trans (hlinks.trans (Node.linksOfList_group ..).symm)

end SameContent

namespace Program

mutual

/-- A program has the same text and links for all owners. -/
theorem sameContent_self (p : Program) :
  sameContent.Relates p.emission p.emission
  := by
  cases p with
  | nothing => exact .nothing
  | followedBy first second => exact (sameContent_self first).append (sameContent_self second)
  | text t => exact .text t
  | styledText t styles => exact .styledText t styles
  | link t target => exact .link t target
  | group styles body => exact (sameContent_self body).group styles
  | onPlatforms platforms body => exact SameContent.onPlatforms (sameContent_self body) platforms
  | owned owner kind styles platforms body =>
      exact SameContent.owned (sameContent_self body) owner kind styles platforms
  | enclosed opening closing separator items =>
      exact .enclosed opening closing separator (forall₂_sameContent_self items)
  | perPlatform values token =>
      rintro ⟨_, _, _⟩ ⟨_, _, _⟩ ⟨rfl, rfl, rfl⟩
      exact ⟨rfl, rfl⟩

theorem forall₂_sameContent_self (items : List Program) :
  List.Forall₂ sameContent.Relates (emissions items) (emissions items)
  := by
  cases items with
  | nil => exact .nil
  | cons item items => exact .cons (sameContent_self item) (forall₂_sameContent_self items)

end

/-- A program with a group replaced by what is in it, or with a node that has its own scope
replaced by what is in it on the same platforms, anywhere inside. -/
inductive Loosens : Program → Program → Prop
  | group (styles : List TextStyle) (body : Program) : Loosens (group styles body) body
  | owned (owner : SymbolId) (kind : ContentKind) (styles : List TextStyle)
      (platforms : PlatformSet) (body : Program) :
    Loosens (owned owner kind styles platforms body) (onPlatforms platforms body)
  | first {p q : Program} (second : Program) :
    Loosens p q → Loosens (followedBy p second) (followedBy q second)
  | second (first : Program) {p q : Program} :
    Loosens p q → Loosens (followedBy first p) (followedBy first q)
  | inGroup (styles : List TextStyle) {p q : Program} :
    Loosens p q → Loosens (.group styles p) (.group styles q)
  | inPlatforms (platforms : PlatformSet) {p q : Program} :
    Loosens p q → Loosens (onPlatforms platforms p) (onPlatforms platforms q)
  | inOwned (owner : SymbolId) (kind : ContentKind) (styles : List TextStyle)
      (platforms : PlatformSet) {p q : Program} :
    Loosens p q →
      Loosens (.owned owner kind styles platforms p) (.owned owner kind styles platforms q)
  | item (opening closing separator : String) (before after : List Program) {p q : Program} :
    Loosens p q → Loosens (enclosed opening closing separator (before ++ p :: after))
      (enclosed opening closing separator (before ++ q :: after))

/-- A program and a loosened one have the same text and links. -/
theorem Loosens.sameContent {p q : Program} (h : Loosens p q) :
  sameContent.Relates p.emission q.emission
  := by
  induction h with
  | group styles body => exact SameContent.ungroup (sameContent_self body) styles
  | owned owner kind styles platforms body =>
      exact SameContent.disown (sameContent_self body) owner kind styles platforms
  | first second _ ih => exact ih.append (sameContent_self second)
  | second first _ ih => exact (sameContent_self first).append ih
  | inGroup styles _ ih => exact ih.group styles
  | inPlatforms platforms _ ih => exact SameContent.onPlatforms ih platforms
  | inOwned owner kind styles platforms _ ih =>
      exact SameContent.owned ih owner kind styles platforms
  | item opening closing separator before after _ ih =>
      apply Correspondence.Relates.enclosed opening closing separator
      -- The items before and after are related to themselves.
      induction before with
      | nil => exact .cons ih (forall₂_sameContent_self after)
      | cons b bs ihs => exact .cons (sameContent_self b) ihs

/-! ### Programs in a scope -/

/-- A program keeps the owner and the platforms of an emitter, and what it writes comes after what
is there; since the steps of a program are programs too, this is so after every step.  Each step
creates nodes on the innermost platforms around it, and no text among them is empty.  Loosening the
program changes neither the text nor the links of the node that is made of it all. -/
theorem perform_in_scope (p : Program) (owner : SymbolId) (platforms : PlatformSet)
    (earlier : List Node) :
  let e : Emitter Node := ⟨⟨Node.factory, owner, platforms⟩, earlier⟩
  (p.perform e).scope = e.scope ∧
  (∃ written, (p.perform e).nodes = earlier ++ written ∧
    Creates platforms (p.creations []) (Node.nodesOfList written) ∧
    ∀ t styles part, .text t styles part ∈ Node.nodesOfList written → t ≠ "") ∧
  ∀ q, p.Loosens q → ∀ kind styles,
    ((q.perform e).finish kind styles).plainText = ((p.perform e).finish kind styles).plainText ∧
    ((q.perform e).finish kind styles).links = ((p.perform e).finish kind styles).links
  := by
  intro e
  have hcreates := p.creates owner platforms []
  refine ⟨?scope, ⟨p.emission e.scope, ?nodes, hcreates, ?texts⟩, ?loosened⟩
  case scope => rw [perform_eq, Emitter.write]
  case nodes => rw [perform_eq, Emitter.write]
  case texts =>
    intro t styles part
    exact hcreates.text_ne_empty
  case loosened =>
    intro q hq kind styles
    obtain ⟨htext, hlinks⟩ := hq.sameContent (s := e.scope) (t := e.scope) ⟨rfl, rfl, rfl⟩
    rw [perform_eq, perform_eq]
    constructor
    · change Node.plainTextOfList (earlier ++ _) = Node.plainTextOfList (earlier ++ _)
      rw [Node.plainTextOfList_append, Node.plainTextOfList_append, htext]
    · change Node.linksOfList (earlier ++ _) = Node.linksOfList (earlier ++ _)
      rw [Node.linksOfList_append, Node.linksOfList_append, hlinks]

/-- A list on one platform whose second item is a node on another platform. -/
def listed (inside : Program) : Program :=
  onPlatforms (OrderedSet.singleton "js")
    (enclosed "<" ">" ", "
      [text "out",
        owned (SymbolId.ofClass "app" "Point") .symbol [.monospace] (OrderedSet.singleton "jvm")
          inside])

theorem perform_in_scope_listed :
  let e : Emitter Node :=
    ⟨⟨Node.factory, SymbolId.ofClass "app" "Box", OrderedSet.ofList ["js", "jvm"]⟩,
      [.text "class " [] (OrderedSet.singleton "native")]⟩
  let point : Program := link "Point" (SymbolId.ofClass "app" "Point")
  let grouped := ((listed (group [.bold] point)).perform e).finish .main []
  let loosened := ((listed point).perform e).finish .main []
  (listed (group [.bold] point)).Loosens (listed point) ∧
    grouped.plainText = "class <out, Point>" ∧
    loosened.plainText = grouped.plainText ∧ loosened.links = grouped.links
  := by
  intro e point grouped loosened
  have hloosens : (listed (group [.bold] point)).Loosens (listed point) :=
    .inPlatforms _ (.item "<" ">" ", " [text "out"] [] (.inOwned _ _ _ _ (.group [.bold] point)))
  obtain ⟨-, -, hsame⟩ := perform_in_scope (listed (group [.bold] point)) e.scope.owner
    e.scope.platforms e.nodes
  exact ⟨hloosens, by decide, hsame _ hloosens .main []⟩

end Program

end PlatformSignatures
