import PlatformSignatures.Proofs.IndentedJson
import PlatformSignatures.Proofs.RewrittenDocuments

/-!
# Documents of content trees

The members of an object have no order of their own, so two documents have the same value if they
differ in the order of members only.  A tree is read back from every document of the same value as
its own, although styles, kinds and owners are left out where there are none.  Hence no two trees
have documents of the same value.
-/

namespace PlatformSignatures

variable {α : Type}

/-! ### Documents of the same value -/

namespace Json

/-- The members of one object, anywhere in a value, are put into another order. -/
inductive Reorders : Json → Json → Prop where
  | members {ms ns : List (String × Json)} (hnames : (ms.map (·.1)).Nodup) (hperm : ms.Perm ns) :
    Reorders (.object ms) (.object ns)
  | member {before after : List (String × Json)} {name : String} {v w : Json}
      (h : Reorders v w) :
    Reorders (.object (before ++ (name, v) :: after)) (.object (before ++ (name, w) :: after))
  | item {before after : List Json} {v w : Json} (h : Reorders v w) :
    Reorders (.array (before ++ v :: after)) (.array (before ++ w :: after))

/-- Two documents have the same value if they differ in the order of members only. -/
def SameValue : Json → Json → Prop :=
  Relation.ReflTransGen Reorders

/-- Another order of members is one of the other ways to write a value, wherever it stands. -/
theorem Reorders.rewrites {v w : Json} (h : Reorders v w) (p : Place) :
  p.Rewrites v w
  := by
  induction h generalizing p with
  | members hnames hperm => exact .reorder hnames hperm
  | member _ ih => exact .member (ih _)
  | item _ ih => exact .item (ih _)

/-! ### Depth -/

theorem depthOfMembers_perm {ms ns : List (String × Json)} (h : ms.Perm ns) :
  depthOfMembers ms = depthOfMembers ns
  := by
  induction h with
  | nil => rfl
  | cons m _ ih => rw [depthOfMembers, depthOfMembers, ih]
  | swap m n ms =>
      rw [depthOfMembers, depthOfMembers, depthOfMembers, depthOfMembers]
      apply Nat.max_left_comm
  | trans _ _ ih ih' => rw [ih, ih']

theorem depthOfMembers_append (ms ns : List (String × Json)) :
  depthOfMembers (ms ++ ns) = max (depthOfMembers ms) (depthOfMembers ns)
  := by
  induction ms with
  | nil => exact (Nat.zero_max _).symm
  | cons m ms ih => rw [List.cons_append, depthOfMembers, depthOfMembers, ih, Nat.max_assoc]

theorem depthOfList_append (vs ws : List Json) :
  depthOfList (vs ++ ws) = max (depthOfList vs) (depthOfList ws)
  := by
  induction vs with
  | nil => exact (Nat.zero_max _).symm
  | cons v vs ih => rw [List.cons_append, depthOfList, depthOfList, ih, Nat.max_assoc]

theorem Reorders.depth_eq {v w : Json} (h : Reorders v w) :
  v.depth = w.depth
  := by
  induction h with
  | members _ hperm => rw [depth, depth, depthOfMembers_perm hperm]
  | member _ ih =>
      rw [depth, depth, depthOfMembers_append, depthOfMembers_append, depthOfMembers,
        depthOfMembers, ih]
  | item _ ih =>
      rw [depth, depth, depthOfList_append, depthOfList_append, depthOfList, depthOfList, ih]

/-! ### Decoders of values -/

/-- A decoder gives the same for documents of the same value. -/
def Orderless (decode : Json → Option α) : Prop :=
  ∀ ⦃v w : Json⦄, Reorders v w → decode v = decode w

theorem orderless_place (p : Place) :
  Orderless p.decode
  := fun _ _ h => Place.decode_eq_of_rewrites (h.rewrites p)

theorem orderless_string? :
  Orderless string?
  := orderless_place .string

theorem orderless_platformSet? :
  Orderless platformSet?
  := orderless_place .platforms

theorem orderless_enumeration? [Enumerated α] :
  Orderless (enumeration? Declaration.rules : Json → Option α)
  := orderless_place (.enumeration α)

theorem orderless_symbol :
  Orderless (SymbolId.ofJson? Declaration.rules)
  := orderless_place (.record .symbol)

theorem Orderless.eq_of_sameValue {decode : Json → Option α} (hdecode : Orderless decode)
    {v w : Json} (h : SameValue v w) :
  decode v = decode w
  := by
  induction h with
  | refl => rfl
  | tail _ hstep ih => rw [ih, hdecode hstep]

theorem Orderless.list? {decode : Json → Option α} (hdecode : Orderless decode) :
  Orderless (Json.list? decode)
  := by
  intro v w h
  cases h with
  | members _ _ => rfl
  | member _ => rfl
  | item h => exact mapM_replace (hdecode h)

/-- Two objects give the same for each name, up to the order of members inside of it. -/
def GiveAlike (ms ns : List (String × Json)) : Prop :=
  ∀ name, Option.Rel (Relation.ReflGen Reorders) (ms.lookup name) (ns.lookup name)

/-- The members of an object give the same however the object is reordered. -/
theorem Reorders.exists_giveAlike {ms : List (String × Json)} {w : Json}
    (h : Reorders (.object ms) w) :
  ∃ ns, w = .object ns ∧ GiveAlike ms ns
  := by
  cases h with
  | @members _ ns hnames hperm =>
      refine ⟨ns, rfl, fun name => ?_⟩
      rw [PlatformMap.lookup_eq_of_perm hnames hperm name]
      cases ns.lookup name with
      | none => exact .none
      | some v => exact .some .refl
  | @member before after name v w h =>
      -- Only the name of the member that is reordered gives another value, unless that name is
      -- given before it.
      refine ⟨_, rfl, fun other => ?_⟩
      rw [List.lookup_append, List.lookup_append, PlatformMap.lookup_cons, PlatformMap.lookup_cons]
      cases before.lookup other with
      | some v => exact .some .refl
      | none =>
          by_cases hname : other = name
          · rw [if_pos hname, if_pos hname]
            exact .some (.single h)
          · rw [if_neg hname, if_neg hname]
            cases after.lookup other with
            | none => exact .none
            | some v => exact .some .refl

namespace GiveAlike

variable {ms ns : List (String × Json)} {decode : Json → Option α}

/-- A name is given in both objects or in none, and what is decoded for it is the same. -/
theorem lookup_cases (h : GiveAlike ms ns) (hdecode : Orderless decode) (name : String) :
  (ms.lookup name = none ∧ ns.lookup name = none)
    ∨ ∃ v w, ms.lookup name = some v ∧ ns.lookup name = some w ∧ decode v = decode w
  := by
  have hname := h name
  generalize ms.lookup name = x at hname ⊢
  generalize ns.lookup name = y at hname ⊢
  cases hname with
  | none => exact .inl ⟨rfl, rfl⟩
  | some hvalue =>
      cases hvalue with
      | refl => exact .inr ⟨_, _, rfl, rfl, rfl⟩
      | single hvalue => exact .inr ⟨_, _, rfl, rfl, hdecode hvalue⟩

theorem required_eq (h : GiveAlike ms ns) (hdecode : Orderless decode) (name : String) :
  required decode ms name = required decode ns name
  := by
  obtain ⟨hms, hns⟩ | ⟨v, w, hms, hns, hvalue⟩ := h.lookup_cases hdecode name
  · rw [required, required, hms, hns]
  · rw [required, required, hms, hns]
    exact hvalue

theorem withDefault_eq (h : GiveAlike ms ns) (hdecode : Orderless decode) (default : α)
    (name : String) :
  withDefault default decode ms name = withDefault default decode ns name
  := by
  obtain ⟨hms, hns⟩ | ⟨v, w, hms, hns, hvalue⟩ := h.lookup_cases hdecode name
  · rw [withDefault, withDefault, hms, hns]
  · rw [withDefault, withDefault, hms, hns]
    exact hvalue

theorem given_eq (h : GiveAlike ms ns) (hdecode : Orderless decode) (name : String) :
  given decode ms name = given decode ns name
  := by
  apply h.withDefault_eq
  intro v w hvalue
  exact congrArg (Option.map some) (hdecode hvalue)

end GiveAlike

end Json

/-! ### Reading trees -/

namespace Enumerated

instance : Lawful TextStyle := ⟨by intro a; cases a <;> rfl⟩

instance : Lawful ContentKind := ⟨by intro a; cases a <;> rfl⟩

end Enumerated

namespace Node

/-- The styles that the members of a node give. -/
def decodeStyles (fields : List (String × Json)) : Option (List TextStyle) :=
  Json.withDefault [] (Json.list? (Json.enumeration? Declaration.rules)) fields "styles"

/-- The platforms that the members of a node give. -/
def decodePlatforms (fields : List (String × Json)) : Option PlatformSet :=
  Json.required Json.platformSet? fields "platforms"

/-- The tree that a document gives, if the document is nested less deep than the given number. -/
def decode : Nat → Json → Option Node
  | depth + 1, .object fields => do
    match ← Json.required Json.string? fields "node" with
    | "text" =>
      return text
        (← Json.required Json.string? fields "text")
        (← decodeStyles fields)
        (← decodePlatforms fields)
    | "link" =>
      return link
        (← Json.required Json.string? fields "text")
        (← Json.required (SymbolId.ofJson? Declaration.rules) fields "target")
        (← decodePlatforms fields)
    | "group" =>
      return group
        (← Json.given (Json.enumeration? Declaration.rules) fields "kind")
        (← Json.given (SymbolId.ofJson? Declaration.rules) fields "owner")
        (← decodeStyles fields)
        (← decodePlatforms fields)
        (← Json.required (Json.list? (decode depth)) fields "children")
    | _ => none
  | _, _ => none

/-- The tree that a document gives. -/
def ofJson? (j : Json) : Option Node :=
  decode (j.depth + 1) j

/-! ### Trees read back -/

section

variable {fields : List (String × Json)}

theorem decodeStyles_eq_some (styles : List TextStyle)
    (h : fields.lookup "styles" = (styleMembers styles).lookup "styles") :
  decodeStyles fields = some styles
  := by
  rw [decodeStyles, Json.withDefault, h]
  cases styles with
  | nil => rfl
  | cons s ss => exact Json.list?_list (Enumerated.enumeration?_toJson _) (s :: ss)

theorem decodePlatforms_eq_some (platforms : PlatformSet)
    (h : fields.lookup "platforms" = some (PlatformSet.toJson platforms)) :
  decodePlatforms fields = some platforms
  := Json.required_eq_some h platforms.platformSet?_toJson

end

/-- The members of a group are found under their names, whichever of them are left out. -/
structure GivesGroup (fields : List (String × Json)) (kind : Option ContentKind)
    (owner : Option SymbolId) (styles : List TextStyle) (platforms : PlatformSet)
    (children : List Node) : Prop where
  node : fields.lookup "node" = some (.string "group")
  kind : fields.lookup "kind" = kind.map Enumerated.toJson
  owner : fields.lookup "owner" = owner.map SymbolId.toJson
  styles : fields.lookup "styles" = (styleMembers styles).lookup "styles"
  platforms : fields.lookup "platforms" = some (PlatformSet.toJson platforms)
  children : fields.lookup "children" = some (.array (toJsonList children))

theorem givesGroup_toJson (kind : Option ContentKind) (owner : Option SymbolId)
    (styles : List TextStyle) (platforms : PlatformSet) (children : List Node) :
  ∃ fields, (group kind owner styles platforms children).toJson = .object fields
    ∧ GivesGroup fields kind owner styles platforms children
  := by
  refine ⟨_, rfl, ?_⟩
  -- Once it is known what is left out, each name is looked up in a list of known names.
  cases kind
  all_goals cases owner
  all_goals cases styles
  all_goals constructor
  all_goals rfl

mutual

/-- What a tree is written as gives the tree. -/
theorem decode_toJson (n : Node) {depth : Nat} (h : n.toJson.depth < depth) :
  decode depth n.toJson = some n
  := by
  obtain _ | depth := depth
  · contradiction
  cases n with
  | text t styles platforms =>
      rw [toJson, decode]
      apply bind_eq_some (Json.required_eq_some (by rfl) (Json.string?_string _))
      apply bind_eq_some (Json.required_eq_some (by rfl) (Json.string?_string t))
      apply bind_eq_some (decodeStyles_eq_some styles (by cases styles <;> rfl))
      apply bind_eq_some (decodePlatforms_eq_some platforms (by cases styles <;> rfl))
      rfl
  | link t target platforms =>
      rw [toJson, decode]
      apply bind_eq_some (Json.required_eq_some (by rfl) (Json.string?_string _))
      apply bind_eq_some (Json.required_eq_some (by rfl) (Json.string?_string t))
      apply bind_eq_some (Json.required_eq_some (by rfl) (SymbolId.ofJson?_toJson _ target))
      apply bind_eq_some (decodePlatforms_eq_some platforms (by rfl))
      rfl
  | group kind owner styles platforms children =>
      have hchildren : Json.depthOfList (toJsonList children) < depth := by
        simp only [toJson, Json.depth, Json.depthOfMembers_append, Json.depthOfMembers] at h
        omega
      obtain ⟨fields, hfields, hgroup⟩ := givesGroup_toJson kind owner styles platforms children
      rw [hfields, decode]
      apply bind_eq_some (Json.required_eq_some hgroup.node (Json.string?_string _))
      apply bind_eq_some (Json.given_eq_some hgroup.kind (Enumerated.enumeration?_toJson _))
      apply bind_eq_some (Json.given_eq_some hgroup.owner (SymbolId.ofJson?_toJson _))
      apply bind_eq_some (decodeStyles_eq_some styles hgroup.styles)
      apply bind_eq_some (decodePlatforms_eq_some platforms hgroup.platforms)
      apply bind_eq_some (Json.required_eq_some hgroup.children
        (mapM_decode_toJsonList children hchildren))
      rfl

theorem mapM_decode_toJsonList (ns : List Node) {depth : Nat}
    (h : Json.depthOfList (toJsonList ns) < depth) :
  (toJsonList ns).mapM (decode depth) = some ns
  := by
  cases ns with
  | nil => rfl
  | cons n ns =>
      obtain ⟨hn, hns⟩ := Nat.max_lt.mp h
      rw [toJsonList, List.mapM_cons]
      apply bind_eq_some (decode_toJson n hn)
      apply bind_eq_some (mapM_decode_toJsonList ns hns)
      rfl

end

theorem ofJson?_toJson (n : Node) :
  ofJson? n.toJson = some n
  := decode_toJson n (Nat.lt_succ_self _)

/-! ### Trees whatever the order of members -/

/-- What tree a document gives does not depend on the order of members. -/
theorem orderless_decode (depth : Nat) :
  Json.Orderless (decode depth)
  := by
  induction depth with
  | zero =>
      intro v w _
      rfl
  | succ depth ih =>
      intro v w h
      cases v with
      | object ms =>
          obtain ⟨ns, rfl, halike⟩ := h.exists_giveAlike
          have hstyles : decodeStyles ms = decodeStyles ns :=
            halike.withDefault_eq Json.orderless_enumeration?.list? [] "styles"
          have hplatforms : decodePlatforms ms = decodePlatforms ns :=
            halike.required_eq Json.orderless_platformSet? "platforms"
          rw [decode, decode, hstyles, hplatforms,
            halike.required_eq Json.orderless_string? "node",
            halike.required_eq Json.orderless_string? "text",
            halike.required_eq Json.orderless_symbol "target",
            halike.given_eq Json.orderless_enumeration? "kind",
            halike.given_eq Json.orderless_symbol "owner",
            halike.required_eq ih.list? "children"]
      | _ =>
          cases h
          all_goals rfl

theorem orderless_ofJson? :
  Json.Orderless ofJson?
  := by
  intro v w h
  rw [ofJson?, ofJson?, h.depth_eq, orderless_decode _ h]

/-- A tree is read from every document of the same value as its own. -/
theorem ofJson?_eq_of_sameValue (n : Node) {j : Json} (h : n.toJson.SameValue j) :
  ofJson? j = some n
  := by
  rw [← orderless_ofJson?.eq_of_sameValue h]
  apply ofJson?_toJson

end Node

/-! ### Texts of documents -/

namespace Json

/-- Documents without numbers are told apart by their texts, however deep they are nested. -/
theorem eq_of_compact_eq {i j : Json} (hi : i.NumberFree) (hj : j.NumberFree)
    (h : i.compact = j.compact) :
  i = j
  := by
  have hreadi := value_compact i hi (Nat.le_max_left i.depth j.depth) []
  have hreadj := value_compact j hj (Nat.le_max_right i.depth j.depth) []
  rw [h, hreadj] at hreadi
  injection hreadi with hread
  injection hread with hvalue
  exact hvalue.symm

end Json

namespace Node

/-! ### Documents tell trees apart -/

/-- Two trees have documents of the same value only if they are the same, and likewise documents of
the same text; and a tree is read from every document of the same value as its own. -/
theorem documents_tell_trees (a b : Node) :
  (a.toJson.SameValue b.toJson ↔ a = b)
    ∧ (a.toJson.compact = b.toJson.compact ↔ a = b)
    ∧ ∀ j, a.toJson.SameValue j → ofJson? j = some a
  := by
  have hvalue (h : a.toJson.SameValue b.toJson) : a = b := by
    have hread := ofJson?_eq_of_sameValue a h
    rw [ofJson?_toJson] at hread
    exact (Option.some.inj hread).symm
  refine ⟨⟨hvalue, ?_⟩, ⟨fun htext => hvalue ?_, ?_⟩, fun j => ofJson?_eq_of_sameValue a⟩
  · rintro rfl
    exact .refl
  · rw [Json.eq_of_compact_eq a.numberFree_toJson b.numberFree_toJson htext]
    exact .refl
  · rintro rfl
    rfl

/-- A symbol with a text and a link, in a group that belongs to nothing. -/
def boxedPoint : Node :=
  .group none none [] (OrderedSet.ofList ["jvm"])
    [.group (some .symbol) (some (.ofClass "app" "Point")) [.monospace] (OrderedSet.ofList ["jvm"])
      [.text "class " [] (OrderedSet.ofList ["jvm"]),
        .link "Point" (.ofClass "app" "Point") (OrderedSet.ofList ["jvm"])]]

/-- The document of that tree with the members of the outer group in the opposite order. -/
def boxedPointReversed : Json :=
  .object [
    ("children", .array (toJsonList boxedPoint.children)),
    ("platforms", .array [.string "jvm"]),
    ("node", .string "group")]

/-- A tree is read from its document although the members are in another order. -/
theorem documents_tell_trees_boxedPoint :
  boxedPoint.toJson.SameValue boxedPointReversed ∧ ofJson? boxedPointReversed = some boxedPoint
  := by
  have h : boxedPoint.toJson.SameValue boxedPointReversed :=
    .single (.members (by decide) (List.reverse_perm _).symm)
  exact ⟨h, (documents_tell_trees boxedPoint boxedPoint).2.2 boxedPointReversed h⟩

end Node

end PlatformSignatures
