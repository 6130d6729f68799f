import Mathlib.Logic.Relation
import PlatformSignatures.Document.Model
import PlatformSignatures.Proofs.JsonText
import PlatformSignatures.Proofs.ReadingFields

/-!
# Documents written in other ways

What a document is read as does not depend on how it is written.  In each place of it the members
of an object may be put into another order, members that are no fields may be added, and fields may
be left out whose value is what is taken for them then.  The whole of a document is an exception: it
has no other member than its declarations.

This is shown for one change in one place, by induction on where that place is.  At the place itself
the change makes no difference to how each field is read; around it the values that are decoded from
the changed part are the same.
-/

namespace PlatformSignatures

/-! ### Changes of a document -/

namespace Place

/-- The value in a place is written in another way. -/
inductive Rewrites : Place → Json → Json → Prop where
  /-- The members of an object are put into another order. -/
  | reorder {p : Place} {ms ns : List (String × Json)} (hnames : (ms.map (·.1)).Nodup)
      (hperm : ms.Perm ns) :
    Rewrites p (.object ms) (.object ns)
  /-- A member is added to an object with fields that is none of them. -/
  | add {p : Place} {before after : List (String × Json)} {fields : List Field} {name : String}
      (value : Json) (hfields : p.fields (before ++ after) = some fields)
      (hname : ∀ f ∈ fields, f.name ≠ name) :
    Rewrites p (.object (before ++ after)) (.object (before ++ (name, value) :: after))
  /-- A field is left out whose value is what is taken when it is left out. -/
  | leaveOut {p : Place} {before after : List (String × Json)} {fields : List Field} {f : Field}
      {value : Json} (hfields : p.fields (before ++ (f.name, value) :: after) = some fields)
      (hf : f ∈ fields) (hdefault : f.IsDefault value)
      (hname : f.name ∉ (before ++ after).map (·.1)) :
    Rewrites p (.object (before ++ (f.name, value) :: after)) (.object (before ++ after))
  /-- The value of a member is written in another way. -/
  | member {p : Place} {before after : List (String × Json)} {name : String} {v w : Json}
      (h : Rewrites (p.member (before ++ (name, v) :: after) name) v w) :
    Rewrites p (.object (before ++ (name, v) :: after)) (.object (before ++ (name, w) :: after))
  /-- An item of an array is written in another way. -/
  | item {p : Place} {before after : List Json} {v w : Json}
      (h : Rewrites (p.item (before ++ v :: after) before.length) v w) :
    Rewrites p (.array (before ++ v :: after)) (.array (before ++ w :: after))

namespace Rewrites

variable {p : Place} {v w : Json}

theorem ne_null_left (h : Rewrites p v w) :
  v ≠ .null
  := by
  cases h
  all_goals exact Json.noConfusion

theorem ne_null_right (h : Rewrites p v w) :
  w ≠ .null
  := by
  cases h
  all_goals exact Json.noConfusion

/-- No value that is written in another way is a kind. -/
theorem kindAtHead?_eq (h : Rewrites p v w) (kinds : List String) :
  Json.kindAtHead? Declaration.rules kinds v = Json.kindAtHead? Declaration.rules kinds w
  := by
  cases h
  all_goals rfl

theorem string?_eq (h : Rewrites p v w) :
  v.string? = w.string?
  := by
  cases h
  all_goals rfl

/-- What is no payload stays none. -/
theorem isBlank_eq (h : Rewrites ignored v w) :
  Declaration.rules.isBlank v = Declaration.rules.isBlank w
  := by
  cases h with
  | @reorder _ ms ns _ hperm =>
      obtain _ | ⟨m, ms⟩ := ms
      · obtain rfl := hperm.nil_eq
        rfl
      · obtain _ | ⟨n, ns⟩ := ns
        · obtain ⟨⟩ := hperm.eq_nil
        · rfl
  | add _ hfields _ => contradiction
  | leaveOut hfields _ _ _ => contradiction
  | @member _ before after _ _ _ _ =>
      cases before
      all_goals rfl
  | item _ => rfl

end Rewrites

/-! ### One change of an object with fields -/

theorem nodup_fields {p : Place} {ms : List (String × Json)} {fields : List Field}
    (h : p.fields ms = some fields) :
  (fields.map (·.name)).Nodup
  := by
  cases p with
  | record r =>
      obtain rfl := Option.some.inj h
      apply r.nodup_names
  | type =>
      obtain rfl := Option.some.inj h
      rw [List.map_cons, List.map_singleton, TypeExpr.valueField_name]
      decide
  | annotationValue =>
      obtain rfl := Option.some.inj h
      rw [List.map_cons, List.map_singleton, AnnotationValue.valueField_name]
      decide
  | declaration =>
      obtain rfl := Option.some.inj h
      rw [List.map_cons, List.nodup_cons]
      cases recordGiven? ms with
      | none => exact ⟨List.not_mem_nil, List.nodup_nil⟩
      | some r => exact ⟨r.1.declaration_notMem_names, r.1.nodup_names⟩
  | _ => contradiction

end Place

namespace Field

variable {f : Field} {ms ns before after : List (String × Json)} {name : String} {value : Json}

theorem alike_of_perm (hnames : (ms.map (·.1)).Nodup) (hperm : ms.Perm ns) :
  f.Alike ms ns
  where
  atMostOnce := by
    rw [AtMostOnce, AtMostOnce, (hperm.map _).count_eq]
  reads := readsAlike_of_lookup_eq (PlatformMap.lookup_eq_of_perm hnames hperm f.name)

/-- A member with another name makes no difference to a field. -/
theorem alike_add (h : f.name ≠ name) :
  f.Alike (before ++ after) (before ++ (name, value) :: after)
  where
  atMostOnce := by
    rw [AtMostOnce, AtMostOnce, List.map_append, List.map_append, List.map_cons,
      List.count_append, List.count_append, List.count_cons_of_ne h.symm]
  reads := by
    apply readsAlike_of_lookup_eq
    rw [List.lookup_append, List.lookup_append, PlatformMap.lookup_cons, if_neg h]

theorem Alike.symm (h : f.Alike ms ns) :
  f.Alike ns ms
  where
  atMostOnce := h.atMostOnce.symm
  reads := by
    obtain ⟨name, place, presence⟩ := f
    cases presence
    all_goals exact Eq.symm h.reads

/-- A field that is left out is read as before if its value is what is taken then. -/
theorem alike_leaveOut (hdefault : f.IsDefault value)
    (hname : f.name ∉ (before ++ after).map (·.1)) :
  f.Alike (before ++ (f.name, value) :: after) (before ++ after)
  where
  atMostOnce := by
    have hcount := List.count_eq_zero_of_not_mem hname
    rw [List.map_append, List.count_append] at hcount
    rw [AtMostOnce, AtMostOnce, List.map_append, List.map_append, List.map_cons,
      List.count_append, List.count_append, List.count_cons_self]
    omega
  reads := by
    have hnone : (before ++ after).lookup f.name = none := by
      rw [List.lookup_eq_none_iff]
      intro m hm
      rw [bne_iff_ne]
      rintro heq
      apply hname (List.mem_map.mpr ⟨m, hm, heq.symm⟩)
    rw [List.lookup_append, Option.or_eq_none_iff] at hnone
    apply hdefault.readsAlike
    · rw [List.lookup_append, hnone.1, PlatformMap.lookup_cons, if_pos rfl]
      rfl
    · rw [List.lookup_append, hnone.1, hnone.2]
      rfl

/-- A member that is decoded as before makes no difference to a field. -/
theorem alike_member {v w : Json} (h : f.name = name → f.place.decode v = f.place.decode w)
    (hv : v ≠ .null) (hw : w ≠ .null) :
  f.Alike (before ++ (name, v) :: after) (before ++ (name, w) :: after)
  where
  atMostOnce := by
    rw [AtMostOnce, AtMostOnce, List.map_append, List.map_append, List.map_cons, List.map_cons]
  reads := by
    cases hbefore : before.lookup f.name with
    | some x =>
        apply readsAlike_of_lookup_eq
        rw [List.lookup_append, List.lookup_append, hbefore]
        rfl
    | none =>
        by_cases hname : f.name = name
        · apply readsAlike_of_decode_eq (v := v) (w := w) _ _ (h hname) hv hw
          · rw [List.lookup_append, hbefore, PlatformMap.lookup_cons, if_pos hname]
            rfl
          · rw [List.lookup_append, hbefore, PlatformMap.lookup_cons, if_pos hname]
            rfl
        · apply readsAlike_of_lookup_eq
          rw [List.lookup_append, List.lookup_append, PlatformMap.lookup_cons,
            PlatformMap.lookup_cons, if_neg hname, if_neg hname]

end Field

/-! ### One change of an object or an array -/

theorem mapM_replace {α β : Type} {f : α → Option β} {before after : List α} {v w : α}
    (h : f v = f w) :
  (before ++ v :: after).mapM f = (before ++ w :: after).mapM f
  := by
  rw [List.mapM_append, List.mapM_append, List.mapM_cons, List.mapM_cons, h]

/-- Decoding the items of a list one by one, in whatever order, gives the same in that order. -/
theorem mapM_perm {α β : Type} {f : α → Option β} {as bs : List α} (hperm : as.Perm bs) :
  Option.Rel List.Perm (as.mapM f) (bs.mapM f)
  := by
  induction hperm with
  | nil => exact .some .nil
  | @cons x as bs _ ih =>
      rw [List.mapM_cons, List.mapM_cons]
      generalize as.mapM f = y at ih ⊢
      generalize bs.mapM f = z at ih ⊢
      cases f x with
      | none => exact .none
      | some b =>
          cases ih with
          | none => exact .none
          | some h => exact .some (h.cons b)
  | swap x y l =>
      simp only [List.mapM_cons]
      cases f x with
      | none =>
          cases f y
          all_goals exact .none
      | some b =>
          cases f y with
          | none => exact .none
          | some c =>
              cases l.mapM f with
              | none => exact .none
              | some bs => exact .some (.swap b c bs)
  | @trans as bs cs _ _ ih ih' =>
      generalize as.mapM f = x at ih ⊢
      generalize bs.mapM f = y at ih ih'
      generalize cs.mapM f = z at ih' ⊢
      cases ih with
      | none => exact ih'
      | some h =>
          cases ih' with
          | some h' => exact .some (h.trans h')

theorem map_fst_of_mapM {α : Type} {decode : Json → Option α} {ms : List (String × Json)}
    {entries : List (Platform × α)}
    (h : ms.mapM (fun m => (decode m.2).map fun a => (m.1, a)) = some entries) :
  entries.map (·.1) = ms.map (·.1)
  := by
  induction ms generalizing entries with
  | nil =>
      obtain rfl := Option.some.inj h
      rfl
  | cons m ms ih =>
      rw [List.mapM_cons] at h
      obtain ⟨e, he, h⟩ := Option.bind_eq_some_iff.mp h
      obtain ⟨es, hes, h⟩ := Option.bind_eq_some_iff.mp h
      obtain ⟨a, -, rfl⟩ := Option.map_eq_some_iff.mp he
      obtain rfl := Option.some.inj h
      rw [List.map_cons, List.map_cons, ih hes]

theorem platformMap?_reorder {α : Type} (decode : Json → Option α) {ms ns : List (String × Json)}
    (hnames : (ms.map (·.1)).Nodup) (hperm : ms.Perm ns) :
  Json.platformMap? decode (.object ms) = Json.platformMap? decode (.object ns)
  := by
  let entry (m : String × Json) : Option (Platform × α) := (decode m.2).map fun a => (m.1, a)
  have h : Option.Rel List.Perm (ms.mapM entry) (ns.mapM entry) := mapM_perm hperm
  change Option.bind (ms.mapM entry) _ = Option.bind (ns.mapM entry) _
  generalize hms : ms.mapM entry = es at h ⊢
  generalize ns.mapM entry = es' at h ⊢
  cases h with
  | none => rfl
  | some h =>
      apply congrArg some
      apply PlatformMap.ofList_eq_of_perm _ h
      rw [map_fst_of_mapM hms]
      exact hnames

theorem enumerationName?_eq_none (rules : Json.Rules) {ms : List (String × Json)}
    (h : ms.length ≠ 1) :
  Json.enumerationName? rules (.object ms) = none
  := by
  match ms with
  | [] => rfl
  | [_] => contradiction
  | _ :: _ :: _ => rfl

theorem enumerationName?_reorder (rules : Json.Rules) {ms ns : List (String × Json)}
    (hperm : ms.Perm ns) :
  Json.enumerationName? rules (.object ms) = Json.enumerationName? rules (.object ns)
  := by
  by_cases h : ms.length = 1
  · obtain ⟨m, rfl⟩ := List.length_eq_one_iff.mp h
    obtain rfl := hperm.singleton_eq
    rfl
  · rw [enumerationName?_eq_none rules h, enumerationName?_eq_none rules (hperm.length_eq ▸ h)]

theorem enumerationName?_member (rules : Json.Rules) {before after : List (String × Json)}
    (name : String) {v w : Json} (h : rules.isBlank v = rules.isBlank w) :
  Json.enumerationName? rules (.object (before ++ (name, v) :: after))
    = Json.enumerationName? rules (.object (before ++ (name, w) :: after))
  := by
  match before, after with
  | [], [] =>
      change (if rules.isBlank v then some name else none) = if rules.isBlank w then _ else _
      rw [h]
  | [], _ :: _ => rfl
  | _ :: before, _ =>
      cases before
      all_goals rfl

namespace Place

/-- The order of the members of an object makes no difference. -/
theorem decode_reorder (p : Place) {ms ns : List (String × Json)} (hnames : (ms.map (·.1)).Nodup)
    (hperm : ms.Perm ns) :
  p.decode (.object ms) = p.decode (.object ns)
  := by
  cases hfields : p.fields ms with
  | some fields =>
      apply decode_object_eq hfields
      intro f _
      apply Field.alike_of_perm hnames hperm
  | none =>
      cases p with
      | platformMap p => exact platformMap?_reorder p.decode hnames hperm
      | kind => exact enumerationName?_reorder Declaration.rules hperm
      | enumeration α =>
          exact congrArg (Option.bind · _) (enumerationName?_reorder Declaration.rules hperm)
      | record r => contradiction
      | type => contradiction
      | annotationValue => contradiction
      | declaration => contradiction
      | _ => rfl

theorem member_eq {p : Place} {ms : List (String × Json)} {fields : List Field}
    (hfields : p.fields ms = some fields) {f : Field} (hf : f ∈ fields) :
  p.member ms f.name = f.place
  := by
  unfold member
  rw [hfields]
  cases hg : fields.find? (·.name == f.name) with
  | none =>
      have hnot := List.find?_eq_none.mp hg f hf
      rw [beq_self_eq_true] at hnot
      contradiction
  | some g =>
      have hname := List.find?_some hg
      rw [beq_iff_eq] at hname
      obtain rfl := List.inj_on_of_nodup_map (nodup_fields hfields) (List.mem_of_find?_eq_some hg)
        hf hname
      exact congrArg (fun found => (found.map Field.place).getD ignored) hg

/-- A member whose value is decoded as before makes no difference. -/
theorem decode_member {p : Place} {before after : List (String × Json)} {name : String}
    {v w : Json} (h : Rewrites (p.member (before ++ (name, v) :: after) name) v w)
    (hdecode : (p.member (before ++ (name, v) :: after) name).decode v
      = (p.member (before ++ (name, v) :: after) name).decode w) :
  p.decode (.object (before ++ (name, v) :: after))
    = p.decode (.object (before ++ (name, w) :: after))
  := by
  cases hfields : p.fields (before ++ (name, v) :: after) with
  | some fields =>
      apply decode_object_eq hfields
      intro f hf
      apply Field.alike_member _ h.ne_null_left h.ne_null_right
      rintro rfl
      rw [member_eq hfields hf] at hdecode
      exact hdecode
  | none =>
      cases p with
      | platformMap p =>
          have hentry := congrArg (Option.map fun a => (name, a)) hdecode
          exact congrArg (Option.bind · _) (mapM_replace hentry)
      | kind => exact enumerationName?_member Declaration.rules name h.isBlank_eq
      | enumeration α =>
          exact congrArg (Option.bind · _)
            (enumerationName?_member Declaration.rules name h.isBlank_eq)
      | record r => contradiction
      | type => contradiction
      | annotationValue => contradiction
      | declaration => contradiction
      | _ => rfl

/-- An item that is decoded as before makes no difference. -/
theorem decode_item {p : Place} {before after : List Json} {v w : Json}
    (h : Rewrites (p.item (before ++ v :: after) before.length) v w)
    (hdecode : (p.item (before ++ v :: after) before.length).decode v
      = (p.item (before ++ v :: after) before.length).decode w) :
  p.decode (.array (before ++ v :: after)) = p.decode (.array (before ++ w :: after))
  := by
  cases p with
  | platforms => exact congrArg (Option.bind · _) (mapM_replace hdecode)
  | list p => exact mapM_replace hdecode
  | pair p q =>
      apply pair?_array_eq
      · intro hzero
        rw [item, if_pos hzero] at hdecode
        exact hdecode
      · intro hne
        rw [item, if_neg hne] at hdecode
        exact hdecode
  | record r => exact r.decode_array_eq hdecode h.ne_null_left h.ne_null_right
  | type =>
      apply TypeExpr.tagging.decode_array_eq _ _ h.ne_null_left h.ne_null_right
      · intro _
        apply h.kindAtHead?_eq
      · intro hne
        rw [item, if_neg hne] at hdecode
        exact hdecode
  | annotationValue =>
      apply AnnotationValue.tagging.decode_array_eq _ _ h.ne_null_left h.ne_null_right
      · intro _
        apply h.kindAtHead?_eq
      · intro hne
        rw [item, if_neg hne] at hdecode
        exact hdecode
  | declaration =>
      cases before with
      | nil => exact congrArg (Option.bind · _) h.string?_eq
      | cons head before =>
          apply Option.bind_congr
          intro name hname
          rw [Declaration.ofRecord?_eq, Declaration.ofRecord?_eq]
          apply Option.bind_congr
          intro r hr
          apply congrArg
          have hitem : declaration.item (head :: before ++ v :: after) (head :: before).length
              = atPosition r.1.fields before.length := by
            change (head.string?.bind Declaration.recordOf?).elim _ _ = _
            rw [hname, Option.bind_some, hr]
            rfl
          rw [hitem] at hdecode
          apply r.1.decode_array_eq hdecode h.ne_null_left h.ne_null_right
  | _ => rfl

/-- What is decoded does not depend on how the value in a place is written. -/
theorem decode_eq_of_rewrites {p : Place} {i j : Json} (h : Rewrites p i j) :
  p.decode i = p.decode j
  := by
  induction h with
  | reorder hnames hperm => apply decode_reorder _ hnames hperm
  | add value hfields hname =>
      apply decode_object_eq hfields
      intro f hf
      apply Field.alike_add (hname f hf)
  | @leaveOut p before after fields f value hfields hf hdefault hname =>
      apply decode_object_eq hfields
      intro g hg
      by_cases hgf : g = f
      · subst hgf
        apply Field.alike_leaveOut hdefault hname
      · apply (Field.alike_add _).symm
        intro heq
        apply hgf
        apply List.inj_on_of_nodup_map (nodup_fields hfields) hg hf heq
  | member h ih => apply decode_member h ih
  | item h ih => apply decode_item h ih

end Place

/-! ### Models -/

namespace Model

/-- A document of a model is written in another way.  There is one member in it, which may not be
joined by others. -/
inductive Rewrites : Json → Json → Prop where
  /-- The list of declarations is written in another way. -/
  | declarations {v w : Json} (h : Place.Rewrites (.list .declaration) v w) :
    Rewrites (.object [("declarations", v)]) (.object [("declarations", w)])
  /-- An empty list of declarations is left out. -/
  | leaveOut {v : Json} (h : (Place.list .declaration).decode v = some []) :
    Rewrites (.object [("declarations", v)]) (.object [])
  /-- The list of declarations is written in another way where it is not named. -/
  | item {v w : Json} (h : Place.Rewrites (.list .declaration) v w) :
    Rewrites (.array [v]) (.array [w])

theorem ofDeclarations_some (j : Json) :
  ofDeclarations (some j)
    = ((Place.list .declaration).decode j).elim (.error .shape) fun ds => .ok ⟨ds⟩
  := by
  unfold ofDeclarations
  change (match (Place.list .declaration).decode j with | some ds => _ | none => _) = _
  cases (Place.list .declaration).decode j
  all_goals rfl

/-- A document of a model is read alike however it is written. -/
theorem ofJson_eq_of_rewrites {i j : Json} (h : Rewrites i j) :
  ofJson i = ofJson j
  := by
  cases h with
  | declarations h =>
      rw [ofJson, ofJson, ofDeclarations_some, ofDeclarations_some, Place.decode_eq_of_rewrites h]
  | leaveOut h =>
      rw [ofJson, ofJson, ofDeclarations_some, h]
      rfl
  | item h =>
      rw [ofJson, ofJson, ofDeclarations_some, ofDeclarations_some, Place.decode_eq_of_rewrites h]

/-- An object with a member that is not the list of declarations is no model. -/
theorem ofJson_eq_shape {ms : List (String × Json)} (h : ∃ m ∈ ms, m.1 ≠ "declarations") :
  ofJson (.object ms) = .error .shape
  := by
  unfold ofJson
  split
  all_goals simp_all

/-- A document of a model is read alike however often it is written in another way. -/
theorem ofJson_eq_of_reflTransGen {i j : Json} (h : Relation.ReflTransGen Rewrites i j) :
  ofJson i = ofJson j
  := by
  induction h with
  | refl => rfl
  | tail _ hstep ih => rw [ih, ofJson_eq_of_rewrites hstep]

/-- A text of a model that is another text written in other ways gives the same.  A text gives no
model when a member is added to the whole of it. -/
theorem read_rewritten {text text' : String} {i j : Json} (hi : Json.read text = .ok i)
    (hj : Json.read text' = .ok j) :
  (Relation.ReflTransGen Rewrites i j → read text' = read text)
    ∧ ∀ before after name value, i = .object (before ++ after) →
      j = .object (before ++ (name, value) :: after) → name ≠ "declarations" →
        read text' = .error .shape
  := by
  constructor
  · intro h
    rw [read, read, hi, hj]
    exact (ofJson_eq_of_reflTransGen h).symm
  · rintro before after name value - rfl hname
    rw [read, hj]
    apply ofJson_eq_shape
    refine ⟨(name, value), ?_, hname⟩
    apply List.mem_append_right before List.mem_cons_self

/-- The document of a model with one declaration, by the members of the declaration. -/
def documentOf (members : List (String × Json)) : Json :=
  .object [("declarations", .array [.object members])]

theorem Rewrites.documentOf {ms ns : List (String × Json)}
    (h : Place.Rewrites .declaration (.object ms) (.object ns)) :
  Rewrites (documentOf ms) (documentOf ns)
  := .declarations (@Place.Rewrites.item _ [] [] _ _ h)

/-- The members of an entry of an enum. -/
def redMembers : List (String × Json) :=
  [("declaration", .string "enum-entry"), ("id", .object [("callable", .string "RED")]),
    ("name", .string "RED"), ("platforms", .array [.string "jvm"])]

/-- A member that is no field of an entry of an enum may be added to its members. -/
theorem rewrites_enumEntry {before after : List (String × Json)} {name : String} (value : Json)
    (hkind : (before ++ after).lookup "declaration" = some (.string "enum-entry"))
    (hname : name ∉ "declaration" :: Record.enumEntry.names) :
  Place.Rewrites .declaration (.object (before ++ after))
    (.object (before ++ (name, value) :: after))
  := by
  have hfields : Place.declaration.fields (before ++ after)
      = some (.declaration :: Record.enumEntry.fields) := by
    rw [Place.fields, Place.recordGiven?, Json.required, hkind]
    rfl
  apply Place.Rewrites.add value hfields
  rintro f hf rfl
  apply hname (List.mem_map_of_mem hf)

/-- An entry of an enum is the same in another order, without its facets, and with a member that is
no field. -/
theorem read_rewritten_red :
  Relation.ReflTransGen Rewrites (documentOf (redMembers ++ [("extras", .object [])]))
      (documentOf (("note", .bool true) :: redMembers.reverse))
    ∧ read (documentOf (("note", .bool true) :: redMembers.reverse)).compact
      = read (documentOf (redMembers ++ [("extras", .object [])])).compact
  := by
  have hfacets : Place.Rewrites .declaration (.object (redMembers ++ [("extras", .object [])]))
      (.object (redMembers ++ [])) := by
    have hfields : Place.declaration.fields (redMembers ++ [("extras", .object [])])
      = some (.declaration :: Record.enumEntry.fields) := rfl
    have hmem : Field.facets ∈ Record.enumEntry.fields := by
      simp [Record.fields]
    exact @Place.Rewrites.leaveOut _ redMembers [] _ .facets _ hfields
      (List.mem_cons_of_mem _ hmem) rfl (by decide)
  have horder : Place.Rewrites .declaration (.object (redMembers ++ []))
      (.object redMembers.reverse) :=
    .reorder (by decide) (List.reverse_perm redMembers).symm
  have hnote : Place.Rewrites .declaration (.object redMembers.reverse)
      (.object (("note", .bool true) :: redMembers.reverse)) :=
    @rewrites_enumEntry [] redMembers.reverse _ _ rfl (by decide)
  have h : Relation.ReflTransGen Rewrites _ _ :=
    .tail (.tail (.single (.documentOf hfacets)) (.documentOf horder)) (.documentOf hnote)
  have hi : (documentOf (redMembers ++ [("extras", .object [])])).NumberFree := by
    simp [documentOf, redMembers, Json.NumberFree, Json.NumberFreeMembers, Json.NumberFreeList]
  have hj : (documentOf (("note", .bool true) :: redMembers.reverse)).NumberFree := by
    simp [documentOf, redMembers, Json.NumberFree, Json.NumberFreeMembers, Json.NumberFreeList]
  exact ⟨h, (read_rewritten (Json.read_compact hi (by decide))
    (Json.read_compact hj (by decide))).1 h⟩

/-- A member that is no field makes a text unreadable if its value is a number that is too large,
although nothing in the text is nested too deep. -/
theorem read_rewritten_overflowing :
  Relation.ReflTransGen Rewrites (documentOf (redMembers ++ []))
      (documentOf (redMembers ++ [("weight", .number "1e999")]))
    ∧ (documentOf (redMembers ++ [("weight", .number "1e999")])).depth ≤ Json.maxDepth
    ∧ read (documentOf (redMembers ++ [])).compact
      = .ok ⟨[.enumEntry {
          id := ⟨none, none, some "RED"⟩
          name := "RED"
          platforms := OrderedSet.ofList ["jvm"] }]⟩
    ∧ read (documentOf (redMembers ++ [("weight", .number "1e999")])).compact
      = .error (.text .malformed)
  := by
  have hweight : Place.Rewrites .declaration (.object (redMembers ++ []))
      (.object (redMembers ++ [("weight", .number "1e999")])) :=
    @rewrites_enumEntry redMembers [] _ _ rfl (by decide)
  refine ⟨.single (.documentOf hweight), by decide, ?_, ?_⟩
  · decide +kernel
  · decide +kernel

end Model

end PlatformSignatures
