import Mathlib.Data.List.Nodup
import PlatformSignatures.Proofs.DocumentPlaces
import PlatformSignatures.Proofs.PlatformMaps

/-!
# Reading fields

Two objects may have different members and yet be decoded alike.  They are if each field of the
place is read alike from them, and is given twice in both or in none.
-/

namespace PlatformSignatures

/-- Members that are left out for their names make no difference to the other names. -/
theorem lookup_filter {p : String → Bool} {name : String} (h : p name = true)
    (ms : List (String × Json)) :
  (ms.filter fun m => p m.1).lookup name = ms.lookup name
  := by
  induction ms with
  | nil => rfl
  | cons m ms ih =>
      obtain ⟨other, v⟩ := m
      rw [List.filter_cons]
      split
      case isTrue => rw [PlatformMap.lookup_cons, PlatformMap.lookup_cons, ih]
      case isFalse hother =>
        have hne : name ≠ other := by
          rintro rfl
          contradiction
        rw [PlatformMap.lookup_cons, if_neg hne, ih]

/-! ### Fields that are read alike -/

namespace Field

/-- A field is given at most once. -/
def AtMostOnce (f : Field) (ms : List (String × Json)) : Prop :=
  (ms.map (·.1)).count f.name ≤ 1

/-- A field is read alike from two lists of members and given twice in both or in none. -/
structure Alike (f : Field) (ms ns : List (String × Json)) : Prop where
  atMostOnce : f.AtMostOnce ms ↔ f.AtMostOnce ns
  reads : f.ReadsAlike ms ns

variable {f : Field} {ms ns : List (String × Json)}

theorem ReadsAlike.of_lookup_eq {ms' ns' : List (String × Json)} (h : f.ReadsAlike ms ns)
    (hms : ms.lookup f.name = ms'.lookup f.name) (hns : ns.lookup f.name = ns'.lookup f.name) :
  f.ReadsAlike ms' ns'
  := by
  unfold ReadsAlike Json.optional Json.withDefault Json.required at *
  rw [← hms, ← hns]
  exact h

theorem ReadsAlike.refl (f : Field) (ms : List (String × Json)) :
  f.ReadsAlike ms ms
  := by
  unfold ReadsAlike
  split
  all_goals rfl

theorem readsAlike_of_lookup_eq (h : ms.lookup f.name = ns.lookup f.name) :
  f.ReadsAlike ms ns
  := (ReadsAlike.refl f ms).of_lookup_eq rfl h

end Field

theorem Json.option?_of_ne_null {α : Type} {decode : Json → Option α} {v : Json} (h : v ≠ .null) :
  option? decode v = (decode v).map some
  := by
  cases v with
  | null => contradiction
  | _ => rfl

theorem Field.readsAlike_of_decode_eq {f : Field} {ms ns : List (String × Json)} {v w : Json}
    (hms : ms.lookup f.name = some v) (hns : ns.lookup f.name = some w)
    (h : f.place.decode v = f.place.decode w) (hv : v ≠ .null) (hw : w ≠ .null) :
  f.ReadsAlike ms ns
  := by
  unfold ReadsAlike Json.optional Json.withDefault Json.required
  rw [hms, hns]
  split
  · exact h
  · exact h
  · change Json.option? _ v = Json.option? _ w
    rw [Json.option?_of_ne_null hv, Json.option?_of_ne_null hw, h]

theorem Field.IsDefault.readsAlike {f : Field} {ms ns : List (String × Json)} {v : Json}
    (hv : f.IsDefault v) (hms : ms.lookup f.name = some v) (hns : ns.lookup f.name = none) :
  f.ReadsAlike ms ns
  := by
  obtain ⟨name, place, presence⟩ := f
  unfold ReadsAlike Json.optional Json.withDefault
  rw [hms, hns]
  cases presence with
  | required => contradiction
  | default a => exact hv
  | optional =>
      obtain rfl : v = .null := hv
      rfl

/-! ### Objects -/

theorem count_filter {p : String → Bool} {name : String} (h : p name = true)
    (ms : List (String × Json)) :
  ((ms.filter fun m => p m.1).map (·.1)).count name = (ms.map (·.1)).count name
  := by
  have hfilter : (ms.filter fun m => p m.1).map (·.1) = (ms.map (·.1)).filter p := by
    rw [List.filter_map]
    rfl
  rw [hfilter, List.count_filter h]

/-- No field is given twice if each is given at most once. -/
theorem nodup_given_iff (names : List String) (ms : List (String × Json)) :
  ((ms.filter fun m => names.contains m.1).map (·.1)).Nodup
    ↔ ∀ name ∈ names, (ms.map (·.1)).count name ≤ 1
  := by
  rw [List.nodup_iff_count_le_one]
  constructor
  · intro h name hname
    rw [← count_filter (List.contains_iff_mem.mpr hname)]
    apply h
  · intro h name
    by_cases hname : names.contains name = true
    · rw [count_filter hname]
      apply h name (List.contains_iff_mem.mp hname)
    · rw [List.count_eq_zero_of_not_mem]
      · apply Nat.zero_le
      · intro hmem
        obtain ⟨m, hm, rfl⟩ := List.mem_map.mp hmem
        apply hname (List.mem_filter.mp hm).2

theorem Field.Alike.filter {f : Field} {ms ns : List (String × Json)} (h : f.Alike ms ns)
    {p : String → Bool} (hp : p f.name = true) :
  f.Alike (ms.filter fun m => p m.1) (ns.filter fun m => p m.1)
  where
  atMostOnce := by
    rw [AtMostOnce, AtMostOnce, count_filter hp, count_filter hp]
    exact h.atMostOnce
  reads := h.reads.of_lookup_eq (lookup_filter hp ms).symm (lookup_filter hp ns).symm

theorem objectRecord?_eq (names : List String) (ms : List (String × Json)) :
  Json.objectRecord? names (.object ms)
    = if ∀ name ∈ names, (ms.map (·.1)).count name ≤ 1
      then some (ms.filter fun m => names.contains m.1) else none
  := by
  rw [Json.objectRecord?]
  simp only [nodup_given_iff]

/-- The members of an object that are fields. -/
def givenFields (fields : List Field) (ms : List (String × Json)) : List (String × Json) :=
  ms.filter fun m => (fields.map (·.name)).contains m.1

theorem lookup_givenFields {fields : List Field} {f : Field} (hf : f ∈ fields)
    (ms : List (String × Json)) :
  (givenFields fields ms).lookup f.name = ms.lookup f.name
  := lookup_filter (List.contains_iff_mem.mpr (List.mem_map_of_mem hf)) ms

section

variable {fields : List Field} {ms ns : List (String × Json)}

theorem Field.Alike.givenFields {f : Field} (h : f.Alike ms ns) (hf : f ∈ fields) :
  f.Alike (givenFields fields ms) (givenFields fields ns)
  := h.filter (List.contains_iff_mem.mpr (List.mem_map_of_mem hf))

/-- Of two objects from which all fields are read alike, both give a field twice or none does. -/
theorem objectRecord?_bind_eq (h : ∀ f ∈ fields, f.Alike ms ns) {α : Type}
    {build : List (String × Json) → Option α}
    (hbuild : build (givenFields fields ms) = build (givenFields fields ns)) :
  (Json.objectRecord? (fields.map (·.name)) (.object ms)).bind build
    = (Json.objectRecord? (fields.map (·.name)) (.object ns)).bind build
  := by
  have honce : (∀ name ∈ fields.map (·.name), (ms.map (·.1)).count name ≤ 1)
      ↔ ∀ name ∈ fields.map (·.name), (ns.map (·.1)).count name ≤ 1 := by
    rw [List.forall_mem_map, List.forall_mem_map]
    exact forall₂_congr fun f hf => (h f hf).atMostOnce
  rw [objectRecord?_eq, objectRecord?_eq]
  by_cases hms : ∀ name ∈ fields.map (·.name), (ms.map (·.1)).count name ≤ 1
  · rw [if_pos hms, if_pos (honce.mp hms)]
    exact hbuild
  · rw [if_neg hms, if_neg fun hns => hms (honce.mpr hns)]

/-- Objects from which all fields of a record are read alike stand for the same. -/
theorem Record.decode_object_eq (r : Record) (h : ∀ f ∈ r.fields, f.Alike ms ns) :
  r.decode (.object ms) = r.decode (.object ns)
  := by
  have hgiven (ms : List (String × Json)) :
      r.given? (.object ms) = Json.objectRecord? r.names (.object ms) := by
    cases r
    all_goals rfl
  obtain ⟨build, hdecode, hbuild⟩ := r.exists_build
  rw [hdecode, hdecode, hgiven, hgiven]
  apply objectRecord?_bind_eq h
  apply hbuild
  intro f hf
  apply ((h f hf).givenFields hf).reads

end

/-! ### Objects with a kind -/

theorem rulesForValue_eq (ms : List (String × Json)) :
  Json.rulesForValue Declaration.rules ms = Declaration.rules
  := by
  unfold Json.rulesForValue
  split
  all_goals rfl

section

variable {α : Type} {t : Tagging α}

/-- An object with a kind is decoded by the value that is given with the kind. -/
theorem Tagging.ofJson?_object (ms : List (String × Json)) :
  t.ofJson? Declaration.rules (.object ms)
    = (Json.objectRecord? ["kind", "value"] (.object ms)).bind fun given =>
      (Json.required (Json.enumerationName? Declaration.rules) given "kind").bind fun kind =>
        t.ofKind? Declaration.rules (t.ofJson? Declaration.rules) kind (given.lookup "value")
  := by
  rw [t.ofJson?_eq]
  change ((Json.objectRecord? _ _).bind fun given =>
    (Json.required (Json.enumerationName? Declaration.rules) given "kind").bind fun kind =>
      some (kind, given.lookup "value", Json.rulesForValue _ given)).bind _ = _
  simp only [Option.bind_assoc, Option.bind_some, rulesForValue_eq]

/-- Objects from which the kind and the value for it are read alike stand for the same. -/
theorem Tagging.decode_object_eq {ms ns : List (String × Json)}
    (h : ∀ f ∈ [.kind, t.valueField (Place.kindGiven ms)], f.Alike ms ns) :
  t.ofJson? Declaration.rules (.object ms) = t.ofJson? Declaration.rules (.object ns)
  := by
  have hnames : ["kind", "value"]
      = [.kind, t.valueField (Place.kindGiven ms)].map Field.name := by
    rw [List.map_cons, List.map_singleton, t.valueField_name]
    rfl
  rw [ofJson?_object, ofJson?_object, hnames]
  apply objectRecord?_bind_eq h
  have hkind : Field.kind ∈ [Field.kind, t.valueField (Place.kindGiven ms)] :=
    List.mem_cons_self
  have hvalue : t.valueField (Place.kindGiven ms)
      ∈ [Field.kind, t.valueField (Place.kindGiven ms)] :=
    List.mem_cons_of_mem _ List.mem_cons_self
  have hkinds : Json.required (Json.enumerationName? Declaration.rules) (givenFields _ ms) "kind"
      = Json.required (Json.enumerationName? Declaration.rules) (givenFields _ ns) "kind" :=
    ((h _ hkind).givenFields hkind).reads
  have hgiven : Json.required (Json.enumerationName? Declaration.rules) (givenFields _ ms) "kind"
      = Json.required (Json.enumerationName? Declaration.rules) ms "kind" :=
    congrArg (Option.bind · _) (lookup_givenFields hkind ms)
  rw [← hkinds, hgiven]
  apply Option.bind_congr
  intro kind hms
  have hkindGiven : Place.kindGiven ms = kind := by
    rw [Place.kindGiven, hms]
    rfl
  apply t.ofKind?_eq
  rw [← hkindGiven]
  apply ((h _ hvalue).givenFields hvalue).reads

end

/-! ### Declarations -/

theorem count_eq_length_filter (name : String) (ms : List (String × Json)) :
  (ms.map (·.1)).count name = (ms.filter fun m => m.1 == name).length
  := by
  rw [List.count, List.countP_map, List.countP_eq_length_filter]
  rfl

theorem lookup_eq_head? (name : String) (ms : List (String × Json)) :
  ms.lookup name = ((ms.filter fun m => m.1 == name).head?).map (·.2)
  := by
  induction ms with
  | nil => rfl
  | cons m ms ih =>
      obtain ⟨other, v⟩ := m
      rw [PlatformMap.lookup_cons, List.filter_cons]
      by_cases h : name = other
      · rw [if_pos h, if_pos (beq_iff_eq.mpr h.symm)]
        rfl
      · rw [if_neg h, if_neg (fun heq => h (beq_iff_eq.mp heq).symm), ih]

theorem Record.declaration_notMem_names (r : Record) :
  "declaration" ∉ r.names
  := by
  cases r
  all_goals decide

namespace Declaration

/-- An object that says once what it declares is that declaration, given by its other members. -/
theorem ofJson?_object (ms : List (String × Json)) :
  ofJson? (.object ms)
    = if (ms.map (·.1)).count "declaration" ≤ 1 then
        (Json.required Json.string? ms "declaration").bind fun kind =>
          ofRecord? kind (.object (ms.filter fun m => !(m.1 == "declaration")))
      else none
  := by
  rw [ofJson?, List.partition_eq_filter_filter, count_eq_length_filter, Json.required,
    lookup_eq_head?]
  generalize ms.filter (fun m => m.1 == "declaration") = given
  match given with
  | [] => rfl
  | [(name, kind)] => rfl
  | _ :: _ :: rest => rw [if_neg (by simp)]

/-- Objects from which what is declared and the fields for it are read alike stand for the same
declaration. -/
theorem decode_object_eq {ms ns : List (String × Json)}
    (h : ∀ fields ∈ Place.declaration.fields ms, ∀ f ∈ fields, f.Alike ms ns) :
  ofJson? (.object ms) = ofJson? (.object ns)
  := by
  obtain ⟨hdeclaration, hfields⟩ := List.forall_mem_cons.mp (h _ rfl)
  have honce : (ms.map (·.1)).count "declaration" ≤ 1 ↔ (ns.map (·.1)).count "declaration" ≤ 1 :=
    hdeclaration.atMostOnce
  have hkinds : Json.required Json.string? ms "declaration"
      = Json.required Json.string? ns "declaration" := hdeclaration.reads
  rw [ofJson?_object, ofJson?_object, ← hkinds]
  by_cases hms : (ms.map (·.1)).count "declaration" ≤ 1
  · rw [if_pos hms, if_pos (honce.mp hms)]
    apply Option.bind_congr
    intro kind hkind
    rw [ofRecord?_eq, ofRecord?_eq]
    apply Option.bind_congr
    intro r hr
    apply congrArg
    apply r.1.decode_object_eq
    have hrecord : Place.recordGiven? ms = some r := by
      rw [Place.recordGiven?, hkind]
      exact hr
    intro f hf
    have halike : f.Alike ms ns := by
      apply hfields
      rw [hrecord]
      exact hf
    have hname : f.name ≠ "declaration" := by
      intro heq
      apply r.1.declaration_notMem_names
      rw [← heq]
      apply List.mem_map_of_mem hf
    apply halike.filter (p := fun name => !(name == "declaration"))
    rw [beq_false_of_ne hname]
    rfl
  · rw [if_neg hms, if_neg fun hns => hms (honce.mpr hns)]

end Declaration

/-! ### Places for objects with fields -/

/-- Objects from which all fields of a place are read alike are decoded alike. -/
theorem Place.decode_object_eq {p : Place} {ms ns : List (String × Json)} {fields : List Field}
    (hfields : p.fields ms = some fields) (h : ∀ f ∈ fields, f.Alike ms ns) :
  p.decode (.object ms) = p.decode (.object ns)
  := by
  cases p with
  | record r =>
      obtain rfl := Option.some.inj hfields
      apply r.decode_object_eq h
  | type =>
      obtain rfl := Option.some.inj hfields
      exact TypeExpr.tagging.decode_object_eq h
  | annotationValue =>
      obtain rfl := Option.some.inj hfields
      exact AnnotationValue.tagging.decode_object_eq h
  | declaration =>
      apply Declaration.decode_object_eq
      rintro _ ⟨⟩
      obtain rfl := Option.some.inj hfields
      exact h
  | _ => contradiction

/-! ### Arrays -/

theorem Field.name_ne {f g : Field} {fields : List Field}
    (hnames : ((g :: fields).map (·.name)).Nodup) (hf : f ∈ fields) :
  f.name ≠ g.name
  := by
  intro heq
  obtain ⟨hg, -⟩ := List.nodup_cons.mp hnames
  apply hg (List.mem_map.mpr ⟨f, hf, heq⟩)

/-- A value in an array of the values of fields is read by the field at its position. -/
theorem Field.readsAlike_zip {fields : List Field} (hnames : (fields.map (·.name)).Nodup)
    {before after : List Json} {v w : Json}
    (h : (Place.atPosition fields before.length).decode v
      = (Place.atPosition fields before.length).decode w)
    (hv : v ≠ .null) (hw : w ≠ .null) {f : Field} (hf : f ∈ fields) :
  f.ReadsAlike ((fields.map (·.name)).zip (before ++ v :: after))
    ((fields.map (·.name)).zip (before ++ w :: after))
  := by
  induction before generalizing fields with
  | nil =>
      obtain _ | ⟨g, fields⟩ := fields
      · contradiction
      obtain rfl | hf := List.mem_cons.mp hf
      · apply readsAlike_of_decode_eq List.lookup_cons_self List.lookup_cons_self h hv hw
      · have hne := name_ne hnames hf
        apply readsAlike_of_lookup_eq
        exact ((PlatformMap.lookup_cons ..).trans (if_neg hne)).trans
          ((PlatformMap.lookup_cons ..).trans (if_neg hne)).symm
  | cons x before ih =>
      obtain _ | ⟨g, fields⟩ := fields
      · contradiction
      obtain rfl | hf := List.mem_cons.mp hf
      · apply readsAlike_of_lookup_eq
        exact List.lookup_cons_self.trans List.lookup_cons_self.symm
      · have hne := name_ne hnames hf
        apply (ih (List.nodup_cons.mp hnames).2 h hf).of_lookup_eq
        · exact ((PlatformMap.lookup_cons ..).trans (if_neg hne)).symm
        · exact ((PlatformMap.lookup_cons ..).trans (if_neg hne)).symm

section

variable {before after : List Json} {v w : Json}

theorem Record.decode_array_eq (r : Record)
    (h : (Place.atPosition r.fields before.length).decode v
      = (Place.atPosition r.fields before.length).decode w)
    (hv : v ≠ .null) (hw : w ≠ .null) :
  r.decode (.array (before ++ v :: after)) = r.decode (.array (before ++ w :: after))
  := by
  have hgiven : (∀ values, r.given? (.array values) = none) ∨ ∀ values, r.given? (.array values)
      = if values.length ≤ r.names.length || Declaration.rules.allowsSurplus
        then some (r.names.zip values) else none := by
    cases r
    case namedType => exact .inl fun _ => rfl
    case reference => exact .inl fun _ => rfl
    all_goals exact .inr fun _ => rfl
  obtain ⟨build, hdecode, hbuild⟩ := r.exists_build
  rw [hdecode, hdecode]
  obtain hgiven | hgiven := hgiven
  · rw [hgiven, hgiven]
  · rw [hgiven, hgiven, List.length_append, List.length_append, List.length_cons,
      List.length_cons]
    split
    case isFalse => rfl
    case isTrue =>
      apply hbuild
      intro f hf
      apply Field.readsAlike_zip r.nodup_names h hv hw hf

theorem pair?_array_eq {α β : Type} (rules : Json.Rules) {first : Json → Option α}
    {second : Json → Option β} (hfirst : before.length = 0 → first v = first w)
    (hsecond : before.length ≠ 0 → second v = second w) :
  Json.pair? rules first second (.array (before ++ v :: after))
    = Json.pair? rules first second (.array (before ++ w :: after))
  := by
  match before, after with
  | [], [] => rfl
  | [], _ :: _ => simp only [List.nil_append, Json.pair?, hfirst rfl]
  | [_], _ => simp only [List.cons_append, List.nil_append, Json.pair?, hsecond Nat.one_ne_zero]
  | _ :: _ :: before, _ =>
      cases before with
      | nil => rfl
      | cons _ _ => rfl

/-- In an array that begins with a kind, what follows is read by the field for the value of that
kind. -/
theorem Tagging.decode_array_eq {α : Type} (t : Tagging α)
    (hhead : before.length = 0 →
      Json.kindAtHead? Declaration.rules t.kinds v = Json.kindAtHead? Declaration.rules t.kinds w)
    (h : before.length ≠ 0 →
      (t.valueField (Place.kindAtHead t.kinds (before ++ v :: after))).place.decode v
        = (t.valueField (Place.kindAtHead t.kinds (before ++ v :: after))).place.decode w)
    (hv : v ≠ .null) (hw : w ≠ .null) :
  t.ofJson? Declaration.rules (.array (before ++ v :: after))
    = t.ofJson? Declaration.rules (.array (before ++ w :: after))
  := by
  have hpair (values : List Json) : t.ofJson? Declaration.rules (.array values)
      = (Json.pair? Declaration.rules (Json.kindAtHead? Declaration.rules t.kinds) some
          (.array values)).bind fun p =>
        t.ofKind? Declaration.rules (t.ofJson? Declaration.rules) p.1 (some p.2) := by
    rw [t.ofJson?_eq]
    exact Option.bind_assoc _ _ _
  rw [hpair, hpair]
  match before, after with
  | [], _ =>
      exact congrArg (Option.bind · _) (pair?_array_eq _ (fun _ => hhead rfl) (absurd rfl))
  | [k], [] =>
      change ((Json.kindAtHead? Declaration.rules t.kinds k).bind fun kind => some (kind, v)).bind _
        = ((Json.kindAtHead? Declaration.rules t.kinds k).bind fun kind => some (kind, w)).bind _
      cases hk : Json.kindAtHead? Declaration.rules t.kinds k with
      | none => rfl
      | some kind =>
          have hkind : Place.kindAtHead t.kinds ([k] ++ [v]) = kind := congrArg (·.getD "") hk
          have hdecode := h Nat.one_ne_zero
          rw [hkind] at hdecode
          have hlookup (j : Json) :
              [("value", j)].lookup (t.valueField kind).name = some j := by
            rw [t.valueField_name]
            rfl
          apply @t.ofKind?_eq kind [("value", v)] [("value", w)]
          apply Field.readsAlike_of_decode_eq (hlookup v) (hlookup w) hdecode hv hw
  | [k], _ :: _ => rfl
  | _ :: _ :: before, _ =>
      cases before with
      | nil => rfl
      | cons _ _ => rfl

end

end PlatformSignatures
