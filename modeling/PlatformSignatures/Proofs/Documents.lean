import PlatformSignatures.Document.Model
import PlatformSignatures.Proofs.JsonText
import PlatformSignatures.Proofs.PlatformMaps

/-!
# Documents read back

What a model is written as gives the model.  This is shown from the inside out: for the shapes that
documents are made of, for types and annotation values by induction on their structure, and for the
records of declarations field by field.
-/

namespace PlatformSignatures

variable {α : Type}

/-- A computation that succeeds goes on with its result. -/
theorem bind_eq_some {β : Type} {x : Option α} {f : α → Option β} {a : α} {b : β}
    (hx : x = some a) (hf : f a = some b) :
  x >>= f = some b
  := by
  rw [hx]
  apply hf

/-! ### Values of simple shapes -/

namespace Json

theorem string?_string (s : String) :
  (string s).string? = some s
  := rfl

theorem bool?_bool (b : Bool) :
  (bool b).bool? = some b
  := rfl

theorem string_ne_null (s : String) :
  string s ≠ null
  := Json.noConfusion

theorem object_ne_null (members : List (String × Json)) :
  object members ≠ null
  := Json.noConfusion

theorem mapM_map (decode : Json → Option α) (encode : α → Json) {as : List α}
    (h : ∀ a ∈ as, decode (encode a) = some a) :
  (as.map encode).mapM decode = some as
  := by
  induction as with
  | nil => rfl
  | cons a as ih =>
      obtain ⟨ha, has⟩ := List.forall_mem_cons.mp h
      rw [List.map_cons, List.mapM_cons, ha, ih has]
      rfl

theorem list?_list {decode : Json → Option α} {encode : α → Json}
    (h : ∀ a, decode (encode a) = some a) (as : List α) :
  list? decode (list encode as) = some as
  := mapM_map decode encode fun a _ => h a

theorem option?_option {decode : Json → Option α} {encode : α → Json}
    (h : ∀ a, decode (encode a) = some a) (hnull : ∀ a, encode a ≠ null) (o : Option α) :
  option? decode (option encode o) = some o
  := by
  cases o with
  | none => rfl
  | some a =>
      rw [option, option?]
      · rw [h]
        rfl
      · intro heq
        exact hnull a heq

theorem pair?_array {β : Type} {first : Json → Option α} {second : Json → Option β} {i j : Json}
    {a : α} {b : β} (rules : Rules) (hfirst : first i = some a) (hsecond : second j = some b) :
  pair? rules first second (array [i, j]) = some (a, b)
  := by
  apply bind_eq_some hfirst
  apply bind_eq_some hsecond
  rfl

/-! ### Fields of records -/

theorem objectRecord?_object {fields : List String} {members : List (String × Json)}
    (hnames : members.map (·.1) = fields) (hnodup : fields.Nodup) :
  (object members).objectRecord? fields = some members
  := by
  have hknown : members.filter (fun m => fields.contains m.1) = members := by
    rw [List.filter_eq_self]
    intro m hm
    rw [List.contains_iff_mem, ← hnames]
    apply List.mem_map_of_mem hm
  rw [objectRecord?, hknown, hnames, if_pos hnodup]

theorem record?_object (rules : Rules) {fields : List String} {members : List (String × Json)}
    (hnames : members.map (·.1) = fields) (hnodup : fields.Nodup) :
  (object members).record? rules fields = some members
  := objectRecord?_object hnames hnodup

section

variable {decode : Json → Option α} {fields : List (String × Json)} {name : String} {j : Json}

theorem required_eq_some (h : fields.lookup name = some j) {a : α} (hj : decode j = some a) :
  required decode fields name = some a
  := bind_eq_some h hj

theorem withDefault_eq_some (default : α) (h : fields.lookup name = some j) {a : α}
    (hj : decode j = some a) :
  withDefault default decode fields name = some a
  := by
  rw [withDefault, h]
  apply hj

theorem given_eq_some {encode : α → Json} {o : Option α}
    (h : fields.lookup name = o.map encode) (hdecode : ∀ a, decode (encode a) = some a) :
  given decode fields name = some o
  := by
  rw [given, withDefault, h]
  cases o with
  | none => rfl
  | some a => exact congrArg (Option.map some) (hdecode a)

theorem optional_eq_some {encode : α → Json} {o : Option α}
    (h : fields.lookup name = some (option encode o)) (hdecode : ∀ a, decode (encode a) = some a)
    (hnull : ∀ a, encode a ≠ null) :
  optional decode fields name = some o
  := withDefault_eq_some none h (option?_option hdecode hnull o)

end

/-! ### Values with a kind -/

theorem tagged?_value (rules : Rules) (kinds : List String) (kind : String) (value : Json) :
  (object [("kind", string kind), ("value", value)]).tagged? rules kinds
    = some (kind, some value, rules)
  := rfl

end Json

/-! ### Sets and maps -/

theorem OrderedSet.ofList_elements {α : Type} [LT α] [LE α] [Std.LawfulOrderLT α]
    [Std.IsLinearOrder α] [DecidableLT α] [DecidableEq α] (s : OrderedSet α) :
  ofList s.elements = s
  := by
  ext a
  rw [mem_ofList]
  apply Iff.rfl

theorem PlatformSet.platformSet?_toJson (ps : PlatformSet) :
  Json.platformSet? (toJson ps) = some ps
  := by
  have helements : (Json.list .string ps.elements).list? Json.string? = some ps.elements :=
    Json.list?_list Json.string?_string ps.elements
  apply bind_eq_some helements
  rw [OrderedSet.ofList_elements]
  rfl

theorem PlatformMap.platformMap?_toJson {decode : Json → Option α} {encode : α → Json}
    (h : ∀ a, decode (encode a) = some a) (m : PlatformMap α) :
  Json.platformMap? decode (m.toJson encode) = some m
  := by
  have hentries : (m.entries.map fun e => (e.1, encode e.2)).mapM
      (fun e => (decode e.2).map fun a => (e.1, a)) = some m.entries := by
    induction m.entries with
    | nil => rfl
    | cons e es ih =>
        rw [List.map_cons, List.mapM_cons, h, ih]
        rfl
  apply bind_eq_some rfl
  apply bind_eq_some hentries
  rw [PlatformMap.ofList_entries]
  rfl

/-! ### Enumerations -/

namespace Enumerated

/-- The values of an enumeration are told apart by their names. -/
class Lawful (α : Type) [Enumerated α] : Prop where
  ofName?_name (a : α) : ofName? (name a) = some a

instance : Lawful FunctionMarker := ⟨by intro a; cases a <;> rfl⟩

instance : Lawful Variance := ⟨by intro a; cases a <;> rfl⟩

instance : Lawful Visibility := ⟨by intro a; cases a <;> rfl⟩

instance : Lawful Modality := ⟨by intro a; cases a <;> rfl⟩

instance : Lawful Modifier := ⟨by intro a; cases a <;> rfl⟩

instance : Lawful ClasslikeKind := ⟨by intro a; cases a <;> rfl⟩

theorem enumeration?_toJson [Enumerated α] [Lawful α] (rules : Json.Rules) (a : α) :
  Json.enumeration? rules (toJson a) = some a
  := Lawful.ofName?_name a

end Enumerated

/-! ### Symbols -/

/-- What a symbol is written as gives the symbol. -/
theorem SymbolId.ofJson?_toJson (rules : Json.Rules) (id : SymbolId) :
  ofJson? rules id.toJson = some id
  := by
  rw [ofJson?, toJson]
  apply bind_eq_some (Json.record?_object rules (by rfl) (by decide))
  apply bind_eq_some (Json.optional_eq_some (by rfl) Json.string?_string Json.string_ne_null)
  apply bind_eq_some (Json.optional_eq_some (by rfl) Json.string?_string Json.string_ne_null)
  apply bind_eq_some (Json.optional_eq_some (by rfl) Json.string?_string Json.string_ne_null)
  rfl

/-! ### Types -/

namespace TypeExpr

mutual

/-- What a type is written as gives the type. -/
theorem decode_toJson (rules : Json.Rules) (t : TypeExpr) {depth : Nat}
    (h : t.toJson.depth < depth) :
  decode depth rules t.toJson = some t
  := by
  obtain _ | depth := depth
  · contradiction
  cases t with
  | named id arguments marker =>
      have harguments : Json.depthOfList (toJsonList arguments) < depth := by
        simp only [toJson, Json.depth, Json.depthOfMembers] at h
        omega
      rw [toJson, decode]
      apply bind_eq_some (Json.tagged?_value rules kinds _ _)
      apply bind_eq_some (Json.objectRecord?_object (by rfl) (by decide))
      apply bind_eq_some (Json.required_eq_some (by rfl) (SymbolId.ofJson?_toJson rules id))
      apply bind_eq_some
        (Json.withDefault_eq_some _ (by rfl) (mapM_decode_toJsonList rules arguments harguments))
      apply bind_eq_some
        (Json.withDefault_eq_some _ (by rfl) (Enumerated.enumeration?_toJson rules marker))
      rfl
  | variance v inner =>
      have hinner : inner.toJson.depth < depth := by
        simp only [toJson, Json.depth, Json.depthOfMembers, Json.depthOfList] at h
        omega
      rw [toJson, decode]
      apply bind_eq_some (Json.tagged?_value rules kinds _ _)
      apply bind_eq_some (Json.pair?_array rules (Enumerated.enumeration?_toJson rules v)
        (decode_toJson rules inner hinner))
      rfl
  | nullable inner =>
      have hinner : inner.toJson.depth < depth := by
        simp only [toJson, Json.depth, Json.depthOfMembers] at h
        omega
      rw [toJson, decode]
      apply bind_eq_some (Json.tagged?_value rules kinds _ _)
      apply bind_eq_some (decode_toJson rules inner hinner)
      rfl
  | _ => rfl

theorem mapM_decode_toJsonList (rules : Json.Rules) (ts : List TypeExpr) {depth : Nat}
    (h : Json.depthOfList (toJsonList ts) < depth) :
  (toJsonList ts).mapM (decode depth rules) = some ts
  := by
  cases ts with
  | nil => rfl
  | cons t ts =>
      obtain ⟨ht, hts⟩ := Nat.max_lt.mp h
      rw [toJsonList, List.mapM_cons]
      apply bind_eq_some (decode_toJson rules t ht)
      apply bind_eq_some (mapM_decode_toJsonList rules ts hts)
      rfl

end

theorem ofJson?_toJson (rules : Json.Rules) (t : TypeExpr) :
  ofJson? rules t.toJson = some t
  := decode_toJson rules t (Nat.lt_succ_self _)

end TypeExpr

/-! ### Annotations -/

namespace AnnotationValue

section

variable {id : SymbolId} {i : Json}

theorem decodeReference_object (rules : Json.Rules) (name : String)
    (hid : SymbolId.ofJson? rules i = some id) :
  decodeReference rules (.object [("name", .string name), ("id", i)]) = some (name, id)
  := by
  apply bind_eq_some (Json.objectRecord?_object (by rfl) (by decide))
  apply bind_eq_some (Json.required_eq_some (by rfl) (Json.string?_string name))
  apply bind_eq_some (Json.required_eq_some (by rfl) hid)
  rfl

theorem decodeParts_object (rules : Json.Rules) {value : Json → Option AnnotationValue}
    (hid : SymbolId.ofJson? rules i = some id) {js : List Json}
    {arguments : List (String × AnnotationValue)}
    (h : js.mapM (Json.pair? rules Json.string? value) = some arguments) :
  decodeParts rules value (.object [("id", i), ("params", .array js)]) = some (id, arguments)
  := by
  apply bind_eq_some (Json.record?_object rules (by rfl) (by decide))
  apply bind_eq_some (Json.required_eq_some (by rfl) hid)
  apply bind_eq_some (Json.withDefault_eq_some _ (by rfl) h)
  rfl

end

mutual

/-- What the value of an argument is written as gives the value. -/
theorem decode_toJson (rules : Json.Rules) (v : AnnotationValue) {depth : Nat}
    (h : v.toJson.depth < depth) :
  decode depth rules v.toJson = some v
  := by
  obtain _ | depth := depth
  · contradiction
  cases v with
  | literal text => rfl
  | enumEntry name id =>
      rw [toJson, decode]
      apply bind_eq_some (Json.tagged?_value rules kinds _ _)
      apply bind_eq_some (decodeReference_object rules name (SymbolId.ofJson?_toJson rules id))
      rfl
  | classLiteral name id =>
      rw [toJson, decode]
      apply bind_eq_some (Json.tagged?_value rules kinds _ _)
      apply bind_eq_some (decodeReference_object rules name (SymbolId.ofJson?_toJson rules id))
      rfl
  | nested id arguments =>
      have harguments : Json.depthOfList (toJsonArguments arguments) < depth := by
        simp only [toJson, Json.depth, Json.depthOfMembers] at h
        omega
      rw [toJson, decode]
      apply bind_eq_some (Json.tagged?_value rules kinds _ _)
      apply bind_eq_some (decodeParts_object rules (SymbolId.ofJson?_toJson rules id)
        (mapM_decode_toJsonArguments rules arguments harguments))
      rfl
  | array values =>
      have hvalues : Json.depthOfList (toJsonList values) < depth := by
        simp only [toJson, Json.depth, Json.depthOfMembers] at h
        omega
      rw [toJson, decode]
      apply bind_eq_some (Json.tagged?_value rules kinds _ _)
      apply bind_eq_some (mapM_decode_toJsonList rules values hvalues)
      rfl

theorem mapM_decode_toJsonList (rules : Json.Rules) (vs : List AnnotationValue) {depth : Nat}
    (h : Json.depthOfList (toJsonList vs) < depth) :
  (toJsonList vs).mapM (decode depth rules) = some vs
  := by
  cases vs with
  | nil => rfl
  | cons v vs =>
      obtain ⟨hv, hvs⟩ := Nat.max_lt.mp h
      rw [toJsonList, List.mapM_cons]
      apply bind_eq_some (decode_toJson rules v hv)
      apply bind_eq_some (mapM_decode_toJsonList rules vs hvs)
      rfl

theorem mapM_decode_toJsonArguments (rules : Json.Rules)
    (arguments : List (String × AnnotationValue)) {depth : Nat}
    (h : Json.depthOfList (toJsonArguments arguments) < depth) :
  (toJsonArguments arguments).mapM (Json.pair? rules Json.string? (decode depth rules))
    = some arguments
  := by
  match arguments with
  | [] => rfl
  | (name, v) :: arguments =>
      obtain ⟨hpair, hrest⟩ := Nat.max_lt.mp h
      have hv : v.toJson.depth < depth := by
        simp only [Json.depth, Json.depthOfList] at hpair
        omega
      rw [toJsonArguments, List.mapM_cons]
      apply bind_eq_some
        (Json.pair?_array rules (Json.string?_string name) (decode_toJson rules v hv))
      apply bind_eq_some (mapM_decode_toJsonArguments rules arguments hrest)
      rfl

end

theorem ofJson?_toJson (rules : Json.Rules) (v : AnnotationValue) :
  ofJson? rules v.toJson = some v
  := decode_toJson rules v (Nat.lt_succ_self _)

theorem mapM_ofJson?_toJsonArguments (rules : Json.Rules)
    (arguments : List (String × AnnotationValue)) :
  (toJsonArguments arguments).mapM (Json.pair? rules Json.string? (ofJson? rules))
    = some arguments
  := by
  induction arguments with
  | nil => rfl
  | cons a arguments ih =>
      rw [toJsonArguments, List.mapM_cons]
      apply bind_eq_some
        (Json.pair?_array rules (Json.string?_string a.1) (ofJson?_toJson rules a.2))
      apply bind_eq_some ih
      rfl

end AnnotationValue

/-- What an annotation is written as gives the annotation. -/
theorem Annotation.ofJson?_toJson (rules : Json.Rules) (a : Annotation) :
  ofJson? rules a.toJson = some a
  := by
  apply bind_eq_some (AnnotationValue.decodeParts_object rules (SymbolId.ofJson?_toJson rules a.id)
    (AnnotationValue.mapM_ofJson?_toJsonArguments rules a.arguments))
  rfl

/-! ### Facets -/

theorem PlatformMap.toJson_ne_null (encode : α → Json) (m : PlatformMap α) :
  m.toJson encode ≠ .null
  := Json.object_ne_null _

/-- What facets are written as gives the facets. -/
theorem Facets.ofJson?_toJson (rules : Json.Rules) (f : Facets) :
  ofJson? rules f.toJson = some f
  := by
  rw [ofJson?, toJson]
  apply bind_eq_some (Json.record?_object rules (by rfl) (by decide))
  apply bind_eq_some (Json.withDefault_eq_some _ (by rfl)
    (Json.list?_list (Enumerated.enumeration?_toJson rules) f.modifiers.elements))
  apply bind_eq_some (Json.withDefault_eq_some _ (by rfl)
    (Json.list?_list (fun a => a.ofJson?_toJson rules) f.annotations))
  apply bind_eq_some (Json.optional_eq_some (by rfl)
    (PlatformMap.platformMap?_toJson (TypeExpr.ofJson?_toJson rules))
    (PlatformMap.toJson_ne_null _))
  apply bind_eq_some (Json.withDefault_eq_some _ (by rfl) (Json.bool?_bool _))
  rw [OrderedSet.ofList_elements]
  rfl

/-! ### Fields of declarations -/

namespace Declaration

section

variable {fields : List (String × Json)}

theorem decodeFacets_eq_some {f : Facets} (h : fields.lookup "extras" = some f.toJson) :
  decodeFacets fields = some f
  := Json.withDefault_eq_some _ h (Facets.ofJson?_toJson rules f)

theorem decodeVisibility_eq_some {m : PlatformMap Visibility}
    (h : fields.lookup "visibility" = some (m.toJson Enumerated.toJson)) :
  decodeVisibility fields = some m
  := Json.withDefault_eq_some _ h
    (PlatformMap.platformMap?_toJson (Enumerated.enumeration?_toJson rules) m)

theorem decodeModality_eq_some {m : PlatformMap Modality}
    (h : fields.lookup "modifier" = some (m.toJson Enumerated.toJson)) :
  decodeModality fields = some m
  := Json.withDefault_eq_some _ h
    (PlatformMap.platformMap?_toJson (Enumerated.enumeration?_toJson rules) m)

end

end Declaration

/-! ### Type parameters and parameters -/

section

open Declaration (decodeFacets_eq_some decodeVisibility_eq_some decodeModality_eq_some)

/-- What a type parameter is written as gives the type parameter. -/
theorem TypeParameter.ofJson?_toJson (t : TypeParameter) :
  ofJson? t.toJson = some t
  := by
  rw [ofJson?, toJson, members]
  apply bind_eq_some (Json.record?_object _ (by rfl) (by decide))
  apply bind_eq_some (Json.required_eq_some (by rfl) (SymbolId.ofJson?_toJson _ t.id))
  apply bind_eq_some (Json.required_eq_some (by rfl) (Json.string?_string t.name))
  apply bind_eq_some
    (Json.required_eq_some (by rfl) (PlatformSet.platformSet?_toJson t.platforms))
  apply bind_eq_some
    (Json.withDefault_eq_some _ (by rfl) (Json.list?_list (TypeExpr.ofJson?_toJson _) t.bounds))
  apply bind_eq_some (decodeFacets_eq_some (by rfl))
  rfl

theorem Declaration.decodeGenerics_eq_some {fields : List (String × Json)} {ts : List TypeParameter}
    (h : fields.lookup "generics" = some (.list TypeParameter.toJson ts)) :
  decodeGenerics fields = some ts
  := Json.withDefault_eq_some _ h (Json.list?_list TypeParameter.ofJson?_toJson ts)

open Declaration (decodeGenerics_eq_some)

/-- What a parameter is written as gives the parameter. -/
theorem Parameter.ofJson?_toJson (p : Parameter) :
  ofJson? p.toJson = some p
  := by
  rw [ofJson?, toJson]
  apply bind_eq_some (Json.record?_object _ (by rfl) (by decide))
  apply bind_eq_some (Json.required_eq_some (by rfl) (SymbolId.ofJson?_toJson _ p.id))
  apply bind_eq_some (Json.optional_eq_some (by rfl) Json.string?_string Json.string_ne_null)
  apply bind_eq_some (Json.required_eq_some (by rfl) (TypeExpr.ofJson?_toJson _ p.type))
  apply bind_eq_some (decodeFacets_eq_some (by rfl))
  rfl

theorem Parameter.toJson_ne_null (p : Parameter) :
  p.toJson ≠ .null
  := Json.object_ne_null _

/-! ### Functions -/

/-- What a function is written as gives the function. -/
theorem Function.ofJson?_toJson (f : Function) :
  ofJson? f.toJson = some f
  := by
  rw [ofJson?, toJson, members]
  apply bind_eq_some (Json.record?_object _ (by rfl) (by decide))
  apply bind_eq_some (Json.required_eq_some (by rfl) (SymbolId.ofJson?_toJson _ f.id))
  apply bind_eq_some (Json.required_eq_some (by rfl) (Json.string?_string f.name))
  apply bind_eq_some (Json.withDefault_eq_some _ (by rfl) (Json.bool?_bool _))
  apply bind_eq_some
    (Json.required_eq_some (by rfl) (PlatformSet.platformSet?_toJson f.platforms))
  apply bind_eq_some (decodeVisibility_eq_some (by rfl))
  apply bind_eq_some (decodeModality_eq_some (by rfl))
  apply bind_eq_some (decodeGenerics_eq_some (by rfl))
  apply bind_eq_some
    (Json.optional_eq_some (by rfl) Parameter.ofJson?_toJson Parameter.toJson_ne_null)
  apply bind_eq_some
    (Json.withDefault_eq_some _ (by rfl) (Json.list?_list Parameter.ofJson?_toJson f.parameters))
  apply bind_eq_some (Json.required_eq_some (by rfl) (TypeExpr.ofJson?_toJson _ f.returnType))
  apply bind_eq_some (decodeFacets_eq_some (by rfl))
  rfl

theorem Function.toJson_ne_null (f : Function) :
  f.toJson ≠ .null
  := Json.object_ne_null _

/-! ### The kinds of declarations -/

/-- What a property is written as gives the property. -/
theorem Property.ofJson?_object (p : Property) :
  ofJson? (.object p.members) = some p
  := by
  rw [ofJson?, members]
  apply bind_eq_some (Json.record?_object _ (by rfl) (by decide))
  apply bind_eq_some (Json.required_eq_some (by rfl) (SymbolId.ofJson?_toJson _ p.id))
  apply bind_eq_some (Json.required_eq_some (by rfl) (Json.string?_string p.name))
  apply bind_eq_some
    (Json.required_eq_some (by rfl) (PlatformSet.platformSet?_toJson p.platforms))
  apply bind_eq_some (decodeVisibility_eq_some (by rfl))
  apply bind_eq_some (decodeModality_eq_some (by rfl))
  apply bind_eq_some (decodeGenerics_eq_some (by rfl))
  apply bind_eq_some
    (Json.optional_eq_some (by rfl) Parameter.ofJson?_toJson Parameter.toJson_ne_null)
  apply bind_eq_some (Json.required_eq_some (by rfl) (TypeExpr.ofJson?_toJson _ p.type))
  apply bind_eq_some
    (Json.optional_eq_some (by rfl) Function.ofJson?_toJson Function.toJson_ne_null)
  apply bind_eq_some
    (Json.optional_eq_some (by rfl) Function.ofJson?_toJson Function.toJson_ne_null)
  apply bind_eq_some (decodeFacets_eq_some (by rfl))
  rfl

/-- What a type alias is written as gives the type alias. -/
theorem TypeAlias.ofJson?_object (t : TypeAlias) :
  ofJson? (.object t.members) = some t
  := by
  rw [ofJson?, members]
  apply bind_eq_some (Json.record?_object _ (by rfl) (by decide))
  apply bind_eq_some (Json.required_eq_some (by rfl) (SymbolId.ofJson?_toJson _ t.id))
  apply bind_eq_some (Json.required_eq_some (by rfl) (Json.string?_string t.name))
  apply bind_eq_some
    (Json.required_eq_some (by rfl) (PlatformSet.platformSet?_toJson t.platforms))
  apply bind_eq_some (decodeVisibility_eq_some (by rfl))
  apply bind_eq_some (Json.required_eq_some (by rfl) (TypeExpr.ofJson?_toJson _ t.type))
  apply bind_eq_some (Json.required_eq_some (by rfl)
    (PlatformMap.platformMap?_toJson (TypeExpr.ofJson?_toJson _) t.underlying))
  apply bind_eq_some (decodeGenerics_eq_some (by rfl))
  apply bind_eq_some (decodeFacets_eq_some (by rfl))
  rfl

/-- What a class-like declaration is written as gives the declaration. -/
theorem Classlike.ofJson?_object (c : Classlike) :
  ofJson? (.object c.members) = some c
  := by
  rw [ofJson?, members]
  apply bind_eq_some (Json.record?_object _ (by rfl) (by decide))
  apply bind_eq_some (Json.required_eq_some (by rfl) (Enumerated.enumeration?_toJson _ c.kind))
  apply bind_eq_some (Json.required_eq_some (by rfl) (SymbolId.ofJson?_toJson _ c.id))
  apply bind_eq_some (Json.optional_eq_some (by rfl) Json.string?_string Json.string_ne_null)
  apply bind_eq_some
    (Json.required_eq_some (by rfl) (PlatformSet.platformSet?_toJson c.platforms))
  apply bind_eq_some (decodeVisibility_eq_some (by rfl))
  apply bind_eq_some (decodeModality_eq_some (by rfl))
  apply bind_eq_some (decodeGenerics_eq_some (by rfl))
  apply bind_eq_some (Json.withDefault_eq_some _ (by rfl)
    (PlatformMap.platformMap?_toJson (Json.list?_list (SymbolId.ofJson?_toJson _)) c.supertypes))
  apply bind_eq_some
    (Json.withDefault_eq_some _ (by rfl) (Json.list?_list Function.ofJson?_toJson c.constructors))
  apply bind_eq_some (decodeFacets_eq_some (by rfl))
  rfl

/-- What an enum entry is written as gives the entry. -/
theorem EnumEntry.ofJson?_object (e : EnumEntry) :
  ofJson? (.object e.members) = some e
  := by
  rw [ofJson?, members]
  apply bind_eq_some (Json.record?_object _ (by rfl) (by decide))
  apply bind_eq_some (Json.required_eq_some (by rfl) (SymbolId.ofJson?_toJson _ e.id))
  apply bind_eq_some (Json.required_eq_some (by rfl) (Json.string?_string e.name))
  apply bind_eq_some
    (Json.required_eq_some (by rfl) (PlatformSet.platformSet?_toJson e.platforms))
  apply bind_eq_some (decodeFacets_eq_some (by rfl))
  rfl

end

/-! ### Declarations -/

namespace Declaration

/-- The record of the fields of a declaration gives it. -/
theorem ofRecord?_members (d : Declaration) :
  ofRecord? d.members.1 (.object d.members.2) = some d
  := by
  cases d with
  | classlike c => exact congrArg (Option.map classlike) (Classlike.ofJson?_object c)
  | function f => exact congrArg (Option.map function) (Function.ofJson?_toJson f)
  | property p => exact congrArg (Option.map property) (Property.ofJson?_object p)
  | typeAlias t => exact congrArg (Option.map typeAlias) (TypeAlias.ofJson?_object t)
  | typeParameter t => exact congrArg (Option.map typeParameter) (TypeParameter.ofJson?_toJson t)
  | enumEntry e => exact congrArg (Option.map enumEntry) (EnumEntry.ofJson?_object e)

/-- What a declaration is written as gives the declaration. -/
theorem ofJson?_toJson (d : Declaration) :
  ofJson? d.toJson = some d
  := by
  have hpartition : (("declaration", Json.string d.members.1) :: d.members.2).partition
      (fun m => m.1 == "declaration")
        = ([("declaration", .string d.members.1)], d.members.2) := by
    cases d <;> rfl
  rw [toJson, ofJson?, hpartition]
  apply ofRecord?_members

end Declaration

/-! ### Models -/

/-- What a model is written as gives the model. -/
theorem Model.ofJson_toJson (m : Model) :
  ofJson m.toJson = .ok m
  := by
  rw [toJson, ofJson, ofDeclarations, Json.list?_list Declaration.ofJson?_toJson]

/-! ### Documents have no numbers -/

namespace Json

theorem numberFree_string (s : String) :
  (string s).NumberFree
  := trivial

theorem numberFree_list {encode : α → Json} (h : ∀ a, (encode a).NumberFree) (as : List α) :
  (list encode as).NumberFree
  := by
  induction as with
  | nil => trivial
  | cons a as ih => exact ⟨h a, ih⟩

theorem numberFree_option {encode : α → Json} (h : ∀ a, (encode a).NumberFree) (o : Option α) :
  (option encode o).NumberFree
  := by
  cases o with
  | none => trivial
  | some a => apply h

end Json

theorem PlatformSet.numberFree_toJson (ps : PlatformSet) :
  (toJson ps).NumberFree
  := Json.numberFree_list Json.numberFree_string ps.elements

theorem PlatformMap.numberFree_toJson {encode : α → Json} (h : ∀ a, (encode a).NumberFree)
    (m : PlatformMap α) :
  (m.toJson encode).NumberFree
  := by
  rw [toJson]
  induction m.entries with
  | nil => trivial
  | cons e es ih => exact ⟨h e.2, ih⟩

theorem Enumerated.numberFree_toJson [Enumerated α] (a : α) :
  (toJson a).NumberFree
  := trivial

theorem SymbolId.numberFree_toJson (id : SymbolId) :
  id.toJson.NumberFree
  := by
  have hpart := Json.numberFree_option Json.numberFree_string
  exact ⟨hpart _, hpart _, hpart _, trivial⟩

namespace TypeExpr

mutual

theorem numberFree_toJson (t : TypeExpr) :
  t.toJson.NumberFree
  := by
  cases t with
  | named id arguments marker =>
      exact ⟨trivial, ⟨id.numberFree_toJson, numberFree_toJsonList arguments, trivial, trivial⟩,
        trivial⟩
  | variance v inner => exact ⟨trivial, ⟨trivial, numberFree_toJson inner, trivial⟩, trivial⟩
  | nullable inner => exact ⟨trivial, numberFree_toJson inner, trivial⟩
  | primitive name => exact ⟨trivial, trivial, trivial⟩
  | typeParameter name => exact ⟨trivial, trivial, trivial⟩
  | _ => exact ⟨trivial, trivial⟩

theorem numberFree_toJsonList (ts : List TypeExpr) :
  Json.NumberFreeList (toJsonList ts)
  := by
  cases ts with
  | nil => trivial
  | cons t ts => exact ⟨numberFree_toJson t, numberFree_toJsonList ts⟩

end

end TypeExpr

namespace AnnotationValue

mutual

theorem numberFree_toJson (v : AnnotationValue) :
  v.toJson.NumberFree
  := by
  cases v with
  | literal text => exact ⟨trivial, trivial, trivial⟩
  | enumEntry name id =>
      exact ⟨trivial, ⟨trivial, id.numberFree_toJson, trivial⟩, trivial⟩
  | classLiteral name id =>
      exact ⟨trivial, ⟨trivial, id.numberFree_toJson, trivial⟩, trivial⟩
  | nested id arguments =>
      exact ⟨trivial, ⟨id.numberFree_toJson, numberFree_toJsonArguments arguments, trivial⟩,
        trivial⟩
  | array values => exact ⟨trivial, numberFree_toJsonList values, trivial⟩

theorem numberFree_toJsonList (vs : List AnnotationValue) :
  Json.NumberFreeList (toJsonList vs)
  := by
  cases vs with
  | nil => trivial
  | cons v vs => exact ⟨numberFree_toJson v, numberFree_toJsonList vs⟩

theorem numberFree_toJsonArguments (arguments : List (String × AnnotationValue)) :
  Json.NumberFreeList (toJsonArguments arguments)
  := by
  match arguments with
  | [] => trivial
  | (_, v) :: arguments =>
      exact ⟨⟨trivial, numberFree_toJson v, trivial⟩, numberFree_toJsonArguments arguments⟩

end

end AnnotationValue

theorem Annotation.numberFree_toJson (a : Annotation) :
  a.toJson.NumberFree
  := ⟨a.id.numberFree_toJson, AnnotationValue.numberFree_toJsonArguments a.arguments, trivial⟩

theorem Facets.numberFree_toJson (f : Facets) :
  f.toJson.NumberFree
  := by
  refine ⟨?annotations, ?modifiers, ?actualAlias, trivial, trivial⟩
  case annotations => apply Json.numberFree_list Annotation.numberFree_toJson
  case modifiers => apply Json.numberFree_list Enumerated.numberFree_toJson
  case actualAlias =>
    apply Json.numberFree_option (PlatformMap.numberFree_toJson TypeExpr.numberFree_toJson)

section

open Json (numberFree_string numberFree_list numberFree_option)

theorem TypeParameter.numberFree_toJson (t : TypeParameter) :
  t.toJson.NumberFree
  := ⟨t.id.numberFree_toJson, trivial, PlatformSet.numberFree_toJson _,
    numberFree_list TypeExpr.numberFree_toJson _, t.facets.numberFree_toJson, trivial⟩

theorem Parameter.numberFree_toJson (p : Parameter) :
  p.toJson.NumberFree
  := ⟨p.id.numberFree_toJson, numberFree_option numberFree_string _, p.type.numberFree_toJson,
    p.facets.numberFree_toJson, trivial⟩

theorem Function.numberFree_toJson (f : Function) :
  f.toJson.NumberFree
  := ⟨f.id.numberFree_toJson, trivial, trivial, PlatformSet.numberFree_toJson _,
    PlatformMap.numberFree_toJson Enumerated.numberFree_toJson _,
    PlatformMap.numberFree_toJson Enumerated.numberFree_toJson _,
    numberFree_list TypeParameter.numberFree_toJson _,
    numberFree_option Parameter.numberFree_toJson _,
    numberFree_list Parameter.numberFree_toJson _, f.returnType.numberFree_toJson,
    f.facets.numberFree_toJson, trivial⟩

theorem Declaration.numberFree_members (d : Declaration) :
  Json.NumberFreeMembers d.members.2
  := by
  have hattribute {β : Type} [Enumerated β] (m : PlatformMap β) :=
    m.numberFree_toJson Enumerated.numberFree_toJson
  have hgenerics := numberFree_list TypeParameter.numberFree_toJson
  have hreceiver := numberFree_option Parameter.numberFree_toJson
  have haccessor := numberFree_option Function.numberFree_toJson
  cases d with
  | classlike c =>
      exact ⟨trivial, c.id.numberFree_toJson, numberFree_option numberFree_string _,
        PlatformSet.numberFree_toJson _, hattribute _, hattribute _, hgenerics _,
        PlatformMap.numberFree_toJson (numberFree_list SymbolId.numberFree_toJson) _,
        numberFree_list Function.numberFree_toJson _, c.facets.numberFree_toJson, trivial⟩
  | function f => apply Function.numberFree_toJson
  | property p =>
      exact ⟨p.id.numberFree_toJson, trivial, PlatformSet.numberFree_toJson _, hattribute _,
        hattribute _, hgenerics _, hreceiver _, p.type.numberFree_toJson, haccessor _, haccessor _,
        p.facets.numberFree_toJson, trivial⟩
  | typeAlias t =>
      exact ⟨t.id.numberFree_toJson, trivial, PlatformSet.numberFree_toJson _, hattribute _,
        t.type.numberFree_toJson, PlatformMap.numberFree_toJson TypeExpr.numberFree_toJson _,
        hgenerics _, t.facets.numberFree_toJson, trivial⟩
  | typeParameter t => apply TypeParameter.numberFree_toJson
  | enumEntry e =>
      exact ⟨e.id.numberFree_toJson, trivial, PlatformSet.numberFree_toJson _,
        e.facets.numberFree_toJson, trivial⟩

end

theorem Model.numberFree_toJson (m : Model) :
  m.toJson.NumberFree
  := by
  have hdeclaration (d : Declaration) : d.toJson.NumberFree :=
    ⟨trivial, d.numberFree_members⟩
  exact ⟨Json.numberFree_list hdeclaration _, trivial⟩

/-! ### Texts of models -/

/-- The text that a model is written as is read as the model, unless it is nested too deep. -/
theorem Model.read_written (m : Model) (h : m.toJson.depth ≤ Json.maxDepth) :
  read m.toJson.compact = .ok m
  := by
  rw [read, Json.read_compact m.numberFree_toJson h]
  apply ofJson_toJson

/-- A function that is deprecated, with a message that needs escapes, and that takes a function
which may be absent. -/
def Function.deprecated : Function where
  id := .ofCallable "app" none "run"
  name := "run"
  platforms := OrderedSet.ofList ["js", "jvm"]
  visibility := PlatformMap.ofList [("js", .internalAccess), ("jvm", .publicAccess)]
  parameters := [{
    id := .ofCallable "app" none "run"
    name := some "body"
    type := .nullable
      (.named (.ofClass "kotlin" "Function1") [.variance .contravariant .star, .void] .function) }]
  returnType := .primitive "int"
  facets := { annotations :=
    [⟨.ofClass "kotlin" "Deprecated", [("message", .literal "\"gone\n\"")]⟩] }

/-- A model with a function whose text has escapes and nested types. -/
theorem Model.read_written_deprecated :
  (Model.mk [.function .deprecated]).toJson.depth ≤ Json.maxDepth ∧
    read (Model.mk [.function .deprecated]).toJson.compact = .ok ⟨[.function .deprecated]⟩
  := ⟨by decide, read_written _ (by decide)⟩

end PlatformSignatures
