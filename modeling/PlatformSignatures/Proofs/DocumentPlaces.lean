import PlatformSignatures.Document.Declaration
import PlatformSignatures.Proofs.DecodingDepth

/-!
# The places of a document

Each value of a document stands in a place, which says how the value is decoded.  A place where a
record stands has fields: each has a name, a place for its value, and what is taken when it is left
out.  So has a place where a value with a kind stands, or a declaration; there the fields depend on
the kind.

What is decoded from an object depends only on what its fields are read as, and on whether a field
is given twice.
-/

namespace PlatformSignatures

/-- Two computations that agree so far agree if they agree on how to go on. -/
theorem bind_eq_bind {α β : Type} {x y : Option α} {f g : α → Option β} (h : x = y)
    (hf : ∀ a, f a = g a) :
  x >>= f = y >>= g
  := by
  rw [h, funext hf]

/-! ### Records -/

/-- The records that documents are made of. -/
inductive Record where
  | symbol
  | namedType
  | reference
  | annotationUse
  | facets
  | typeParameter
  | parameter
  | function
  | property
  | typeAlias
  | classlike
  | enumEntry

namespace Record

/-- What a record stands for. -/
def Value : Record → Type
  | symbol => SymbolId
  | namedType => TypeExpr
  | reference => String × SymbolId
  | annotationUse => Annotation
  | facets => Facets
  | typeParameter => TypeParameter
  | parameter => Parameter
  | function => Function
  | property => Property
  | typeAlias => TypeAlias
  | classlike => Classlike
  | enumEntry => EnumEntry

/-- What a document gives for a record inside a declaration. -/
def decode : (r : Record) → Json → Option r.Value
  | symbol => SymbolId.ofJson? Declaration.rules
  | namedType => TypeExpr.namedOfJson? Declaration.rules (TypeExpr.ofJson? Declaration.rules)
  | reference => AnnotationValue.decodeReference Declaration.rules
  | annotationUse => Annotation.ofJson? Declaration.rules
  | facets => Facets.ofJson? Declaration.rules
  | typeParameter => TypeParameter.ofJson?
  | parameter => Parameter.ofJson?
  | function => Function.ofJson?
  | property => Property.ofJson?
  | typeAlias => TypeAlias.ofJson?
  | classlike => Classlike.ofJson?
  | enumEntry => EnumEntry.ofJson?

end Record

/-! ### Places -/

/-- A place of a document, by how the value that stands there is decoded. -/
inductive Place : Type 1 where
  /-- No value may stand there. -/
  | nothing
  /-- The value is of no account. -/
  | ignored
  | string
  | truth
  | platforms
  /-- The name of a kind. -/
  | kind
  | enumeration (α : Type) [Enumerated α]
  | list (item : Place)
  | platformMap (value : Place)
  | pair (first second : Place)
  | record (r : Record)
  | type
  | annotationValue
  | declaration

namespace Place

/-- What is decoded from the value in a place. -/
def Value : Place → Type
  | nothing => Empty
  | ignored => Unit
  | string => String
  | truth => Bool
  | platforms => PlatformSet
  | kind => String
  | enumeration α => α
  | list p => List p.Value
  | platformMap p => PlatformMap p.Value
  | pair p q => p.Value × q.Value
  | record r => r.Value
  | type => TypeExpr
  | annotationValue => AnnotationValue
  | declaration => Declaration

/-- Decodes the value in a place. -/
def decode : (p : Place) → Json → Option p.Value
  | nothing => fun _ => none
  | ignored => fun _ => some ()
  | string => Json.string?
  | truth => Json.bool?
  | platforms => Json.platformSet?
  | kind => Json.enumerationName? Declaration.rules
  | enumeration α => (Json.enumeration? Declaration.rules : Json → Option α)
  | list p => Json.list? p.decode
  | platformMap p => Json.platformMap? p.decode
  | pair p q => Json.pair? Declaration.rules p.decode q.decode
  | record r => r.decode
  | type => TypeExpr.ofJson? Declaration.rules
  | annotationValue => AnnotationValue.ofJson? Declaration.rules
  | declaration => Declaration.ofJson?

end Place

/-! ### Fields -/

/-- What is taken for a field that is left out. -/
inductive Presence (α : Type) where
  /-- The field may not be left out. -/
  | required
  | default (a : α)
  /-- The field may be left out or be null, which is the same. -/
  | optional

/-- A field of an object. -/
structure Field where
  name : String
  place : Place
  presence : Presence place.Value

namespace Field

/-- A field is read alike from two lists of members. -/
def ReadsAlike (f : Field) (ms ns : List (String × Json)) : Prop :=
  match f.presence with
  | .required =>
    Json.required f.place.decode ms f.name = Json.required f.place.decode ns f.name
  | .default a =>
    Json.withDefault a f.place.decode ms f.name = Json.withDefault a f.place.decode ns f.name
  | .optional =>
    Json.optional f.place.decode ms f.name = Json.optional f.place.decode ns f.name

/-- A value of a field is what is taken when the field is left out. -/
def IsDefault (f : Field) (value : Json) : Prop :=
  match f.presence with
  | .required => False
  | .default a => f.place.decode value = some a
  | .optional => value = .null

end Field

/-! ### The fields of records -/

namespace Field

/-- The symbol of what is declared or referred to. -/
def symbol : Field := ⟨"id", .record .symbol, .required⟩

/-- The name of what is declared. -/
def givenName : Field := ⟨"name", .string, .required⟩

/-- The name of what may have none. -/
def possibleName : Field := ⟨"name", .string, .optional⟩

/-- The platforms on which something is declared. -/
def platforms : Field := ⟨"platforms", .platforms, .required⟩

/-- The visibility of a declaration. -/
def visibility : Field :=
  ⟨"visibility", .platformMap (.enumeration Visibility), .default PlatformMap.empty⟩

/-- The modality of a declaration. -/
def modality : Field :=
  ⟨"modifier", .platformMap (.enumeration Modality), .default PlatformMap.empty⟩

/-- The type parameters of a declaration. -/
def generics : Field := ⟨"generics", .list (.record .typeParameter), .default []⟩

/-- The receiver of a callable. -/
def receiver : Field := ⟨"receiver", .record .parameter, .optional⟩

/-- The type of a declaration. -/
def type : Field := ⟨"type", .type, .required⟩

/-- The facets of a declaration. -/
def facets : Field := ⟨"extras", .record .facets, .default ({} : Facets)⟩

end Field

namespace Record

/-- The fields of a record. -/
def fields : Record → List Field
  | symbol =>
    [⟨"package", .string, .optional⟩, ⟨"class_names", .string, .optional⟩,
      ⟨"callable", .string, .optional⟩]
  | namedType =>
    [.symbol, ⟨"arguments", .list .type, .default []⟩,
      ⟨"function", .enumeration FunctionMarker, .default FunctionMarker.notFunction⟩]
  | reference => [.givenName, .symbol]
  | annotationUse => [.symbol, ⟨"params", .list (.pair .string .annotationValue), .default []⟩]
  | facets =>
    [⟨"annotations", .list (.record .annotationUse), .default []⟩,
      ⟨"modifiers", .list (.enumeration Modifier), .default []⟩,
      ⟨"actual_typealias", .platformMap .type, .optional⟩,
      ⟨"primary_constructor", .truth, .default false⟩]
  | typeParameter =>
    [.symbol, .givenName, .platforms, ⟨"bounds", .list .type, .default []⟩, .facets]
  | parameter => [.symbol, .possibleName, .type, .facets]
  | function =>
    [.symbol, .givenName, ⟨"is_constructor", .truth, .default false⟩, .platforms, .visibility,
      .modality, .generics, .receiver, ⟨"parameters", .list (.record .parameter), .default []⟩,
      ⟨"return_type", .type, .required⟩, .facets]
  | property =>
    [.symbol, .givenName, .platforms, .visibility, .modality, .generics, .receiver, .type,
      ⟨"getter", .record .function, .optional⟩, ⟨"setter", .record .function, .optional⟩, .facets]
  | typeAlias =>
    [.symbol, .givenName, .platforms, .visibility, .type,
      ⟨"underlying", .platformMap .type, .required⟩, .generics, .facets]
  | classlike =>
    [⟨"kind", .enumeration ClasslikeKind, .required⟩, .symbol, .possibleName, .platforms,
      .visibility, .modality, .generics,
      ⟨"supertypes", .platformMap (.list (.record .symbol)), .default PlatformMap.empty⟩,
      ⟨"constructors", .list (.record .function), .default []⟩, .facets]
  | enumEntry => [.symbol, .givenName, .platforms, .facets]

/-- The names of the fields of a record. -/
def names (r : Record) : List String :=
  r.fields.map (·.name)

/-- The values given for the fields of a record.  Some records are written only as objects. -/
def given? (r : Record) (j : Json) : Option (List (String × Json)) :=
  match r with
  | namedType => j.objectRecord? r.names
  | reference => j.objectRecord? r.names
  | _ => j.record? Declaration.rules r.names

theorem nodup_names (r : Record) :
  r.names.Nodup
  := by
  cases r
  all_goals decide

/-- What a record stands for depends only on what its fields are read as. -/
theorem exists_build (r : Record) :
  ∃ build : List (String × Json) → Option r.Value,
    (∀ j, r.decode j = (r.given? j).bind build)
      ∧ ∀ ms ns, (∀ f ∈ r.fields, f.ReadsAlike ms ns) → build ms = build ns
  := by
  cases r
  case annotationUse =>
    refine ⟨_, fun j => Option.bind_assoc _ _ _, ?_⟩
    intro ms ns h
    simp only [fields, List.forall_mem_cons] at h
    obtain ⟨hsymbol, harguments, -⟩ := h
    apply bind_eq_bind
    · apply bind_eq_bind hsymbol
      intro _
      apply bind_eq_bind harguments
      intro _
      rfl
    · intro _
      rfl
  all_goals
    refine ⟨_, fun j => rfl, ?_⟩
    intro ms ns h
    simp only [fields, List.forall_mem_cons] at h
    repeat obtain ⟨_, h⟩ := h
    -- the fields are read one after the other
    repeat
      apply bind_eq_bind (by assumption)
      intro _
    rfl

end Record

/-! ### Values with a kind -/

/-- The field for a kind. -/
def Field.kind : Field := ⟨"kind", .kind, .required⟩

/-- The field for the value that is given with a kind of type. -/
def TypeExpr.valueField (kind : String) : Field :=
  match kind with
  | "named" => ⟨"value", .record .namedType, .required⟩
  | "variance" => ⟨"value", .pair (.enumeration Variance) .type, .required⟩
  | "nullable" => ⟨"value", .type, .required⟩
  | "primitive" => ⟨"value", .string, .required⟩
  | "type-parameter-ref" => ⟨"value", .string, .required⟩
  | _ => ⟨"value", .nothing, .optional⟩

/-- The field for the value that is given with a kind of annotation value. -/
def AnnotationValue.valueField (kind : String) : Field :=
  match kind with
  | "string" => ⟨"value", .string, .required⟩
  | "enum" => ⟨"value", .record .reference, .required⟩
  | "class" => ⟨"value", .record .reference, .required⟩
  | "annotation" => ⟨"value", .record .annotationUse, .required⟩
  | "array" => ⟨"value", .list .annotationValue, .required⟩
  | _ => ⟨"value", .nothing, .optional⟩

theorem unit?_lookup {α : Type} (a : α) (ms : List (String × Json)) (name : String) :
  Json.unit? a (ms.lookup name) = (Json.optional Place.nothing.decode ms name).map fun _ => a
  := by
  unfold Json.optional Json.withDefault
  cases ms.lookup name with
  | none => rfl
  | some v =>
      cases v
      all_goals rfl

/-- The type of a kind depends only on what the field for its value is read as. -/
theorem TypeExpr.ofKind?_eq_of_readsAlike {kind : String} {ms ns : List (String × Json)}
    (h : (valueField kind).ReadsAlike ms ns) :
  ofKind? Declaration.rules (ofJson? Declaration.rules) kind (ms.lookup "value")
    = ofKind? Declaration.rules (ofJson? Declaration.rules) kind (ns.lookup "value")
  := by
  have hunit {t : TypeExpr}
      (h : Field.ReadsAlike ⟨"value", .nothing, .optional⟩ ms ns) :
      Json.unit? t (ms.lookup "value") = Json.unit? t (ns.lookup "value") := by
    rw [unit?_lookup, unit?_lookup]
    exact congrArg (Option.map _) h
  unfold ofKind?
  split
  · exact h
  · exact bind_eq_bind h fun _ => rfl
  · exact bind_eq_bind h fun _ => rfl
  · exact hunit h
  · exact hunit h
  · exact bind_eq_bind h fun _ => rfl
  · exact hunit h
  · exact hunit h
  · exact bind_eq_bind h fun _ => rfl
  · rfl

theorem AnnotationValue.ofKind?_nested (value : Option Json) :
  ofKind? Declaration.rules (ofJson? Declaration.rules) "annotation" value
    = (value.bind fun v => Annotation.ofJson? Declaration.rules v).map fun a =>
      nested a.id a.arguments
  := by
  cases value with
  | none => rfl
  | some v =>
      change (decodeParts Declaration.rules _ v >>= _) = (decodeParts _ _ v >>= _).map _
      cases decodeParts Declaration.rules (ofJson? Declaration.rules) v
      · rfl
      · rfl

/-- The annotation value of a kind depends only on what the field for its value is read as. -/
theorem AnnotationValue.ofKind?_eq_of_readsAlike {kind : String} {ms ns : List (String × Json)}
    (h : (valueField kind).ReadsAlike ms ns) :
  ofKind? Declaration.rules (ofJson? Declaration.rules) kind (ms.lookup "value")
    = ofKind? Declaration.rules (ofJson? Declaration.rules) kind (ns.lookup "value")
  := by
  by_cases hkind : kind = "annotation"
  · subst hkind
    rw [ofKind?_nested, ofKind?_nested]
    exact congrArg (Option.map _) h
  · unfold ofKind?
    split
    case h_4 => contradiction
    case h_6 => rfl
    all_goals exact bind_eq_bind h fun _ => rfl

theorem TypeExpr.valueField_name (kind : String) :
  (valueField kind).name = "value"
  := by
  unfold valueField
  split
  all_goals rfl

theorem AnnotationValue.valueField_name (kind : String) :
  (valueField kind).name = "value"
  := by
  unfold valueField
  split
  all_goals rfl

/-- A way to decode values with a kind, by a field for the value that is given with each kind. -/
structure Tagging (α : Type) where
  kinds : List String
  ofKind? : Json.Rules → (Json → Option α) → String → Option Json → Option α
  ofJson? : Json.Rules → Json → Option α
  valueField : String → Field
  ofJson?_eq (rules : Json.Rules) (j : Json) :
    ofJson? rules j = Json.decodeTagged kinds ofKind? ofJson? rules j
  valueField_name (kind : String) : (valueField kind).name = "value"
  /-- What is decoded depends only on what the field for the value is read as. -/
  ofKind?_eq {kind : String} {ms ns : List (String × Json)}
    (h : (valueField kind).ReadsAlike ms ns) :
    ofKind? Declaration.rules (ofJson? Declaration.rules) kind (ms.lookup "value")
      = ofKind? Declaration.rules (ofJson? Declaration.rules) kind (ns.lookup "value")

/-- The kinds of types. -/
def TypeExpr.tagging : Tagging TypeExpr where
  kinds := kinds
  ofKind? := ofKind?
  ofJson? := ofJson?
  valueField := valueField
  ofJson?_eq := ofJson?_eq
  valueField_name := valueField_name
  ofKind?_eq := ofKind?_eq_of_readsAlike

/-- The kinds of annotation values. -/
def AnnotationValue.tagging : Tagging AnnotationValue where
  kinds := kinds
  ofKind? := ofKind?
  ofJson? := ofJson?
  valueField := valueField
  ofJson?_eq := ofJson?_eq
  valueField_name := valueField_name
  ofKind?_eq := ofKind?_eq_of_readsAlike

/-! ### Declarations -/

/-- The field for what a declaration is. -/
def Field.declaration : Field := ⟨"declaration", .string, .required⟩

/-- The record for a kind of declaration, and the declaration that it stands for. -/
def Declaration.recordOf? (kind : String) : Option ((r : Record) × (r.Value → Declaration)) :=
  match kind with
  | "classlike" => some ⟨.classlike, classlike⟩
  | "function" => some ⟨.function, function⟩
  | "property" => some ⟨.property, property⟩
  | "type-alias" => some ⟨.typeAlias, typeAlias⟩
  | "type-parameter" => some ⟨.typeParameter, typeParameter⟩
  | "enum-entry" => some ⟨.enumEntry, enumEntry⟩
  | _ => none

theorem Declaration.ofRecord?_eq (kind : String) (j : Json) :
  ofRecord? kind j = (recordOf? kind).bind fun r => (r.1.decode j).map r.2
  := by
  unfold ofRecord?
  split
  case h_7 => simp_all only [recordOf?, Option.bind_none]
  all_goals rfl

/-! ### The fields in a place -/

namespace Place

/-- The kind that is given by the members of an object, or no word. -/
def kindGiven (ms : List (String × Json)) : String :=
  (Json.required (Json.enumerationName? Declaration.rules) ms "kind").getD ""

/-- The record that is given by the members of a declaration. -/
def recordGiven? (ms : List (String × Json)) : Option ((r : Record) × (r.Value → Declaration)) := do
  Declaration.recordOf? (← Json.required Json.string? ms "declaration")

/-- The fields of an object with the given members, if the place is one for objects with fields. -/
def fields (p : Place) (ms : List (String × Json)) : Option (List Field) :=
  match p with
  | record r => some r.fields
  | type => some [.kind, TypeExpr.valueField (kindGiven ms)]
  | annotationValue => some [.kind, AnnotationValue.valueField (kindGiven ms)]
  | declaration =>
    some (.declaration :: (recordGiven? ms).elim [] fun r => r.1.fields)
  | _ => none

/-- The place of a member of an object with the given members. -/
def member (p : Place) (ms : List (String × Json)) (name : String) : Place :=
  match p.fields ms with
  | some fields => ((fields.find? (·.name == name)).map (·.place)).getD ignored
  | none =>
    match p with
    | platformMap p => p
    | _ => ignored

/-- The place of a field by its position. -/
def atPosition (fields : List Field) (index : Nat) : Place :=
  (fields[index]?.map (·.place)).getD ignored

/-- The kind at the head of an array, or no word. -/
def kindAtHead (kinds : List String) (values : List Json) : String :=
  (values.head?.bind (Json.kindAtHead? Declaration.rules kinds)).getD ""

/-- The place of an item of an array with the given values. -/
def item (p : Place) (values : List Json) (index : Nat) : Place :=
  match p with
  | platforms => string
  | list p => p
  | pair p q => if index = 0 then p else q
  | record r => atPosition r.fields index
  | type =>
    if index = 0 then ignored
    else (TypeExpr.valueField (kindAtHead TypeExpr.kinds values)).place
  | annotationValue =>
    if index = 0 then ignored
    else (AnnotationValue.valueField (kindAtHead AnnotationValue.kinds values)).place
  | declaration =>
    match index with
    | 0 => ignored
    | index + 1 =>
      ((values.head?.bind Json.string?).bind Declaration.recordOf?).elim ignored fun r =>
        atPosition r.1.fields index
  | _ => ignored

end Place

end PlatformSignatures
