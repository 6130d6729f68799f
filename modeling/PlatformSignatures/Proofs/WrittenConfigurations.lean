import PlatformSignatures.Document.Configuration
import PlatformSignatures.Proofs.Documents

/-!
# Written configurations

Overrides are written as a section with a key for each convention that is overridden, and the
sections that there are as a table.  What has no value is left out, since there is nothing like null
in TOML.  The sections that such a table gives are those it has been written for.  The text of a
document is joined from its lines.
-/

namespace PlatformSignatures

variable {α : Type}

/-! ### Records -/

namespace Toml

/-- A table of the members that have a value. -/
def record (members : List (String × Option Toml)) : Toml :=
  .table (members.filterMap fun m => m.2.map fun v => (m.1, v))

/-- The members that have a value, in the form of members of an object. -/
def given (members : List (String × Option Toml)) : List (String × Json) :=
  members.filterMap fun m => m.2.map fun v => (m.1, v.toJson)

theorem toJson_record (members : List (String × Option Toml)) :
  (record members).toJson = .object (given members)
  := by
  rw [record, toJson, given]
  congr 1
  induction members with
  | nil => rfl
  | cons m ms ih =>
      obtain ⟨name, _ | v⟩ := m
      · exact ih
      · exact congrArg ((name, v.toJson) :: ·) ih

theorem names_given (members : List (String × Option Toml)) :
  ((given members).map (·.1)).Sublist (members.map (·.1))
  := by
  induction members with
  | nil => exact .slnil
  | cons m ms ih =>
      obtain ⟨name, _ | v⟩ := m
      · exact ih.cons name
      · exact ih.cons_cons name

theorem lookup_given_of_notMem {members : List (String × Option Toml)} {name : String}
    (h : name ∉ members.map (·.1)) :
  (given members).lookup name = none
  := by
  rw [List.lookup_eq_none_iff]
  intro m hm
  rw [bne_iff_ne]
  rintro rfl
  exact h ((names_given members).subset (List.mem_map_of_mem hm))

/-- The value of a member, if it has one, is given for its name. -/
theorem lookup_given {members : List (String × Option Toml)}
    (hnodup : (members.map (·.1)).Nodup) {name : String} {v : Option Toml}
    (h : members.lookup name = some v) :
  (given members).lookup name = v.map toJson
  := by
  induction members with
  | nil => cases h
  | cons m ms ih =>
      obtain ⟨other, w⟩ := m
      obtain ⟨hother, hms⟩ := List.nodup_cons.mp hnodup
      rw [PlatformMap.lookup_cons] at h
      by_cases hname : name = other
      · subst hname
        rw [if_pos rfl] at h
        obtain rfl := Option.some.inj h
        cases w with
        | none =>
            change (given ms).lookup name = none
            exact lookup_given_of_notMem hother
        | some v => exact (PlatformMap.lookup_cons name name _ (given ms)).trans (if_pos rfl)
      · rw [if_neg hname] at h
        cases w with
        | none => exact ih hms h
        | some u =>
            exact ((PlatformMap.lookup_cons name other _ (given ms)).trans (if_neg hname)).trans
              (ih hms h)

end Toml

namespace Json

theorem closedRecord?_record (rules : Rules) {members : List (String × Option Toml)}
    {fields : List String} (hnames : members.map (·.1) = fields) (hnodup : fields.Nodup) :
  (Toml.record members).toJson.closedRecord? rules fields = some (Toml.given members)
  := by
  have hsublist := hnames ▸ Toml.names_given members
  have hfields : ∀ m ∈ Toml.given members, fields.contains m.1 = true := by
    intro m hm
    apply List.contains_iff_mem.mpr (hsublist.subset (List.mem_map_of_mem hm))
  rw [Toml.toJson_record, closedRecord?, if_pos (List.all_eq_true.mpr hfields), objectRecord?,
    List.filter_eq_self.mpr hfields, if_pos (hnodup.sublist hsublist)]

theorem given_given {members : List (String × Option Toml)} {fields : List String}
    (hnames : members.map (·.1) = fields) (hnodup : fields.Nodup) {name : String} {o : Option α}
    {encode : α → Toml} (h : members.lookup name = some (o.map encode)) {decode : Json → Option α}
    (hdecode : ∀ a, decode (encode a).toJson = some a) :
  given decode (Toml.given members) name = some o
  := by
  subst hnames
  apply given_eq_some _ hdecode
  rw [Toml.lookup_given hnodup h, Option.map_map]
  rfl

end Json

/-! ### Lines -/

/-- A document that is joined from its lines is read by the characters of one line after the other,
if there is no byte-order mark. -/
theorem Toml.read_join {ls : List String} (h : (ls.flatMap String.toList).head? ≠ some '\uFEFF') :
  read (String.join ls)
    = (lines ((ls.flatMap String.toList).length + 1) ⟨[], []⟩ (ls.flatMap String.toList)).map
        fun progress => .table (Item.freezeMembers progress.members)
  := by
  rw [read, String.toList_join]
  generalize ls.flatMap String.toList = cs at h
  split
  · contradiction
  · cases lines (cs.length + 1) ⟨[], []⟩ cs with
    | none => rfl
    | some progress => rfl

/-! ### Symbols and annotations -/

/-- A symbol as a table of the parts it has. -/
def SymbolId.toToml (id : SymbolId) : Toml :=
  .record [
    ("package", id.package.map .string),
    ("class_names", id.classNames.map .string),
    ("callable", id.callable.map .string)]

theorem SymbolId.ofJson?_toToml (id : SymbolId) :
  ofJson? .toml id.toToml.toJson = some id
  := by
  obtain ⟨package, classNames, callable⟩ := id
  cases package <;> cases classNames <;> cases callable <;> rfl

namespace AnnotationValue

mutual

/-- The value of an argument as a table with a kind. -/
def toToml : AnnotationValue → Toml
  | literal text => .table [("kind", .string "string"), ("value", .string text)]
  | enumEntry name id =>
    .table [("kind", .string "enum"), ("value", .table [
      ("name", .string name), ("id", id.toToml)])]
  | classLiteral name id =>
    .table [("kind", .string "class"), ("value", .table [
      ("name", .string name), ("id", id.toToml)])]
  | nested id arguments =>
    .table [("kind", .string "annotation"), ("value", .table [
      ("id", id.toToml), ("params", .array (toTomlArguments arguments))])]
  | array values => .table [("kind", .string "array"), ("value", .array (toTomlList values))]

/-- The values of a list as tables with a kind. -/
def toTomlList : List AnnotationValue → List Toml
  | [] => []
  | v :: vs => toToml v :: toTomlList vs

/-- Arguments as pairs. -/
def toTomlArguments : List (String × AnnotationValue) → List Toml
  | [] => []
  | (name, v) :: as => .array [.string name, toToml v] :: toTomlArguments as

end

mutual

/-- What the value of an argument is written as gives the value. -/
theorem decode_toToml (v : AnnotationValue) {depth : Nat} (h : v.toToml.toJson.depth < depth) :
  decode depth .toml v.toToml.toJson = some v
  := by
  obtain _ | depth := depth
  · contradiction
  cases v with
  | literal text => rfl
  | enumEntry name id =>
      apply bind_eq_some (Json.tagged?_value .toml kinds _ _)
      apply bind_eq_some (decodeReference_object .toml name (SymbolId.ofJson?_toToml id))
      rfl
  | classLiteral name id =>
      apply bind_eq_some (Json.tagged?_value .toml kinds _ _)
      apply bind_eq_some (decodeReference_object .toml name (SymbolId.ofJson?_toToml id))
      rfl
  | nested id arguments =>
      have harguments : Json.depthOfList (Toml.toJsonList (toTomlArguments arguments)) < depth := by
        simp only [toToml, Toml.toJson, Toml.toJsonMembers, Json.depth, Json.depthOfMembers] at h
        omega
      apply bind_eq_some (Json.tagged?_value .toml kinds _ _)
      apply bind_eq_some (decodeParts_object .toml (SymbolId.ofJson?_toToml id)
        (mapM_decode_toTomlArguments arguments harguments))
      rfl
  | array values =>
      have hvalues : Json.depthOfList (Toml.toJsonList (toTomlList values)) < depth := by
        simp only [toToml, Toml.toJson, Toml.toJsonMembers, Json.depth, Json.depthOfMembers] at h
        omega
      apply bind_eq_some (Json.tagged?_value .toml kinds _ _)
      apply bind_eq_some (mapM_decode_toTomlList values hvalues)
      rfl

theorem mapM_decode_toTomlList (vs : List AnnotationValue) {depth : Nat}
    (h : Json.depthOfList (Toml.toJsonList (toTomlList vs)) < depth) :
  (Toml.toJsonList (toTomlList vs)).mapM (decode depth .toml) = some vs
  := by
  cases vs with
  | nil => rfl
  | cons v vs =>
      obtain ⟨hv, hvs⟩ := Nat.max_lt.mp h
      rw [toTomlList, Toml.toJsonList, List.mapM_cons]
      apply bind_eq_some (decode_toToml v hv)
      apply bind_eq_some (mapM_decode_toTomlList vs hvs)
      rfl

theorem mapM_decode_toTomlArguments (arguments : List (String × AnnotationValue)) {depth : Nat}
    (h : Json.depthOfList (Toml.toJsonList (toTomlArguments arguments)) < depth) :
  (Toml.toJsonList (toTomlArguments arguments)).mapM
      (Json.pair? .toml Json.string? (decode depth .toml))
    = some arguments
  := by
  match arguments with
  | [] => rfl
  | (name, v) :: arguments =>
      obtain ⟨hpair, hrest⟩ := Nat.max_lt.mp h
      have hv : v.toToml.toJson.depth < depth := by
        simp only [Toml.toJson, Toml.toJsonList, Json.depth, Json.depthOfList] at hpair
        omega
      rw [toTomlArguments, Toml.toJsonList, List.mapM_cons]
      apply bind_eq_some
        (Json.pair?_array .toml (Json.string?_string name) (decode_toToml v hv))
      apply bind_eq_some (mapM_decode_toTomlArguments arguments hrest)
      rfl

end

end AnnotationValue

/-- An annotation as a table of its symbol and its arguments. -/
def Annotation.toToml (a : Annotation) : Toml :=
  .table [
    ("id", a.id.toToml),
    ("params", .array (AnnotationValue.toTomlArguments a.arguments))]

theorem AnnotationValue.mapM_ofJson?_toTomlArguments
    (arguments : List (String × AnnotationValue)) :
  (Toml.toJsonList (toTomlArguments arguments)).mapM
      (Json.pair? .toml Json.string? (ofJson? .toml))
    = some arguments
  := by
  induction arguments with
  | nil => rfl
  | cons a arguments ih =>
      have hvalue : ofJson? .toml a.2.toToml.toJson = some a.2 :=
        decode_toToml a.2 (Nat.lt_succ_self _)
      rw [toTomlArguments, Toml.toJsonList, List.mapM_cons]
      apply bind_eq_some (Json.pair?_array .toml (Json.string?_string a.1) hvalue)
      apply bind_eq_some ih
      rfl

/-- What an annotation is written as gives the annotation. -/
theorem Annotation.ofJson?_toToml (a : Annotation) :
  ofJson? .toml a.toToml.toJson = some a
  := by
  apply bind_eq_some (AnnotationValue.decodeParts_object .toml (SymbolId.ofJson?_toToml a.id)
    (AnnotationValue.mapM_ofJson?_toTomlArguments a.arguments))
  rfl

/-! ### Sections -/

instance : Enumerated.Lawful AtSign := ⟨by intro a; cases a <;> rfl⟩

namespace Toml

/-- The values of a list in an array. -/
def list (encode : α → Toml) (as : List α) : Toml :=
  .array (as.map encode)

theorem toJson_list (encode : α → Toml) (as : List α) :
  (list encode as).toJson = .list (fun a => (encode a).toJson) as
  := by
  rw [list, toJson, Json.list]
  congr 1
  induction as with
  | nil => rfl
  | cons a as ih => rw [List.map_cons, List.map_cons, toJsonList, ih]

end Toml

/-- A value of an enumeration as its name. -/
def Enumerated.toToml [Enumerated α] (a : α) : Toml :=
  .string (Enumerated.name a)

theorem Json.list?_toml {decode : Json → Option α} {encode : α → Toml}
    (h : ∀ a, decode (encode a).toJson = some a) (as : List α) :
  list? decode (Toml.list encode as).toJson = some as
  := by
  rw [Toml.toJson_list]
  apply list?_list h

namespace Overrides

/-- Overrides as a section with the keys for what is overridden. -/
def toToml (o : Overrides) : Toml :=
  .record [
    ("at_strategy", o.atSign.map Enumerated.toToml),
    ("list_brackets", o.brackets.map .string),
    ("class_suffix", o.classSuffix.map .string),
    ("ignored_visibilities", o.ignoredVisibilities.map (.list Enumerated.toToml)),
    ("ignored_modifiers", o.ignoredModalities.map (.list Enumerated.toToml)),
    ("ignored_annotations", o.ignoredAnnotations.map (.list Annotation.toToml))]

/-- The overrides that a section gives are those it has been written for. -/
theorem ofJson?_toToml (o : Overrides) :
  ofJson? o.toToml.toJson = some o
  := by
  have hnames {α : Type} [Enumerated α] [Enumerated.Lawful α] (a : α) :
      Json.enumeration? .toml (Enumerated.toToml a).toJson = some a :=
    Enumerated.enumeration?_toJson .toml a
  have hnodup : keys.Nodup := by decide
  apply bind_eq_some (Json.closedRecord?_record .toml (by rfl) hnodup)
  apply bind_eq_some (Json.given_given (by rfl) hnodup (by rfl) hnames)
  apply bind_eq_some (Json.given_given (by rfl) hnodup (by rfl) Json.string?_string)
  apply bind_eq_some (Json.given_given (by rfl) hnodup (by rfl) Json.string?_string)
  apply bind_eq_some (Json.given_given (by rfl) hnodup (by rfl) (Json.list?_toml hnames))
  apply bind_eq_some (Json.given_given (by rfl) hnodup (by rfl) (Json.list?_toml hnames))
  apply bind_eq_some
    (Json.given_given (by rfl) hnodup (by rfl) (Json.list?_toml Annotation.ofJson?_toToml))
  rfl

end Overrides

namespace Configuration

/-- The sections that there are as a table. -/
def toToml (kotlin java : Option Overrides) : Toml :=
  .record [("kotlin", kotlin.map Overrides.toToml), ("java", java.map Overrides.toToml)]

/-- The sections that a document gives are those it has been written for. -/
theorem sections?_toToml (kotlin java : Option Overrides) :
  sections? (toToml kotlin java).toJson = some (kotlin, java)
  := by
  have hnodup : ["kotlin", "java"].Nodup := by decide
  apply bind_eq_some (Json.closedRecord?_record .toml (by rfl) hnodup)
  apply bind_eq_some (Json.given_given (by rfl) hnodup (by rfl) Overrides.ofJson?_toToml)
  apply bind_eq_some (Json.given_given (by rfl) hnodup (by rfl) Overrides.ofJson?_toToml)
  rfl

end Configuration

end PlatformSignatures
