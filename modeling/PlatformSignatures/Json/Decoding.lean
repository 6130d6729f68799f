import PlatformSignatures.Enumerated
import PlatformSignatures.Json.Basic
import PlatformSignatures.Platform

/-!
# Decoding values

Decoders for the shapes that documents are made of.  A record is written as an object or as an
array of its values in order.  A name of an enumeration is written as a string or as an object
whose only member has that name and no payload.  A value with a kind is written as an object with a
kind and a value or as an array of the two.

What counts as no payload, whether an array may have values beyond those that are asked for, and
whether a kind may be given by its number depend on the rules under which a value is decoded.
-/

namespace PlatformSignatures

namespace Json

variable {α : Type}

/-! ### Scalars and lists -/

/-- A string. -/
def string? : Json → Option String
  | string s => some s
  | _ => none

/-- A truth value. -/
def bool? : Json → Option Bool
  | bool b => some b
  | _ => none

/-- The values of an array. -/
def array? : Json → Option (List Json)
  | array values => some values
  | _ => none

/-- The members of an object. -/
def object? : Json → Option (List (String × Json))
  | object members => some members
  | _ => none

/-- A list of values that are all decoded in one way. -/
def list? (decode : Json → Option α) (j : Json) : Option (List α) := do
  (← j.array?).mapM decode

/-- A value that may be null. -/
def option? (decode : Json → Option α) : Json → Option (Option α)
  | null => some none
  | j => (decode j).map some

/-! ### Platforms -/

/-- A set of platforms. -/
def platformSet? (j : Json) : Option PlatformSet := do
  return OrderedSet.ofList (← j.list? string?)

/-- A map from platforms, as an object. -/
def platformMap? (decode : Json → Option α) (j : Json) : Option (PlatformMap α) := do
  return PlatformMap.ofList
    (← (← j.object?).mapM fun m => (decode m.2).map fun a => (m.1, a))

/-! ### Rules -/

/-- Whether a value is null. -/
def isNull : Json → Bool
  | null => true
  | _ => false

/-- Whether a value is null or an object without members. -/
def isNullOrEmpty : Json → Bool
  | null => true
  | object [] => true
  | _ => false

/-- Whether a value is an array or an object with nothing in it. -/
def isEmptyContainer : Json → Bool
  | array [] => true
  | object [] => true
  | _ => false

/-- The format that a document is written in. -/
inductive Format where
  | json
  | toml
  deriving DecidableEq

/-- The rules under which a value is decoded.

They depend on the format of the document, and on whether the value is decoded as it stands there
or was set aside before, to be decoded when it is known what it is. -/
structure Rules where
  format : Format
  /-- Whether the value was set aside. -/
  isAside : Bool

namespace Rules

/-- The rules for a value as it stands in a JSON document. -/
def json : Rules := ⟨.json, false⟩

/-- The rules for a value as it stands in a TOML document. -/
def toml : Rules := ⟨.toml, false⟩

/-- The rules for a value that is set aside. -/
def aside (r : Rules) : Rules :=
  { r with isAside := true }

/-- Whether a value is no payload. -/
def isBlank (r : Rules) (j : Json) : Bool :=
  if r.isAside then j.isNullOrEmpty
  else match r.format with
    | .json => j.isNull
    | .toml => j.isEmptyContainer

/-- Whether arrays may have values beyond those that are asked for, which are of no account. -/
def allowsSurplus (r : Rules) : Bool :=
  !r.isAside && r.format = .toml

/-- Whether a kind in an array may be given by its number. -/
def allowsNumbers (r : Rules) : Bool :=
  r.isAside && r.format = .json

end Rules

/-! ### Pairs -/

/-- An array of two values. -/
def pair? {β : Type} (rules : Rules) (first : Json → Option α) (second : Json → Option β) :
    Json → Option (α × β)
  | array (a :: b :: rest) =>
    if rest.isEmpty || rules.allowsSurplus then do return (← first a, ← second b) else none
  | _ => none

/-! ### Enumerations -/

/-- The name that a value of an enumeration is written by. -/
def enumerationName? (rules : Rules) : Json → Option String
  | string s => some s
  | object [(name, payload)] => if rules.isBlank payload then some name else none
  | _ => none

/-- A value of an enumeration. -/
def enumeration? [Enumerated α] (rules : Rules) (j : Json) : Option α := do
  Enumerated.ofName? (← j.enumerationName? rules)

/-! ### Records -/

/-- The values given for the fields of a record that is written as an object.

No field may be given twice.  Members that are not fields are of no account. -/
def objectRecord? (fields : List String) : Json → Option (List (String × Json))
  | object members =>
    let known := members.filter fun m => fields.contains m.1
    if (known.map (·.1)).Nodup then some known else none
  | _ => none

/-- The values given for the fields of a record. -/
def record? (rules : Rules) (fields : List String) : Json → Option (List (String × Json))
  | array values =>
    if values.length ≤ fields.length || rules.allowsSurplus then some (fields.zip values) else none
  | j => j.objectRecord? fields

/-- The values given for the fields of a record that has no other members; an array must have all
of them. -/
def closedRecord? (rules : Rules) (fields : List String) : Json → Option (List (String × Json))
  | array values =>
    if fields.length ≤ values.length then record? rules fields (array values) else none
  | object members =>
    if members.all fun m => fields.contains m.1 then objectRecord? fields (object members)
    else none
  | _ => none

/-- A field that must be given. -/
def required (decode : Json → Option α) (fields : List (String × Json)) (name : String) :
    Option α := do
  decode (← fields.lookup name)

/-- A field that has a default. -/
def withDefault (default : α) (decode : Json → Option α) (fields : List (String × Json))
    (name : String) : Option α :=
  match fields.lookup name with
  | none => some default
  | some j => decode j

/-- A field that may be left out. -/
def given (decode : Json → Option α) (fields : List (String × Json)) (name : String) :
    Option (Option α) :=
  withDefault none (fun j => (decode j).map some) fields name

/-- A field that may be null or left out. -/
def optional (decode : Json → Option α) (fields : List (String × Json)) (name : String) :
    Option (Option α) :=
  withDefault none (option? decode) fields name

/-! ### Values with a kind -/

/-- The kind that has a number in the order of kinds. -/
def numbered (kinds : List String) (literal : String) : Option String :=
  (kinds.zipIdx.find? fun k => toString k.2 = literal).map (·.1)

/-- The kind at the head of an array. -/
def kindAtHead? (rules : Rules) (kinds : List String) : Json → Option String
  | string s => some s
  | number literal => if rules.allowsNumbers then numbered kinds literal else none
  | _ => none

/-- The rules for the value of an object with a kind: a value in front of its kind is set aside. -/
def rulesForValue (rules : Rules) : List (String × Json) → Rules
  | ("value", _) :: _ => rules.aside
  | _ => rules

/-- A kind, the value given with it, if there is one, and the rules for that value. -/
def tagged? (rules : Rules) (kinds : List String) : Json → Option (String × Option Json × Rules)
  | array values => do
    let (kind, value) ← (array values).pair? rules (kindAtHead? rules kinds) some
    return (kind, some value, rules)
  | j => do
    let fields ← j.objectRecord? ["kind", "value"]
    return (← required (enumerationName? rules) fields "kind", fields.lookup "value",
      rulesForValue rules fields)

/-- A value with a kind that takes no value, which may be left out or be null. -/
def unit? (a : α) : Option Json → Option α
  | none => some a
  | some null => some a
  | some _ => none

end Json

end PlatformSignatures
