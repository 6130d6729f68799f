import PlatformSignatures.Json.Basic

/-!
# TOML values

Fractional numbers and dates and times are kept as the literals they are written by.
-/

namespace PlatformSignatures

/-- A TOML value. -/
inductive Toml where
  | string (s : String)
  | integer (n : Int)
  | float (literal : String)
  | bool (b : Bool)
  | dateTime (literal : String)
  | array (values : List Toml)
  | table (members : List (String × Toml))
  deriving Inhabited

namespace Toml

/-! ### Equality -/

mutual

/-- Whether two values are equal. -/
def same : Toml → Toml → Bool
  | string s, string t => s = t
  | integer m, integer n => m = n
  | float s, float t => s = t
  | bool a, bool b => a = b
  | dateTime s, dateTime t => s = t
  | array vs, array ws => sameList vs ws
  | table ms, table ns => sameMembers ms ns
  | _, _ => false

/-- Whether two lists of values are equal. -/
def sameList : List Toml → List Toml → Bool
  | [], [] => true
  | v :: vs, w :: ws => same v w && sameList vs ws
  | _, _ => false

/-- Whether two lists of members are equal. -/
def sameMembers : List (String × Toml) → List (String × Toml) → Bool
  | [], [] => true
  | (k, v) :: ms, (l, w) :: ns => k = l && same v w && sameMembers ms ns
  | _, _ => false

end

mutual

theorem same_iff (v w : Toml) :
  same v w ↔ v = w
  := by
  cases v <;> cases w <;> simp [same]
  case array.array vs ws => exact sameList_iff vs ws
  case table.table ms ns => exact sameMembers_iff ms ns

theorem sameList_iff (vs ws : List Toml) :
  sameList vs ws ↔ vs = ws
  := by
  cases vs <;> cases ws <;> simp [sameList]
  case cons.cons v vs w ws => rw [same_iff v w, sameList_iff vs ws]

theorem sameMembers_iff (ms ns : List (String × Toml)) :
  sameMembers ms ns ↔ ms = ns
  := by
  match ms, ns with
  | [], [] => simp [sameMembers]
  | [], _ :: _ => simp [sameMembers]
  | _ :: _, [] => simp [sameMembers]
  | (k, v) :: ms, (l, w) :: ns =>
    simp only [sameMembers, Bool.and_eq_true, decide_eq_true_eq, List.cons.injEq, Prod.mk.injEq]
    rw [same_iff v w, sameMembers_iff ms ns]

end

instance : DecidableEq Toml := fun v w =>
  decidable_of_iff _ (same_iff v w)

/-! ### Values as JSON values -/

mutual

/-- A value in the form of a JSON value; a date or time becomes an object of its own kind. -/
def toJson : Toml → Json
  | string s => .string s
  | integer n => .number (toString n)
  | float literal => .number literal
  | bool b => .bool b
  | dateTime literal => .object [("date-time", .string literal)]
  | array values => .array (toJsonList values)
  | table members => .object (toJsonMembers members)

/-- The values of a list in the form of JSON values. -/
def toJsonList : List Toml → List Json
  | [] => []
  | v :: vs => toJson v :: toJsonList vs

/-- The members of a table in the form of members of an object. -/
def toJsonMembers : List (String × Toml) → List (String × Json)
  | [] => []
  | (name, v) :: ms => (name, toJson v) :: toJsonMembers ms

end

end Toml

end PlatformSignatures
