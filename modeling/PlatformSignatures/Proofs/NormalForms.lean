import PlatformSignatures.Signature

/-!
# Normal forms of types

A language does not show all there is to a type.  The normal form of a type is what is left of it
when it is written: in Kotlin a primitive type is a class, an arrow does not show the name of the
function type and other named types do not show their marker; in Java types do not show whether
they admit null, nor markers.
-/

namespace PlatformSignatures

variable {ν : Type}

/-! ### Normal forms -/

namespace Kotlin

/-- A named type as far as it is shown: an arrow has no name, and what is not an arrow has no
marker. -/
def normalNamed (id : SymbolId) : FunctionMarker → List TypeExpr → TypeExpr
  | .function, a :: as => .named SymbolId.anonymous (a :: as) .function
  | .extension, r :: a :: as => .named SymbolId.anonymous (r :: a :: as) .extension
  | _, as => .named id as .notFunction

mutual

/-- What is left of a type when it is written in Kotlin. -/
def normalForm : TypeExpr → TypeExpr
  | .named id arguments marker => normalNamed id marker (normalForms arguments)
  | .variance v inner => .variance v (normalForm inner)
  | .nullable inner => .nullable (normalForm inner)
  | .primitive name => .named (SymbolId.ofClass "kotlin" (Text.capitalize name)) [] .notFunction
  | .star => .star
  | .root => .root
  | .void => .void
  | .dynamic => .dynamic
  | .typeParameter name => .typeParameter name

/-- The normal forms of a list of types. -/
def normalForms : List TypeExpr → List TypeExpr
  | [] => []
  | t :: ts => normalForm t :: normalForms ts

end

theorem normalForms_eq_map (ts : List TypeExpr) :
  normalForms ts = ts.map normalForm
  := by
  induction ts with
  | nil => rfl
  | cons t ts ih => rw [normalForms, ih, List.map_cons]

theorem typeExprs_eq_map (ts : List TypeExpr) :
  (typeExprs ts : List (Emission ν)) = ts.map typeExpr
  := by
  induction ts with
  | nil => rfl
  | cons t ts ih => rw [typeExprs, ih, List.map_cons]

theorem normalNamed_function (id : SymbolId) (ts : List TypeExpr) (t : TypeExpr) :
  normalNamed id .function (ts ++ [t]) = .named SymbolId.anonymous (ts ++ [t]) .function
  := by
  cases ts <;> rfl

theorem normalNamed_extension (id : SymbolId) (r : TypeExpr) (ts : List TypeExpr) (t : TypeExpr) :
  normalNamed id .extension (r :: (ts ++ [t]))
    = .named SymbolId.anonymous (r :: (ts ++ [t])) .extension
  := by
  cases ts <;> rfl

theorem typeExpr_normalNamed (id : SymbolId) (marker : FunctionMarker) (ts : List TypeExpr) :
  (typeExpr (normalNamed id marker ts) : Emission ν) = markedType id marker (typeExprs ts)
  := by
  cases marker with
  | notFunction => cases ts <;> rfl
  | function => cases ts <;> rfl
  | extension =>
      cases ts with
      | nil => rfl
      | cons r as => cases as <;> rfl

mutual

/-- A type is written like its normal form. -/
theorem typeExpr_normalForm (t : TypeExpr) :
  (typeExpr (normalForm t) : Emission ν) = typeExpr t
  := by
  cases t with
  | named id arguments marker =>
      rw [normalForm, typeExpr_normalNamed, typeExprs_normalForms arguments, typeExpr]
  | variance v inner =>
      cases v with
      | covariant => rw [normalForm, typeExpr, typeExpr, typeExpr_normalForm inner]
      | contravariant => rw [normalForm, typeExpr, typeExpr, typeExpr_normalForm inner]
  | nullable inner => rw [normalForm, typeExpr, typeExpr, typeExpr_normalForm inner]
  | _ => rfl

theorem typeExprs_normalForms (ts : List TypeExpr) :
  (typeExprs (normalForms ts) : List (Emission ν)) = typeExprs ts
  := by
  cases ts with
  | nil => rfl
  | cons t ts =>
      rw [normalForms, typeExprs, typeExprs, typeExpr_normalForm t, typeExprs_normalForms ts]

end

end Kotlin

namespace Java

mutual

/-- What is left of a type when it is written in Java. -/
def normalForm : TypeExpr → TypeExpr
  | .named id arguments _ => .named id (normalForms arguments) .notFunction
  | .variance v inner => .variance v (normalForm inner)
  | .nullable inner => normalForm inner
  | .dynamic => .root
  | .primitive name => .typeParameter name
  | .star => .star
  | .root => .root
  | .void => .void
  | .typeParameter name => .typeParameter name

/-- The normal forms of a list of types. -/
def normalForms : List TypeExpr → List TypeExpr
  | [] => []
  | t :: ts => normalForm t :: normalForms ts

end

theorem normalForms_eq_map (ts : List TypeExpr) :
  normalForms ts = ts.map normalForm
  := by
  induction ts with
  | nil => rfl
  | cons t ts ih => rw [normalForms, ih, List.map_cons]

theorem typeExprs_eq_map (ts : List TypeExpr) :
  (typeExprs ts : List (Emission ν)) = ts.map typeExpr
  := by
  induction ts with
  | nil => rfl
  | cons t ts ih => rw [typeExprs, ih, List.map_cons]

mutual

/-- A type is written like its normal form. -/
theorem typeExpr_normalForm (t : TypeExpr) :
  (typeExpr (normalForm t) : Emission ν) = typeExpr t
  := by
  cases t with
  | named id arguments marker =>
      rw [normalForm, typeExpr, typeExpr, typeExprs_normalForms arguments]
  | variance v inner =>
      cases v with
      | covariant => rw [normalForm, typeExpr, typeExpr, typeExpr_normalForm inner]
      | contravariant => rw [normalForm, typeExpr, typeExpr, typeExpr_normalForm inner]
  | nullable inner => rw [normalForm, typeExpr, typeExpr_normalForm inner]
  | _ => rfl

theorem typeExprs_normalForms (ts : List TypeExpr) :
  (typeExprs (normalForms ts) : List (Emission ν)) = typeExprs ts
  := by
  cases ts with
  | nil => rfl
  | cons t ts =>
      rw [normalForms, typeExprs, typeExprs, typeExpr_normalForm t, typeExprs_normalForms ts]

end

end Java

/-- What is left of a type when it is written in a language. -/
def Dialect.normalForm : Dialect → TypeExpr → TypeExpr
  | kotlin => Kotlin.normalForm
  | java => Java.normalForm

theorem Dialect.typeExpr_normalForm (d : Dialect) (t : TypeExpr) :
  (d.typeExpr (d.normalForm t) : Emission ν) = d.typeExpr t
  := by
  cases d with
  | kotlin => apply Kotlin.typeExpr_normalForm
  | java => apply Java.typeExpr_normalForm

/-! ### Names -/

/-- The texts that stand between the parts of a type. -/
def Dialect.punctuation : Dialect → List String
  | kotlin => ["<", ">", ", ", ".", "(", ") -> ", "out ", "in ", "?"]
  | java => ["<", ">", ", ", "? extends ", "? super "]

/-- The texts that are types of their own. -/
def Dialect.words : Dialect → List String
  | kotlin => ["*", "dynamic"]
  | java => ["?", "void"]

/-- A text may be a name if it is not empty and not one that the language writes by itself. -/
def Dialect.IsName (d : Dialect) (name : String) : Prop :=
  name ≠ "" ∧ name ∉ d.punctuation ∧ name ∉ d.words

namespace TypeExpr

mutual

/-- All names of type parameters and primitive types in a type satisfy a condition. -/
def Names (condition : String → Prop) : TypeExpr → Prop
  | named _ arguments _ => NamesOfList condition arguments
  | variance _ inner => Names condition inner
  | nullable inner => Names condition inner
  | primitive name => condition name
  | typeParameter name => condition name
  | _ => True

/-- All names in a list of types satisfy a condition. -/
def NamesOfList (condition : String → Prop) : List TypeExpr → Prop
  | [] => True
  | t :: ts => Names condition t ∧ NamesOfList condition ts

end

end TypeExpr

end PlatformSignatures
