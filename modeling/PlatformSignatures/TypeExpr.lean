import PlatformSignatures.Enumerated
import PlatformSignatures.Symbol

/-!
# Type expressions

The types that occur in signatures.  A named type has arguments and a marker saying whether it is
a function type; its last argument is then the result, and for an extension function type the
first one is the receiver.
-/

namespace PlatformSignatures

/-- Whether a named type is a function type, and whether it has a receiver. -/
inductive FunctionMarker where
  | notFunction
  | function
  | extension
  deriving DecidableEq, Inhabited

namespace FunctionMarker

instance : Enumerated FunctionMarker where
  values := [notFunction, function, extension]
  name
    | notFunction => "not-function"
    | function => "function"
    | extension => "extension"

end FunctionMarker

/-- The variance of a type argument: what is produced or what is consumed. -/
inductive Variance where
  | covariant
  | contravariant
  deriving DecidableEq

instance : Enumerated Variance where
  values := [.covariant, .contravariant]
  name
    | .covariant => "covariant"
    | .contravariant => "contravariant"
  aliases := [("out", .covariant), ("in", .contravariant)]

/-- A type as it occurs in a signature. -/
inductive TypeExpr where
  /-- A named type with its arguments. -/
  | named (id : SymbolId) (arguments : List TypeExpr) (marker : FunctionMarker)
  /-- A type argument with a variance. -/
  | variance (v : Variance) (inner : TypeExpr)
  /-- A type that admits null. -/
  | nullable (inner : TypeExpr)
  /-- Any type argument whatever. -/
  | star
  /-- The root type of the platform. -/
  | root
  /-- A primitive type of the host, by its name there. -/
  | primitive (name : String)
  /-- The absence of a value. -/
  | void
  /-- A type that is not checked. -/
  | dynamic
  /-- A type parameter in scope. -/
  | typeParameter (name : String)
  deriving Inhabited

namespace TypeExpr

/-- A named type without arguments. -/
def ofSymbol (id : SymbolId) : TypeExpr :=
  named id [] .notFunction

/-- A named type with arguments. -/
def generic (id : SymbolId) (arguments : List TypeExpr) : TypeExpr :=
  named id arguments .notFunction

/-- Whether a type is the named type of a symbol, with whatever arguments. -/
def isNamed (id : SymbolId) : TypeExpr → Bool
  | named own _ _ => own = id
  | _ => false

/-! ### Equality -/

mutual

/-- Whether two types are equal. -/
def same : TypeExpr → TypeExpr → Bool
  | named i as m, named j bs n => i = j && m = n && sameList as bs
  | variance v s, variance w t => v = w && same s t
  | nullable s, nullable t => same s t
  | star, star => true
  | root, root => true
  | primitive a, primitive b => a = b
  | void, void => true
  | dynamic, dynamic => true
  | typeParameter a, typeParameter b => a = b
  | _, _ => false

/-- Whether two lists of types are equal. -/
def sameList : List TypeExpr → List TypeExpr → Bool
  | [], [] => true
  | s :: ss, t :: ts => same s t && sameList ss ts
  | _, _ => false

end

mutual

theorem same_iff (s t : TypeExpr) :
  same s t ↔ s = t
  := by
  cases s <;> cases t <;> simp [same]
  case named.named i as m j bs n => grind [sameList_iff as bs]
  case variance.variance v s w t => grind [same_iff s t]
  case nullable.nullable s t => exact same_iff s t

theorem sameList_iff (ss ts : List TypeExpr) :
  sameList ss ts ↔ ss = ts
  := by
  cases ss <;> cases ts <;> simp [sameList]
  case cons.cons s ss t ts => rw [same_iff s t, sameList_iff ss ts]

end

instance : DecidableEq TypeExpr := fun s t =>
  decidable_of_iff _ (same_iff s t)

end TypeExpr

end PlatformSignatures
