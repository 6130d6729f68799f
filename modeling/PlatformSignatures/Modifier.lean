import PlatformSignatures.Enumerated
import PlatformSignatures.OrderedSet

/-!
# Modifiers

The keywords before a declaration: its visibility, its modality (whether it may be inherited from)
and the further modifiers.  Each further modifier belongs to exactly one of the two languages, and
the modifiers of a declaration are shown in one fixed order.
-/

namespace PlatformSignatures

/-- From where a declaration can be used. -/
inductive Visibility where
  | publicAccess
  | privateAccess
  | protectedAccess
  | internalAccess
  /-- Within the package, which is written without a keyword. -/
  | packageAccess
  deriving DecidableEq

namespace Visibility

instance : Enumerated Visibility where
  values := [publicAccess, privateAccess, protectedAccess, internalAccess, packageAccess]
  name
    | publicAccess => "public"
    | privateAccess => "private"
    | protectedAccess => "protected"
    | internalAccess => "internal"
    | packageAccess => "package-private"

/-- The keyword of a visibility, empty if there is none. -/
def keyword : Visibility → String
  | publicAccess => "public"
  | privateAccess => "private"
  | protectedAccess => "protected"
  | internalAccess => "internal"
  | packageAccess => ""

end Visibility

/-- Whether and how a declaration may be inherited or overridden. -/
inductive Modality where
  | abstract
  | overridable
  | final
  | sealed
  /-- Nothing is said. -/
  | unspecified
  deriving DecidableEq

namespace Modality

instance : Enumerated Modality where
  values := [abstract, overridable, final, sealed, unspecified]
  name
    | abstract => "abstract"
    | overridable => "open"
    | final => "final"
    | sealed => "sealed"
    | unspecified => "empty"

/-- The keyword of a modality, empty if there is none. -/
def keyword : Modality → String
  | abstract => "abstract"
  | overridable => "open"
  | final => "final"
  | sealed => "sealed"
  | unspecified => ""

end Modality

/-- A modifier beyond visibility and modality.  The first nineteen are those of Kotlin, the others
those of Java. -/
inductive Modifier where
  | expect | actual | override | lateinit | const | tailrec | inline | value | infixCall | operator
  | suspend | external | inner | data | functional | crossinline | noinline | reified | vararg
  | static | native | synchronized | transient | volatile | strictfp | transitive
  deriving DecidableEq

namespace Modifier

/-- The keyword of a modifier, which is also its name. -/
def keyword : Modifier → String
  | expect => "expect"
  | actual => "actual"
  | override => "override"
  | lateinit => "lateinit"
  | const => "const"
  | tailrec => "tailrec"
  | inline => "inline"
  | value => "value"
  | infixCall => "infix"
  | operator => "operator"
  | suspend => "suspend"
  | external => "external"
  | inner => "inner"
  | data => "data"
  | functional => "fun"
  | crossinline => "crossinline"
  | noinline => "noinline"
  | reified => "reified"
  | vararg => "vararg"
  | static => "static"
  | native => "native"
  | synchronized => "synchronized"
  | transient => "transient"
  | volatile => "volatile"
  | strictfp => "strictfp"
  | transitive => "transitive"

instance : Enumerated Modifier where
  values := [
    expect, actual, override, lateinit, const, tailrec, inline, value, infixCall, operator,
    suspend, external, inner, data, functional, crossinline, noinline, reified, vararg,
    static, native, synchronized, transient, volatile, strictfp, transitive]
  name := keyword

/-- Whether a modifier belongs to Java. -/
def isJava : Modifier → Bool
  | static | native | synchronized | transient | volatile | strictfp | transitive => true
  | _ => false

/-- Whether a modifier belongs to Kotlin, which is when it does not belong to Java. -/
def isKotlin (m : Modifier) : Bool :=
  !m.isJava

/-! ### The order in which modifiers are shown -/

instance : LT Modifier := ⟨fun a b => a.ctorIdx < b.ctorIdx⟩

instance : LE Modifier := ⟨fun a b => a.ctorIdx ≤ b.ctorIdx⟩

instance : DecidableLT Modifier := fun a b => inferInstanceAs (Decidable (a.ctorIdx < b.ctorIdx))

theorem ctorIdx_injective {a b : Modifier} (h : a.ctorIdx = b.ctorIdx) :
  a = b
  := by
  revert h
  cases a <;> cases b <;> decide

instance : Std.IsLinearOrder Modifier where
  le_refl a := Nat.le_refl a.ctorIdx
  le_trans _ _ _ hab hbc := Nat.le_trans hab hbc
  le_antisymm _ _ hab hba := ctorIdx_injective (Nat.le_antisymm hab hba)
  le_total a b := Nat.le_total a.ctorIdx b.ctorIdx

instance : Std.LawfulOrderLT Modifier where
  lt_iff _ _ := Nat.lt_iff_le_and_not_ge

end Modifier

/-- A set of modifiers in the order in which they are shown. -/
abbrev ModifierSet := OrderedSet Modifier

end PlatformSignatures
