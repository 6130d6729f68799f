import PlatformSignatures.Signature.Java
import PlatformSignatures.Signature.Kotlin

/-!
# Signatures

The signature of a declaration and the text of a type, in either language.
-/

namespace PlatformSignatures

variable {ν : Type}

/-- A type as it is written in a language. -/
def Dialect.typeExpr : Dialect → TypeExpr → Emission ν
  | kotlin => Kotlin.typeExpr
  | java => Java.typeExpr

/-- The signature of a declaration in a language by given conventions. -/
def Dialect.signature (d : Dialect) (c : Conventions) : Declaration → NodeFactory ν → ν :=
  match d with
  | kotlin => Kotlin.signature c
  | java => Java.signature c

/-- The signature of a declaration in a language by a configuration. -/
def Configuration.signature (c : Configuration) (d : Dialect) : Declaration → NodeFactory ν → ν :=
  d.signature (c.conventions d)

/-- The content tree of the signature of a declaration. -/
def Configuration.node (c : Configuration) (d : Dialect) (declaration : Declaration) : Node :=
  c.signature d declaration Node.factory

/-- The text of a type on its own, with plain spaces. -/
def Dialect.typeText (d : Dialect) (t : TypeExpr) : String :=
  (Emission.make SymbolId.anonymous .main [] (OrderedSet.singleton "test") (d.typeExpr t)
    Node.factory).shownText

end PlatformSignatures
