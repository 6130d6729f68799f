/-!
# Symbols

A symbol is the identity of something documented and the target of its links.  It has a package,
a chain of enclosing class names and the name of a function or property, each of which may be
absent.
-/

namespace PlatformSignatures

/-- The identity of a documented symbol. -/
structure SymbolId where
  package : Option String
  classNames : Option String
  callable : Option String
  deriving DecidableEq, Inhabited

/-- The part of a dotted name after its last dot. -/
def simpleName (name : String) : String :=
  String.ofList (name.toList.reverse.takeWhile (· != '.')).reverse

namespace SymbolId

/-- The symbol with no part. -/
def anonymous : SymbolId := ⟨none, none, none⟩

/-- The symbol of a class in a package. -/
def ofClass (package classNames : String) : SymbolId :=
  ⟨some package, some classNames, none⟩

/-- The symbol of a function or property, in a class or at the top of a package. -/
def ofCallable (package : String) (classNames : Option String) (name : String) : SymbolId :=
  ⟨some package, classNames, some name⟩

/-- The root type of Kotlin. -/
def kotlinAny : SymbolId := ofClass "kotlin" "Any"

/-- The type of functions without a result in Kotlin. -/
def kotlinUnit : SymbolId := ofClass "kotlin" "Unit"

/-- The root type of Java. -/
def javaObject : SymbolId := ofClass "java.lang" "Object"

/-- The text of a link to a symbol: its class names, or else the name of the callable. -/
def displayName (id : SymbolId) : String :=
  (id.classNames.or id.callable).getD ""

/-- The parts of a symbol, separated by slashes. -/
def path (id : SymbolId) : String :=
  id.package.getD "" ++ "/" ++ id.classNames.getD "" ++ "/" ++ id.callable.getD ""

instance : ToString SymbolId := ⟨path⟩

end SymbolId

end PlatformSignatures
