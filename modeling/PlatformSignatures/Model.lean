import PlatformSignatures.Declaration

/-!
# Models

A model is a list of declarations.  It is covered if every declaration exists on some platform and
the attributes that are needed for its signature have a value on each of its platforms.  Type
parameters, constructors and accessors are checked along with their owner.
-/

namespace PlatformSignatures

/-- A batch of declarations. -/
structure Model where
  declarations : List Declaration
  deriving DecidableEq, Inhabited

/-- The attributes that must have a value on each platform. -/
inductive Aspect where
  | visibility
  | underlyingType
  deriving DecidableEq

/-- The words for an attribute in a report. -/
def Aspect.words : Aspect → String
  | visibility => "visibility"
  | underlyingType => "underlying type"

/-- A fault in the coverage of a model. -/
inductive Gap where
  /-- A symbol exists on no platform. -/
  | noPlatforms (symbol : SymbolId)
  /-- An attribute of a symbol has no value on a platform. -/
  | missing (symbol : SymbolId) (aspect : Aspect) (platform : Platform)
  deriving DecidableEq

/-- The report of a gap. -/
def Gap.message : Gap → String
  | noPlatforms symbol => symbol.path ++ ": declared on no platform"
  | missing symbol aspect platform =>
    symbol.path ++ ": " ++ aspect.words ++ " has no value for platform '" ++ platform ++ "'"

namespace Coverage

/-- A symbol must exist on some platform. -/
def declared (symbol : SymbolId) (platforms : PlatformSet) : Except Gap Unit :=
  if platforms.isEmpty then .error (.noPlatforms symbol) else .ok ()

/-- An attribute must have a value on each platform. -/
def covers {α : Type} (symbol : SymbolId) (aspect : Aspect) (values : PlatformMap α)
    (platforms : PlatformSet) : Except Gap Unit :=
  match platforms.elements.find? fun p => !values.contains p with
  | some p => .error (.missing symbol aspect p)
  | none => .ok ()

/-- Every item of a list must pass a check. -/
def each {α : Type} (check : α → Except Gap Unit) : List α → Except Gap Unit
  | [] => .ok ()
  | a :: as => do
    check a
    each check as

/-- The check of a type parameter. -/
def typeParameter (t : TypeParameter) : Except Gap Unit :=
  declared t.id t.platforms

/-- The check of a function, a constructor or an accessor. -/
def function (f : Function) : Except Gap Unit := do
  declared f.id f.platforms
  covers f.id .visibility f.visibility f.platforms
  each typeParameter f.generics

/-- The check of a class-like declaration. -/
def classlike (c : Classlike) : Except Gap Unit := do
  declared c.id c.platforms
  covers c.id .visibility c.visibility c.platforms
  each typeParameter c.generics
  each function c.constructors

/-- The check of a property. -/
def property (p : Property) : Except Gap Unit := do
  declared p.id p.platforms
  covers p.id .visibility p.visibility p.platforms
  each typeParameter p.generics
  each function (p.getter.toList ++ p.setter.toList)

/-- The check of a type alias. -/
def typeAlias (t : TypeAlias) : Except Gap Unit := do
  declared t.id t.platforms
  covers t.id .visibility t.visibility t.platforms
  covers t.id .underlyingType t.underlying t.platforms
  each typeParameter t.generics

/-- The check of a declaration. -/
def declaration : Declaration → Except Gap Unit
  | .classlike c => classlike c
  | .function f => function f
  | .property p => property p
  | .typeAlias t => typeAlias t
  | .typeParameter t => typeParameter t
  | .enumEntry e => declared e.id e.platforms

end Coverage

/-- Checks the declarations of a model in order; the first gap is reported. -/
def Model.check (m : Model) : Except Gap Unit :=
  Coverage.each Coverage.declaration m.declarations

end PlatformSignatures
