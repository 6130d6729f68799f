import PlatformSignatures.Annotation
import PlatformSignatures.Modifier
import PlatformSignatures.Platform
import PlatformSignatures.TypeExpr

/-!
# Declarations

What is documented: classes and their like, functions and constructors, properties, type aliases,
type parameters and enum entries.  A declaration exists on a set of platforms, and its visibility,
modality, supertypes and aliased types may differ between platforms.
-/

namespace PlatformSignatures

/-- The optional facets of a declaration or a parameter. -/
structure Facets where
  /-- Annotations in source order. -/
  annotations : List Annotation := []
  modifiers : ModifierSet := OrderedSet.empty
  /-- The types that a class stands for on the platforms where it is only an alias. -/
  actualAlias : Option (PlatformMap TypeExpr) := none
  /-- Whether a constructor is marked as the primary one of its class. -/
  primaryConstructor : Bool := false
  deriving DecidableEq, Inhabited

/-- A type parameter with its upper bounds. -/
structure TypeParameter where
  id : SymbolId
  name : String
  platforms : PlatformSet
  bounds : List TypeExpr := []
  facets : Facets := {}
  deriving DecidableEq, Inhabited

/-- A type parameter without bounds. -/
def TypeParameter.new (id : SymbolId) (name : String) (platforms : PlatformSet) : TypeParameter :=
  { id, name, platforms }

/-- A value parameter or the receiver of a function. -/
structure Parameter where
  id : SymbolId
  name : Option String
  type : TypeExpr
  facets : Facets := {}
  deriving DecidableEq, Inhabited

/-- A value parameter. -/
def Parameter.new (id : SymbolId) (name : String) (type : TypeExpr) : Parameter :=
  { id, name := some name, type }

/-- The receiver of a function, which has no name. -/
def Parameter.receiver (id : SymbolId) (type : TypeExpr) : Parameter :=
  { id, name := none, type }

/-- A function or constructor. -/
structure Function where
  id : SymbolId
  name : String
  isConstructor : Bool := false
  platforms : PlatformSet
  visibility : PlatformMap Visibility := PlatformMap.empty
  modality : PlatformMap Modality := PlatformMap.empty
  generics : List TypeParameter := []
  receiver : Option Parameter := none
  parameters : List Parameter := []
  returnType : TypeExpr
  facets : Facets := {}
  deriving DecidableEq, Inhabited

/-- A function without parameters. -/
def Function.new (id : SymbolId) (name : String) (platforms : PlatformSet)
    (returnType : TypeExpr) : Function :=
  { id, name, platforms, returnType }

/-- A property with its accessors; it is mutable when it has a setter. -/
structure Property where
  id : SymbolId
  name : String
  platforms : PlatformSet
  visibility : PlatformMap Visibility := PlatformMap.empty
  modality : PlatformMap Modality := PlatformMap.empty
  generics : List TypeParameter := []
  receiver : Option Parameter := none
  type : TypeExpr
  getter : Option Function := none
  setter : Option Function := none
  facets : Facets := {}
  deriving DecidableEq, Inhabited

/-- A property without accessors. -/
def Property.new (id : SymbolId) (name : String) (platforms : PlatformSet) (type : TypeExpr) :
    Property :=
  { id, name, platforms, type }

/-- A name for a type, which may stand for different types on different platforms. -/
structure TypeAlias where
  id : SymbolId
  name : String
  platforms : PlatformSet
  visibility : PlatformMap Visibility := PlatformMap.empty
  /-- The alias as a type, with its own type parameters. -/
  type : TypeExpr
  /-- The type it stands for on each platform. -/
  underlying : PlatformMap TypeExpr
  generics : List TypeParameter := []
  facets : Facets := {}
  deriving DecidableEq, Inhabited

/-- A type alias for given types, on the platforms that they are given for. -/
def TypeAlias.new (id : SymbolId) (name : String) (underlying : PlatformMap TypeExpr) : TypeAlias :=
  { id, name, platforms := underlying.keys, type := .ofSymbol id, underlying }

/-- What a class-like declaration is. -/
inductive ClasslikeKind where
  | ordinary
  | interface
  | enumeration
  | object
  | annotationType
  deriving DecidableEq, Inhabited

instance : Enumerated ClasslikeKind where
  values := [.ordinary, .interface, .enumeration, .object, .annotationType]
  name
    | .ordinary => "class"
    | .interface => "interface"
    | .enumeration => "enum"
    | .object => "object"
    | .annotationType => "annotation"

/-- A class, interface, enum, object or annotation class; an anonymous object has no name. -/
structure Classlike where
  kind : ClasslikeKind
  id : SymbolId
  name : Option String
  platforms : PlatformSet
  visibility : PlatformMap Visibility := PlatformMap.empty
  modality : PlatformMap Modality := PlatformMap.empty
  generics : List TypeParameter := []
  /-- The direct supertypes on each platform. -/
  supertypes : PlatformMap (List SymbolId) := PlatformMap.empty
  constructors : List Function := []
  facets : Facets := {}
  deriving DecidableEq, Inhabited

/-- A class-like declaration with nothing but a name. -/
def Classlike.new (kind : ClasslikeKind) (id : SymbolId) (name : String)
    (platforms : PlatformSet) : Classlike :=
  { kind, id, name := some name, platforms }

/-- An entry of an enum. -/
structure EnumEntry where
  id : SymbolId
  name : String
  platforms : PlatformSet
  facets : Facets := {}
  deriving DecidableEq, Inhabited

/-- An entry of an enum with nothing but a name. -/
def EnumEntry.new (id : SymbolId) (name : String) (platforms : PlatformSet) : EnumEntry :=
  { id, name, platforms }

/-- A documented declaration. -/
inductive Declaration where
  | classlike (c : Classlike)
  | function (f : Function)
  | property (p : Property)
  | typeAlias (t : TypeAlias)
  | typeParameter (t : TypeParameter)
  | enumEntry (e : EnumEntry)
  deriving DecidableEq

/-- The constructor marked as primary, if exactly one is. -/
def Classlike.primaryConstructor (c : Classlike) : Option Function :=
  match c.constructors.filter (·.facets.primaryConstructor) with
  | [k] => some k
  | _ => none

/-- The name that a class is shown by: its own, or else that of its symbol. -/
def Classlike.shownName (c : Classlike) : String :=
  c.name.getD c.id.displayName

/-- Whether a property can be set. -/
def Property.isMutable (p : Property) : Bool :=
  p.setter.isSome

namespace Declaration

/-- The identity of a declaration. -/
def id : Declaration → SymbolId
  | classlike c => c.id
  | function f => f.id
  | property p => p.id
  | typeAlias t => t.id
  | typeParameter t => t.id
  | enumEntry e => e.id

/-- The declared name; only a class-like declaration may have none. -/
def name : Declaration → Option String
  | classlike c => c.name
  | function f => some f.name
  | property p => some p.name
  | typeAlias t => some t.name
  | typeParameter t => some t.name
  | enumEntry e => some e.name

/-- The platforms on which a declaration exists. -/
def platforms : Declaration → PlatformSet
  | classlike c => c.platforms
  | function f => f.platforms
  | property p => p.platforms
  | typeAlias t => t.platforms
  | typeParameter t => t.platforms
  | enumEntry e => e.platforms

/-- The facets of a declaration. -/
def facets : Declaration → Facets
  | classlike c => c.facets
  | function f => f.facets
  | property p => p.facets
  | typeAlias t => t.facets
  | typeParameter t => t.facets
  | enumEntry e => e.facets

end Declaration

end PlatformSignatures
