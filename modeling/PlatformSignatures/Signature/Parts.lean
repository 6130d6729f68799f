import PlatformSignatures.Signature.Annotations

/-!
# Parts of signatures

What the signatures of both languages are made of: the nodes that hold a signature, the keywords
before a declaration, parameter lists and supertypes.  Attributes that may differ between
platforms are written once for each distinct value, with the platforms that share it.
-/

namespace PlatformSignatures

namespace Signature

variable {ν : Type}

/-- A node that holds one signature, in one block of monospaced text. -/
def symbol (owner : SymbolId) (platforms : PlatformSet) (body : Emission ν) : NodeFactory ν → ν :=
  Emission.make owner .symbol [.monospace] platforms (.group [.block] body)

/-- A node that holds the several signatures of a declaration. -/
def main (owner : SymbolId) (platforms : PlatformSet) (body : Emission ν) : NodeFactory ν → ν :=
  Emission.make owner .main [] platforms body

/-- The visibilities that are shown. -/
def visibility (c : Conventions) (values : PlatformMap Visibility) : Emission ν :=
  .perPlatform values c.visibilityToken

/-- The modalities that are shown. -/
def modality (c : Conventions) (values : PlatformMap Modality) : Emission ν :=
  .perPlatform values c.modalityToken

/-- The modifiers that belong to a language, each followed by a space. -/
def modifiers (d : Dialect) (f : Facets) : String :=
  String.join ((f.modifiers.elements.filter d.owns).map fun m => m.keyword ++ " ")

/-- A parameter list, which has its parentheses even if there are no parameters. -/
def parameterList : List (Emission ν) → Emission ν
  | [] => .text "()"
  | es => .enclosed "(" ")" ", " es

/-- The supertypes on the platforms of the scope, after the given text. -/
def supertypes (opening : String) (values : PlatformMap (List SymbolId)) : Emission ν :=
  fun scope =>
    Emission.concat ((groupWithin values scope.platforms).map fun g =>
      .onPlatforms g.2 (.enclosed opening "" ", " (g.1.map .linkTo))) scope

/-- The link to a class-like declaration by the name it is shown by. -/
def classLink (c : Classlike) : Emission ν :=
  .link c.shownName c.id

/-- A class-like declaration that is an alias on some platforms: its header on the other platforms,
if there are any, and one line for each distinct aliased type. -/
def aliasedClasslike (c : Classlike) (aliased : PlatformMap TypeExpr)
    (header : PlatformSet → NodeFactory ν → ν) (line : TypeExpr → Emission ν) :
    NodeFactory ν → ν :=
  let regular := c.platforms.filter fun p => !aliased.contains p
  main c.id (c.platforms.union aliased.keys) (
    (if regular.isEmpty then .nothing else .made (header regular)) ++
    .concat (aliased.groups.map fun g => .made (symbol c.id g.2 (line g.1))))

/-- A type alias, with one line for each distinct aliased type. -/
def typeAlias (t : TypeAlias) (line : TypeExpr → Emission ν) : NodeFactory ν → ν :=
  main t.id t.platforms
    (.concat (t.underlying.groups.map fun g => .made (symbol t.id g.2 (line g.1))))

/-- An enum entry, of which there is nothing to write. -/
def enumEntry (e : EnumEntry) : NodeFactory ν → ν :=
  Emission.make e.id .symbol [.monospace] e.platforms .nothing

end Signature

end PlatformSignatures
