import PlatformSignatures.Content.Node
import PlatformSignatures.Platform.Grouping

/-!
# Emissions

An emission writes a list of nodes for an owner and a set of platforms.  Emissions are put after
one another with `++`.  Nodes are tagged with the platforms of the scope they are written in,
unless a narrower set is given: `onPlatforms` narrows the scope of an emission, `owned` writes a
node with a scope of its own, and `perPlatform` writes an attribute once for each distinct token
with the platforms that share it.
-/

namespace PlatformSignatures

variable {ν : Type}

/-- Where an emission writes: through a factory, for an owner and on a set of platforms. -/
structure Scope (ν : Type) where
  factory : NodeFactory ν
  owner : SymbolId
  platforms : PlatformSet

/-- A description of nodes to be written in a scope. -/
def Emission (ν : Type) := Scope ν → List ν

namespace Emission

/-- The emission that writes nothing. -/
def nothing : Emission ν := fun _ => []

instance : Inhabited (Emission ν) := ⟨nothing⟩

/-- One emission after another. -/
instance : Append (Emission ν) := ⟨fun e₁ e₂ scope => e₁ scope ++ e₂ scope⟩

/-- Several emissions, one after the other. -/
def concat : List (Emission ν) → Emission ν
  | [] => nothing
  | e :: es => e ++ concat es

/-- A text with styles; the empty text writes nothing. -/
def styledText (t : String) (styles : List TextStyle) : Emission ν := fun scope =>
  if t = "" then [] else [scope.factory.text t styles scope.platforms]

/-- A text without styles; the empty text writes nothing. -/
def text (t : String) : Emission ν :=
  styledText t []

/-- A non-breaking space. -/
def nbsp : Emission ν :=
  text (String.singleton Text.nbsp)

/-- A link, even if its text is empty. -/
def link (t : String) (target : SymbolId) : Emission ν := fun scope =>
  [scope.factory.link t target scope.platforms]

/-- A link to a symbol, with the name it is displayed by. -/
def linkTo (target : SymbolId) : Emission ν :=
  link target.displayName target

/-- What an emission writes, as one group. -/
def group (styles : List TextStyle) (body : Emission ν) : Emission ν := fun scope =>
  [scope.factory.group (body scope) styles scope.platforms]

/-- An emission on other platforms than those of the scope. -/
def onPlatforms (platforms : PlatformSet) (body : Emission ν) : Emission ν := fun scope =>
  body ⟨scope.factory, scope.owner, platforms⟩

/-- The node that belongs to an owner on platforms and holds what an emission writes there. -/
def make (owner : SymbolId) (kind : ContentKind) (styles : List TextStyle)
    (platforms : PlatformSet) (body : Emission ν) (factory : NodeFactory ν) : ν :=
  factory.owned owner kind styles platforms (body ⟨factory, owner, platforms⟩)

/-- A node that is made by the factory alone. -/
def made (node : NodeFactory ν → ν) : Emission ν := fun scope => [node scope.factory]

/-- A node that belongs to an owner of its own, on platforms of its own. -/
def owned (owner : SymbolId) (kind : ContentKind) (styles : List TextStyle)
    (platforms : PlatformSet) (body : Emission ν) : Emission ν :=
  made (make owner kind styles platforms body)

/-- Emissions with a separator between them. -/
def separated (separator : String) : List (Emission ν) → Emission ν
  | [] => nothing
  | [e] => e
  | e :: es => e ++ text separator ++ separated separator es

/-- Emissions with a separator between them, between an opening and a closing text; no emissions
at all write nothing. -/
def enclosed (opening closing separator : String) : List (Emission ν) → Emission ν
  | [] => nothing
  | es => text opening ++ separated separator es ++ text closing

/-- An attribute that may differ between platforms, as one text for each distinct token.

Only the platforms of the scope count, and blank tokens are left out. -/
def perPlatform {α : Type} (values : PlatformMap α) (token : α → String) :
    Emission ν := fun scope =>
  let tokens := scope.platforms.elements.filterMap fun p =>
    (values.get? p).map fun a => (p, token a)
  ((groupByValue tokens).filter fun g => !Text.isBlank g.1).map fun g =>
    scope.factory.text g.1 [] g.2

end Emission

end PlatformSignatures
