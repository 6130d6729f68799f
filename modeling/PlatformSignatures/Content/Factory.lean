import PlatformSignatures.Enumerated
import PlatformSignatures.Platform
import PlatformSignatures.Symbol

/-!
# Node factories

Signatures are written through a factory of nodes, so that the type of nodes is up to whoever
assembles the page.  A factory makes texts, links, groups, and groups that belong to a symbol.
Every node is made for a set of platforms.
-/

namespace PlatformSignatures

/-- How a text or a group is to be shown. -/
inductive TextStyle where
  | monospace
  | block
  | bold
  deriving DecidableEq

instance : Enumerated TextStyle where
  values := [.monospace, .block, .bold]
  name
    | .monospace => "monospace"
    | .block => "block"
    | .bold => "bold"

/-- What an owned group stands for. -/
inductive ContentKind where
  /-- A single signature. -/
  | symbol
  /-- Several signatures of one declaration. -/
  | main
  deriving DecidableEq

instance : Enumerated ContentKind where
  values := [.symbol, .main]
  name
    | .symbol => "symbol"
    | .main => "main"

/-- The four ways in which nodes are made. -/
structure NodeFactory (ν : Type) where
  text : String → List TextStyle → PlatformSet → ν
  link : String → SymbolId → PlatformSet → ν
  group : List ν → List TextStyle → PlatformSet → ν
  /-- A group that belongs to an owner and stands for something. -/
  owned : SymbolId → ContentKind → List TextStyle → PlatformSet → List ν → ν

/-- The factory whose nodes are strings: a link is written in brackets, a group is what it holds. -/
def NodeFactory.strings : NodeFactory String where
  text t _ _ := t
  link t _ _ := "[" ++ t ++ "]"
  group children _ _ := String.join children
  owned _ _ _ _ children := String.join children

end PlatformSignatures
