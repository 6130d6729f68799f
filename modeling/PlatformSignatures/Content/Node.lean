import PlatformSignatures.Content.Factory
import PlatformSignatures.Text.Blank

/-!
# Content trees

The nodes that can be looked into.  `Node.factory` makes them; `Node.fold` replaces its four ways
of making a node by those of another factory.  The views of a tree are its text, its links and its
outermost symbols, which are the nodes that each hold one signature.
-/

namespace PlatformSignatures

/-- A node of a content tree. -/
inductive Node where
  | text (text : String) (styles : List TextStyle) (platforms : PlatformSet)
  | link (text : String) (target : SymbolId) (platforms : PlatformSet)
  /-- A group; one that belongs to a declaration has a kind and an owner. -/
  | group (kind : Option ContentKind) (owner : Option SymbolId) (styles : List TextStyle)
      (platforms : PlatformSet) (children : List Node)

namespace Node

/-- The factory of content trees. -/
def factory : NodeFactory Node where
  text := text
  link := link
  group children styles platforms := group none none styles platforms children
  owned owner kind styles platforms children :=
    group (some kind) (some owner) styles platforms children

/-! ### Parts of a node -/

/-- The platforms a node is for. -/
def platforms : Node → PlatformSet
  | text _ _ ps => ps
  | link _ _ ps => ps
  | group _ _ _ ps _ => ps

/-- The nodes inside a group. -/
def children : Node → List Node
  | group _ _ _ _ cs => cs
  | _ => []

/-- The styles of a text or a group. -/
def styles : Node → List TextStyle
  | text _ ss _ => ss
  | link _ _ _ => []
  | group _ _ ss _ _ => ss

/-- The kind of an owned group. -/
def kind : Node → Option ContentKind
  | group k _ _ _ _ => k
  | _ => none

/-! ### Views of a tree -/

mutual

/-- The texts of all leaves, one after the other. -/
def plainText : Node → String
  | text t _ _ => t
  | link t _ _ => t
  | group _ _ _ _ cs => plainTextOfList cs

/-- The text of a list of nodes. -/
def plainTextOfList : List Node → String
  | [] => ""
  | c :: cs => plainText c ++ plainTextOfList cs

end

mutual

/-- The targets of all links, in document order. -/
def links : Node → List SymbolId
  | text _ _ _ => []
  | link _ target _ => [target]
  | group _ _ _ _ cs => linksOfList cs

/-- The targets of all links in a list of nodes. -/
def linksOfList : List Node → List SymbolId
  | [] => []
  | c :: cs => links c ++ linksOfList cs

end

mutual

/-- The outermost nodes of kind symbol, in document order. -/
def symbols : Node → List Node
  | group (some .symbol) owner styles platforms cs =>
    [group (some .symbol) owner styles platforms cs]
  | group _ _ _ _ cs => symbolsOfList cs
  | _ => []

/-- The outermost nodes of kind symbol in a list of nodes. -/
def symbolsOfList : List Node → List Node
  | [] => []
  | c :: cs => symbols c ++ symbolsOfList cs

end

/-- The text of a tree with plain spaces. -/
def shownText (n : Node) : String :=
  Text.plainSpaces n.plainText

/-- The text of a signature with its platforms. -/
def signatureLine (n : Node) : String :=
  n.shownText ++ " [" ++ ", ".intercalate n.platforms.elements ++ "]"

/-- One line for each outermost symbol. -/
def symbolLines (n : Node) : List String :=
  n.symbols.map signatureLine

/-! ### Folding -/

variable {ν : Type}

mutual

/-- A tree made again by another factory. -/
def fold (f : NodeFactory ν) : Node → ν
  | text t styles platforms => f.text t styles platforms
  | link t target platforms => f.link t target platforms
  | group (some kind) (some owner) styles platforms cs =>
    f.owned owner kind styles platforms (foldList f cs)
  | group _ _ styles platforms cs => f.group (foldList f cs) styles platforms

/-- A list of trees made again by another factory. -/
def foldList (f : NodeFactory ν) : List Node → List ν
  | [] => []
  | c :: cs => fold f c :: foldList f cs

end

end Node

end PlatformSignatures
