import PlatformSignatures.Content.Emission

/-!
# Emitters

An emitter holds the nodes that have been written so far in a scope.  A program tells it what to
write next, step by step; some steps are carried out by an emitter of their own, on other platforms
or for another owner, and the emitter goes on where it was.  A program also stands for an emission,
which knows nothing of the nodes that are there already.
-/

namespace PlatformSignatures

variable {ν : Type}

/-! ### Emitters -/

/-- The nodes that have been written in a scope so far. -/
structure Emitter (ν : Type) where
  scope : Scope ν
  nodes : List ν

namespace Emitter

variable (e : Emitter ν)

/-- An emitter with one more node. -/
def push (n : ν) : Emitter ν :=
  { e with nodes := e.nodes ++ [n] }

/-- An emitter for an owner on platforms that has written nothing yet. -/
def inner (owner : SymbolId) (platforms : PlatformSet) : Emitter ν :=
  ⟨⟨e.scope.factory, owner, platforms⟩, []⟩

/-- The node that belongs to the owner of the scope and holds what has been written. -/
def finish (kind : ContentKind) (styles : List TextStyle) : ν :=
  e.scope.factory.owned e.scope.owner kind styles e.scope.platforms e.nodes

/-- Writes a text with styles, unless it is empty. -/
def styledText (t : String) (styles : List TextStyle) : Emitter ν :=
  if t = "" then e else e.push (e.scope.factory.text t styles e.scope.platforms)

/-- Writes a text without styles, unless it is empty. -/
def text (t : String) : Emitter ν :=
  e.styledText t []

/-- Writes a link. -/
def link (t : String) (target : SymbolId) : Emitter ν :=
  e.push (e.scope.factory.link t target e.scope.platforms)

/-- Writes a text for each distinct token of an attribute on the platforms of the scope, unless it
is blank. -/
def perPlatform {α : Type} (values : PlatformMap α) (token : α → String) : Emitter ν :=
  let tokens := e.scope.platforms.elements.filterMap fun p =>
    (values.get? p).map fun a => (p, token a)
  (groupByValue tokens).foldl
    (fun e g => if Text.isBlank g.1 then e else e.push (e.scope.factory.text g.1 [] g.2)) e

end Emitter

/-! ### Programs -/

/-- What an emitter is told to write. -/
inductive Program : Type 1 where
  | nothing
  | followedBy (first second : Program)
  | text (t : String)
  | styledText (t : String) (styles : List TextStyle)
  | link (t : String) (target : SymbolId)
  | group (styles : List TextStyle) (body : Program)
  | onPlatforms (platforms : PlatformSet) (body : Program)
  | owned (owner : SymbolId) (kind : ContentKind) (styles : List TextStyle)
      (platforms : PlatformSet) (body : Program)
  /-- Items with a separator between them, between an opening and a closing text. -/
  | enclosed (opening closing separator : String) (items : List Program)
  | perPlatform {α : Type} (values : PlatformMap α) (token : α → String)

namespace Program

mutual

/-- Carries out a program. -/
def perform : Program → Emitter ν → Emitter ν
  | nothing, e => e
  | followedBy first second, e => perform second (perform first e)
  | text t, e => e.text t
  | styledText t styles, e => e.styledText t styles
  | link t target, e => e.link t target
  | group styles body, e =>
    e.push (e.scope.factory.group
      (perform body (e.inner e.scope.owner e.scope.platforms)).nodes styles e.scope.platforms)
  | onPlatforms platforms body, e =>
    { e with nodes := e.nodes ++ (perform body (e.inner e.scope.owner platforms)).nodes }
  | owned owner kind styles platforms body, e =>
    e.push ((perform body (e.inner owner platforms)).finish kind styles)
  | enclosed _ _ _ [], e => e
  | enclosed opening closing separator (item :: items), e =>
    (performItems separator (item :: items) (e.text opening)).text closing
  | perPlatform values token, e => e.perPlatform values token

/-- Carries out the items of a list, with a separator between them. -/
def performItems (separator : String) : List Program → Emitter ν → Emitter ν
  | [], e => e
  | [item], e => perform item e
  | item :: items, e => performItems separator items ((perform item e).text separator)

end

mutual

/-- What a program writes. -/
def emission : Program → Emission ν
  | nothing => .nothing
  | followedBy first second => emission first ++ emission second
  | text t => .text t
  | styledText t styles => .styledText t styles
  | link t target => .link t target
  | group styles body => .group styles (emission body)
  | onPlatforms platforms body => .onPlatforms platforms (emission body)
  | owned owner kind styles platforms body => .owned owner kind styles platforms (emission body)
  | enclosed opening closing separator items =>
    .enclosed opening closing separator (emissions items)
  | perPlatform values token => .perPlatform values token

/-- What the programs of a list write. -/
def emissions : List Program → List (Emission ν)
  | [] => []
  | p :: ps => emission p :: emissions ps

end

end Program

end PlatformSignatures
