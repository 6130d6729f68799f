import PlatformSignatures.Content.Node
import PlatformSignatures.Document.Symbol

/-!
# Content trees in documents

A node is a record that begins with what it is.  Styles are left out if there are none, and so are
the kind and the owner of a group that belongs to nothing.
-/

namespace PlatformSignatures

namespace Node

/-- The member for styles, if there are any. -/
def styleMembers (styles : List TextStyle) : List (String × Json) :=
  if styles.isEmpty then [] else [("styles", .list Enumerated.toJson styles)]

/-- The member for a value, if it is present. -/
def optionalMember {α : Type} (name : String) (encode : α → Json) :
    Option α → List (String × Json)
  | none => []
  | some a => [(name, encode a)]

mutual

/-- A node as a record. -/
def toJson : Node → Json
  | text t styles platforms =>
    .object ([("node", .string "text"), ("text", .string t)] ++ styleMembers styles ++
      [("platforms", PlatformSet.toJson platforms)])
  | link t target platforms =>
    .object [("node", .string "link"), ("text", .string t), ("target", target.toJson),
      ("platforms", PlatformSet.toJson platforms)]
  | group kind owner styles platforms children =>
    .object ([("node", .string "group")] ++ optionalMember "kind" Enumerated.toJson kind ++
      optionalMember "owner" SymbolId.toJson owner ++ styleMembers styles ++
      [("platforms", PlatformSet.toJson platforms), ("children", .array (toJsonList children))])

/-- The nodes of a list as records. -/
def toJsonList : List Node → List Json
  | [] => []
  | n :: ns => toJson n :: toJsonList ns

end

end Node

end PlatformSignatures
