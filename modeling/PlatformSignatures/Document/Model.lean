import PlatformSignatures.Document.Declaration
import PlatformSignatures.Json.Reader
import PlatformSignatures.Model

/-!
# Models in documents

The text of a model is a record with the list of its declarations and no other field.
-/

namespace PlatformSignatures

namespace Model

/-- A model as a record. -/
def toJson (m : Model) : Json :=
  .object [("declarations", .list Declaration.toJson m.declarations)]

/-- Why a text is not that of a model. -/
inductive ReadFault where
  /-- The text is not JSON. -/
  | text (fault : Json.Fault)
  /-- The text is JSON of another shape. -/
  | shape
  deriving DecidableEq

/-- The model given by a list of its declarations, if there is one. -/
def ofDeclarations (declarations : Option Json) : Except ReadFault Model :=
  match declarations with
  | none => .ok ⟨[]⟩
  | some j =>
    match j.list? Declaration.ofJson? with
    | some ds => .ok ⟨ds⟩
    | none => .error .shape

/-- The model that a document gives.

The record may be written as an array of at most one value; what follows a first value that is
right is too much text. -/
def ofJson : Json → Except ReadFault Model
  | .object [] => ofDeclarations none
  | .object [("declarations", j)] => ofDeclarations (some j)
  | .array [] => ofDeclarations none
  | .array [j] => ofDeclarations (some j)
  | .array (j :: _ :: _) => do
    let _ ← ofDeclarations (some j)
    .error (.text .malformed)
  | _ => .error .shape

/-- Reads the text of a model. -/
def read (text : String) : Except ReadFault Model :=
  match Json.read text with
  | .error fault => .error (.text fault)
  | .ok j => ofJson j

end Model

end PlatformSignatures
