import PlatformSignatures.Content.Emission
import PlatformSignatures.Proofs.Trees

/-!
# Written text and links

What an emission writes in a scope has a text and links.  Both are known from those of its parts:
emissions put after one another have their texts and links after one another, and a group has those
of what is in it.
-/

namespace PlatformSignatures

namespace Emission

/-- The text of the nodes that an emission writes. -/
def writtenText (owner : SymbolId) (platforms : PlatformSet) (e : Emission Node) : String :=
  Node.plainTextOfList (e ⟨Node.factory, owner, platforms⟩)

/-- The targets of the links that an emission writes. -/
def writtenLinks (owner : SymbolId) (platforms : PlatformSet) (e : Emission Node) :
    List SymbolId :=
  Node.linksOfList (e ⟨Node.factory, owner, platforms⟩)

variable {owner : SymbolId} {platforms : PlatformSet}

theorem styledText_of_ne {ν : Type} {t : String} (h : t ≠ "") (styles : List TextStyle)
    (scope : Scope ν) :
  styledText t styles scope = [scope.factory.text t styles scope.platforms]
  := if_neg h

theorem text_of_ne {ν : Type} {t : String} (h : t ≠ "") (scope : Scope ν) :
  text t scope = [scope.factory.text t [] scope.platforms]
  := styledText_of_ne h [] scope

theorem separated_cons_cons {ν : Type} (separator : String) (e e' : Emission ν)
    (es : List (Emission ν)) :
  separated separator (e :: e' :: es) = e ++ text separator ++ separated separator (e' :: es)
  := rfl

theorem enclosed_cons {ν : Type} (opening closing separator : String) (e : Emission ν)
    (es : List (Emission ν)) :
  enclosed opening closing separator (e :: es)
    = text opening ++ separated separator (e :: es) ++ text closing
  := rfl

/-! ### Texts -/

@[simp]
theorem writtenText_nothing :
  writtenText owner platforms nothing = ""
  := rfl

@[simp]
theorem writtenText_append (e f : Emission Node) :
  writtenText owner platforms (e ++ f)
    = writtenText owner platforms e ++ writtenText owner platforms f
  := Node.plainTextOfList_append _ _

@[simp]
theorem writtenText_concat (es : List (Emission Node)) :
  writtenText owner platforms (concat es) = String.join (es.map (writtenText owner platforms))
  := by
  induction es with
  | nil => rfl
  | cons e es ih =>
      rw [List.map_cons, String.join_cons, ← ih]
      apply writtenText_append

@[simp]
theorem writtenText_styledText (t : String) (styles : List TextStyle) :
  writtenText owner platforms (styledText t styles) = t
  := by
  by_cases h : t = ""
  · rw [h]
    rfl
  · rw [writtenText, styledText_of_ne h]
    apply String.append_empty

@[simp]
theorem writtenText_text (t : String) :
  writtenText owner platforms (text t) = t
  := writtenText_styledText t []

@[simp]
theorem writtenText_nbsp :
  writtenText owner platforms nbsp = String.singleton Text.nbsp
  := writtenText_text _

@[simp]
theorem writtenText_link (t : String) (target : SymbolId) :
  writtenText owner platforms (link t target) = t
  := String.append_empty

@[simp]
theorem writtenText_linkTo (target : SymbolId) :
  writtenText owner platforms (linkTo target) = target.displayName
  := writtenText_link _ _

@[simp]
theorem writtenText_group (styles : List TextStyle) (e : Emission Node) :
  writtenText owner platforms (group styles e) = writtenText owner platforms e
  := String.append_empty

@[simp]
theorem writtenText_separated (separator : String) (es : List (Emission Node)) :
  writtenText owner platforms (separated separator es)
    = separator.intercalate (es.map (writtenText owner platforms))
  := by
  induction es with
  | nil => exact String.intercalate_nil.symm
  | cons e es ih =>
      cases es with
      | nil => exact String.intercalate_singleton.symm
      | cons e' es =>
          rw [separated_cons_cons, writtenText_append, writtenText_append, writtenText_text, ih,
            List.map_cons, List.map_cons, List.map_cons, String.intercalate_cons_cons]

@[simp]
theorem writtenText_enclosed_nil (opening closing separator : String) :
  writtenText owner platforms (enclosed opening closing separator []) = ""
  := rfl

@[simp]
theorem writtenText_enclosed_cons (opening closing separator : String) (e : Emission Node)
    (es : List (Emission Node)) :
  writtenText owner platforms (enclosed opening closing separator (e :: es))
    = opening ++ separator.intercalate ((e :: es).map (writtenText owner platforms)) ++ closing
  := by
  rw [enclosed_cons, writtenText_append, writtenText_append, writtenText_text, writtenText_text,
    writtenText_separated]

/-! ### Links -/

@[simp]
theorem writtenLinks_nothing :
  writtenLinks owner platforms nothing = []
  := rfl

@[simp]
theorem writtenLinks_append (e f : Emission Node) :
  writtenLinks owner platforms (e ++ f)
    = writtenLinks owner platforms e ++ writtenLinks owner platforms f
  := Node.linksOfList_append _ _

@[simp]
theorem writtenLinks_styledText (t : String) (styles : List TextStyle) :
  writtenLinks owner platforms (styledText t styles) = []
  := by
  by_cases h : t = ""
  · rw [h]
    rfl
  · rw [writtenLinks, styledText_of_ne h]
    rfl

@[simp]
theorem writtenLinks_text (t : String) :
  writtenLinks owner platforms (text t) = []
  := writtenLinks_styledText t []

@[simp]
theorem writtenLinks_link (t : String) (target : SymbolId) :
  writtenLinks owner platforms (link t target) = [target]
  := rfl

@[simp]
theorem writtenLinks_linkTo (target : SymbolId) :
  writtenLinks owner platforms (linkTo target) = [target]
  := rfl

@[simp]
theorem writtenLinks_group (styles : List TextStyle) (e : Emission Node) :
  writtenLinks owner platforms (group styles e) = writtenLinks owner platforms e
  := List.append_nil _

@[simp]
theorem writtenLinks_separated (separator : String) (es : List (Emission Node)) :
  writtenLinks owner platforms (separated separator es)
    = es.flatMap (writtenLinks owner platforms)
  := by
  induction es with
  | nil => rfl
  | cons e es ih =>
      cases es with
      | nil => simp [separated]
      | cons e' es =>
          rw [separated_cons_cons, writtenLinks_append, writtenLinks_append, writtenLinks_text,
            ih, List.append_nil]
          exact List.flatMap_cons.symm

@[simp]
theorem writtenLinks_enclosed (opening closing separator : String) (es : List (Emission Node)) :
  writtenLinks owner platforms (enclosed opening closing separator es)
    = es.flatMap (writtenLinks owner platforms)
  := by
  cases es with
  | nil => rfl
  | cons e es => simp [enclosed_cons]

end Emission

end PlatformSignatures
