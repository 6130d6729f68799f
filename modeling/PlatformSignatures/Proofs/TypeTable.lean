import PlatformSignatures.Proofs.ReadingTypes
import PlatformSignatures.Proofs.WrittenText

/-!
# The table of types

What a type looks like in a language is given by a table with a row for each form of types: its
text, made of the texts of the types in it, and its link, if it has one of its own.  The written
nodes have the text of the table, and their links are those of the types in it, in preorder.
-/

namespace PlatformSignatures

/-! ### The types in a type -/

namespace TypeExpr

mutual

/-- A type with all types inside it, in preorder. -/
def parts : TypeExpr → List TypeExpr
  | named id arguments marker => named id arguments marker :: partsOfList arguments
  | variance v inner => variance v inner :: parts inner
  | nullable inner => nullable inner :: parts inner
  | star => [star]
  | root => [root]
  | primitive name => [primitive name]
  | void => [void]
  | dynamic => [dynamic]
  | typeParameter name => [typeParameter name]

/-- The types of a list with all types inside them, in preorder. -/
def partsOfList : List TypeExpr → List TypeExpr
  | [] => []
  | t :: ts => parts t ++ partsOfList ts

end

theorem partsOfList_eq_flatMap (ts : List TypeExpr) :
  partsOfList ts = ts.flatMap parts
  := by
  induction ts with
  | nil => rfl
  | cons t ts ih => rw [partsOfList, ih, List.flatMap_cons]

/-- The name that a type has of its own. -/
def name? : TypeExpr → Option String
  | named id _ _ => some id.displayName
  | primitive name => some name
  | typeParameter name => some name
  | _ => none

/-- All names in a type. -/
def names (t : TypeExpr) : List String :=
  t.parts.filterMap name?

end TypeExpr

/-! ### The tables -/

/-- A named type: the name that its symbol is displayed by, and the arguments in angle brackets if
there are any. -/
def namedText (id : SymbolId) (arguments : List String) : String :=
  if arguments = [] then id.displayName
  else id.displayName ++ "<" ++ ", ".intercalate arguments ++ ">"

namespace Kotlin

/-- Whether a marked type with some number of arguments is an arrow: it needs a result, and an
extension function type also a receiver. -/
def isArrow : FunctionMarker → Nat → Bool
  | .notFunction, _ => false
  | .function, count => 1 ≤ count
  | .extension, count => 2 ≤ count

/-- An arrow: the last argument is the result, and the first one of an extension function type is
the receiver. -/
def arrowText (marker : FunctionMarker) (arguments : List String) : String :=
  if marker = .extension then
    arguments.headD "" ++ ".(" ++ ", ".intercalate arguments.tail.dropLast ++ ") -> " ++
      arguments.getLastD ""
  else "(" ++ ", ".intercalate arguments.dropLast ++ ") -> " ++ arguments.getLastD ""

mutual

/-- The text of a type. -/
def textOf : TypeExpr → String
  | .named id arguments marker =>
    if isArrow marker arguments.length then arrowText marker (textsOf arguments)
    else namedText id (textsOf arguments)
  | .variance .covariant inner => "out " ++ textOf inner
  | .variance .contravariant inner => "in " ++ textOf inner
  | .nullable inner => textOf inner ++ "?"
  | .star => "*"
  | .root => "Any"
  | .primitive name => Text.capitalize name
  | .void => "Unit"
  | .dynamic => "dynamic"
  | .typeParameter name => name

/-- The texts of the types of a list. -/
def textsOf : List TypeExpr → List String
  | [] => []
  | t :: ts => textOf t :: textsOf ts

end

/-- The target of the link that a type has of its own; an arrow has none. -/
def linkOf : TypeExpr → Option SymbolId
  | .named id arguments marker => if isArrow marker arguments.length then none else some id
  | .root => some SymbolId.kotlinAny
  | .primitive name => some (SymbolId.ofClass "kotlin" (Text.capitalize name))
  | .void => some SymbolId.kotlinUnit
  | _ => none

end Kotlin

namespace Java

mutual

/-- The text of a type. -/
def textOf : TypeExpr → String
  | .named id arguments _ => namedText id (textsOf arguments)
  | .variance .covariant inner => "? extends " ++ textOf inner
  | .variance .contravariant inner => "? super " ++ textOf inner
  | .nullable inner => textOf inner
  | .star => "?"
  | .root => "Object"
  | .primitive name => name
  | .void => "void"
  | .dynamic => "Object"
  | .typeParameter name => name

/-- The texts of the types of a list. -/
def textsOf : List TypeExpr → List String
  | [] => []
  | t :: ts => textOf t :: textsOf ts

end

/-- The target of the link that a type has of its own. -/
def linkOf : TypeExpr → Option SymbolId
  | .named id _ _ => some id
  | .root => some SymbolId.javaObject
  | .dynamic => some SymbolId.javaObject
  | _ => none

end Java

namespace Dialect

/-- The text of a type in a language. -/
def textOf : Dialect → TypeExpr → String
  | kotlin => Kotlin.textOf
  | java => Java.textOf

/-- The target of the link that a type has of its own in a language. -/
def linkOf : Dialect → TypeExpr → Option SymbolId
  | kotlin => Kotlin.linkOf
  | java => Java.linkOf

end Dialect

/-! ### Texts and links of named types and arrows -/

namespace Kotlin

variable {ν : Type}

/-- A marked type is a named type or an arrow, depending on its marker and the number of its
arguments. -/
theorem markedType_cases (id : SymbolId) (marker : FunctionMarker) (es : List (Emission ν)) :
  (isArrow marker es.length = false ∧ markedType id marker es = namedType id es) ∨
    (marker = .function ∧ ∃ as a, es = as ++ [a] ∧ markedType id marker es = arrow none as a) ∨
    (marker = .extension ∧ ∃ r as a, es = r :: (as ++ [a]) ∧
      markedType id marker es = arrow (some r) as a)
  := by
  cases marker with
  | notFunction =>
      apply Or.inl
      cases es <;> exact ⟨rfl, rfl⟩
  | function =>
      obtain rfl | ⟨as, a, rfl⟩ := List.eq_nil_or_concat' es
      · exact Or.inl ⟨rfl, rfl⟩
      · exact Or.inr (Or.inl ⟨rfl, as, a, rfl, markedType_function id as a⟩)
  | extension =>
      cases es with
      | nil => exact Or.inl ⟨rfl, rfl⟩
      | cons r es =>
          obtain rfl | ⟨as, a, rfl⟩ := List.eq_nil_or_concat' es
          · exact Or.inl ⟨rfl, rfl⟩
          · exact Or.inr (Or.inr ⟨rfl, r, as, a, rfl, markedType_extension id r as a⟩)

open Emission

variable {owner : SymbolId} {platforms : PlatformSet}

theorem writtenText_namedType (id : SymbolId) (es : List (Emission Node)) :
  writtenText owner platforms (namedType id es)
    = namedText id (es.map (writtenText owner platforms))
  := by
  cases es with
  | nil => simp [namedType, namedText]
  | cons e es => simp [namedType, namedText, String.append_assoc]

theorem writtenLinks_namedType (id : SymbolId) (es : List (Emission Node)) :
  writtenLinks owner platforms (namedType id es)
    = id :: es.flatMap (writtenLinks owner platforms)
  := by
  simp [namedType]

theorem arrowText_function (as : List String) (a : String) :
  arrowText .function (as ++ [a]) = "(" ++ ", ".intercalate as ++ ") -> " ++ a
  := by
  simp [arrowText]

theorem arrowText_extension (r : String) (as : List String) (a : String) :
  arrowText .extension (r :: (as ++ [a]))
    = r ++ ".(" ++ ", ".intercalate as ++ ") -> " ++ a
  := by
  have hlast : (r :: (as ++ [a])).getLastD "" = a := by
    rw [List.getLastD_eq_getLast?, ← List.cons_append, List.getLast?_concat, Option.getD_some]
  rw [arrowText, if_pos rfl, hlast, List.headD_cons, List.tail_cons, List.dropLast_concat]

theorem writtenText_markedType (id : SymbolId) (marker : FunctionMarker)
    (es : List (Emission Node)) :
  writtenText owner platforms (markedType id marker es)
    = if isArrow marker es.length then arrowText marker (es.map (writtenText owner platforms))
      else namedText id (es.map (writtenText owner platforms))
  := by
  obtain ⟨hnamed, heq⟩ | ⟨rfl, as, a, rfl, heq⟩ | ⟨rfl, r, as, a, rfl, heq⟩ :=
    markedType_cases id marker es
  · rw [heq, hnamed, writtenText_namedType]
    rfl
  · rw [heq, List.map_append, List.map_singleton, arrowText_function]
    simp [arrow, receiver, isArrow, String.append_assoc]
  · rw [heq, List.map_cons, List.map_append, List.map_singleton, arrowText_extension]
    simp [arrow, receiver, isArrow, String.append_assoc]

theorem writtenLinks_markedType (id : SymbolId) (marker : FunctionMarker)
    (es : List (Emission Node)) :
  writtenLinks owner platforms (markedType id marker es)
    = (if isArrow marker es.length then none else some id).toList ++
        es.flatMap (writtenLinks owner platforms)
  := by
  obtain ⟨hnamed, heq⟩ | ⟨rfl, as, a, rfl, heq⟩ | ⟨rfl, r, as, a, rfl, heq⟩ :=
    markedType_cases id marker es
  · rw [heq, hnamed, writtenLinks_namedType]
    rfl
  · rw [heq]
    simp [arrow, receiver, isArrow]
  · rw [heq]
    simp [arrow, receiver, isArrow]

mutual

theorem writtenText_typeExpr (t : TypeExpr) :
  writtenText owner platforms (typeExpr t) = textOf t
  := by
  cases t with
  | named id arguments marker =>
      rw [typeExpr, writtenText_markedType, map_writtenText_typeExprs arguments,
        typeExprs_eq_map, List.length_map]
      rfl
  | variance v inner => cases v <;> simp [typeExpr, textOf, writtenText_typeExpr inner]
  | nullable inner => simp [typeExpr, textOf, writtenText_typeExpr inner]
  | star => apply writtenText_text
  | root => apply writtenText_linkTo
  | primitive name => apply writtenText_namedType
  | void => apply writtenText_linkTo
  | dynamic => apply writtenText_text
  | typeParameter name => apply writtenText_text

theorem map_writtenText_typeExprs (ts : List TypeExpr) :
  (typeExprs ts).map (writtenText owner platforms) = textsOf ts
  := by
  cases ts with
  | nil => rfl
  | cons t ts =>
      rw [typeExprs, textsOf, List.map_cons, writtenText_typeExpr t, map_writtenText_typeExprs ts]

end

mutual

theorem writtenLinks_typeExpr (t : TypeExpr) :
  writtenLinks owner platforms (typeExpr t) = t.parts.filterMap linkOf
  := by
  cases t with
  | named id arguments marker =>
      rw [typeExpr, writtenLinks_markedType, flatMap_writtenLinks_typeExprs arguments,
        typeExprs_eq_map, List.length_map, TypeExpr.parts]
      by_cases h : isArrow marker arguments.length <;> simp [linkOf, h]
  | variance v inner =>
      have hinner : writtenLinks owner platforms (typeExpr inner)
        = (TypeExpr.variance v inner).parts.filterMap linkOf := writtenLinks_typeExpr inner
      cases v <;> simpa [typeExpr] using hinner
  | nullable inner =>
      have hinner : writtenLinks owner platforms (typeExpr inner)
        = (TypeExpr.nullable inner).parts.filterMap linkOf := writtenLinks_typeExpr inner
      simpa [typeExpr] using hinner
  | star => apply writtenLinks_text
  | root => rfl
  | primitive name => rfl
  | void => rfl
  | dynamic => rfl
  | typeParameter name => apply writtenLinks_text

theorem flatMap_writtenLinks_typeExprs (ts : List TypeExpr) :
  (typeExprs ts).flatMap (writtenLinks owner platforms)
    = (TypeExpr.partsOfList ts).filterMap linkOf
  := by
  cases ts with
  | nil => rfl
  | cons t ts =>
      rw [typeExprs, TypeExpr.partsOfList, List.flatMap_cons, List.filterMap_append,
        writtenLinks_typeExpr t, flatMap_writtenLinks_typeExprs ts]

end

end Kotlin

namespace Java

open Emission

variable {owner : SymbolId} {platforms : PlatformSet}

mutual

theorem writtenText_typeExpr (t : TypeExpr) :
  writtenText owner platforms (typeExpr t) = textOf t
  := by
  cases t with
  | named id arguments marker =>
      apply Eq.trans (Kotlin.writtenText_namedType id (typeExprs arguments))
      rw [map_writtenText_typeExprs arguments, textOf]
  | variance v inner => cases v <;> simp [typeExpr, textOf, writtenText_typeExpr inner]
  | nullable inner => rw [typeExpr, textOf, writtenText_typeExpr inner]
  | star => apply writtenText_text
  | root => apply writtenText_link
  | primitive name => apply writtenText_text
  | void => apply writtenText_text
  | dynamic => apply writtenText_link
  | typeParameter name => apply writtenText_text

theorem map_writtenText_typeExprs (ts : List TypeExpr) :
  (typeExprs ts).map (writtenText owner platforms) = textsOf ts
  := by
  cases ts with
  | nil => rfl
  | cons t ts =>
      rw [typeExprs, textsOf, List.map_cons, writtenText_typeExpr t, map_writtenText_typeExprs ts]

end

mutual

theorem writtenLinks_typeExpr (t : TypeExpr) :
  writtenLinks owner platforms (typeExpr t) = t.parts.filterMap linkOf
  := by
  cases t with
  | named id arguments marker =>
      apply Eq.trans (Kotlin.writtenLinks_namedType id (typeExprs arguments))
      rw [flatMap_writtenLinks_typeExprs arguments]
      rfl
  | variance v inner =>
      have hinner : writtenLinks owner platforms (typeExpr inner)
        = (TypeExpr.variance v inner).parts.filterMap linkOf := writtenLinks_typeExpr inner
      cases v <;> simpa [typeExpr] using hinner
  | nullable inner =>
      have hinner : writtenLinks owner platforms (typeExpr inner)
        = (TypeExpr.nullable inner).parts.filterMap linkOf := writtenLinks_typeExpr inner
      simpa [typeExpr] using hinner
  | star => rfl
  | root => rfl
  | primitive name => apply writtenLinks_text
  | void => rfl
  | dynamic => rfl
  | typeParameter name => apply writtenLinks_text

theorem flatMap_writtenLinks_typeExprs (ts : List TypeExpr) :
  (typeExprs ts).flatMap (writtenLinks owner platforms)
    = (TypeExpr.partsOfList ts).filterMap linkOf
  := by
  cases ts with
  | nil => rfl
  | cons t ts =>
      rw [typeExprs, TypeExpr.partsOfList, List.flatMap_cons, List.filterMap_append,
        writtenLinks_typeExpr t, flatMap_writtenLinks_typeExprs ts]

end

end Java

namespace Dialect

open Emission

variable {owner : SymbolId} {platforms : PlatformSet}

theorem writtenText_typeExpr (d : Dialect) (t : TypeExpr) :
  writtenText owner platforms (d.typeExpr t) = d.textOf t
  := by
  cases d with
  | kotlin => apply Kotlin.writtenText_typeExpr
  | java => apply Java.writtenText_typeExpr

theorem writtenLinks_typeExpr (d : Dialect) (t : TypeExpr) :
  writtenLinks owner platforms (d.typeExpr t) = t.parts.filterMap d.linkOf
  := by
  cases d with
  | kotlin => apply Kotlin.writtenLinks_typeExpr
  | java => apply Java.writtenLinks_typeExpr

end Dialect

end PlatformSignatures
