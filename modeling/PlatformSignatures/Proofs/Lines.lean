import PlatformSignatures.Signature

/-!
# Signatures in several lines

A type alias, and a class that is an alias on some platforms, have one signature for each distinct
aliased type.  These lines are written in the same way in both languages.
-/

namespace PlatformSignatures

variable {ν : Type}

/-! ### Emissions -/

namespace Emission

theorem append_assoc (e₁ e₂ e₃ : Emission ν) :
  e₁ ++ e₂ ++ e₃ = e₁ ++ (e₂ ++ e₃)
  := by
  funext scope
  apply List.append_assoc

/-- Nodes that are made by the factory alone, one after the other. -/
theorem concat_made {α : Type} (gs : List α) (node : α → NodeFactory ν → ν) (scope : Scope ν) :
  concat (gs.map fun g => made (node g)) scope = gs.map fun g => node g scope.factory
  := by
  induction gs with
  | nil => rfl
  | cons g gs ih =>
      rw [List.map_cons, List.map_cons, ← ih]
      rfl

end Emission

/-! ### The lines of a declaration -/

namespace Dialect

/-- What stands between the visibility of a type alias and its aliased type. -/
def aliasHead (d : Dialect) (t : TypeAlias) : Emission ν :=
  match d with
  | kotlin => .text (Kotlin.modifiers t.facets) ++ .text "typealias " ++ Kotlin.typeExpr t.type
  | java => Java.typeExpr t.type

/-- The line of a type alias for an aliased type. -/
def aliasLine (d : Dialect) (c : Conventions) (t : TypeAlias) (underlying : TypeExpr) :
    Emission ν :=
  c.blockAnnotations t.facets ++ Signature.visibility c t.visibility ++ d.aliasHead t ++
    .text " = " ++ d.typeExpr underlying

theorem signature_typeAlias (d : Dialect) (c : Conventions) (t : TypeAlias) :
  (d.signature c (.typeAlias t) : NodeFactory ν → ν) = Signature.typeAlias t (d.aliasLine c t)
  := by
  cases d with
  | kotlin =>
      funext factory
      change Kotlin.typeAlias c t factory = _
      unfold Kotlin.typeAlias
      congr 1
      funext underlying
      simp only [aliasLine, aliasHead, typeExpr, Emission.append_assoc]
  | java => rfl

/-- The header of a class-like declaration on some platforms. -/
def classHeader (d : Dialect) (c : Conventions) (k : Classlike) :
    PlatformSet → NodeFactory ν → ν :=
  match d with
  | kotlin => Kotlin.classHeader c k
  | java => Java.classHeader c k

/-- What stands before the type that a class-like declaration is an alias of. -/
def aliasedHead (d : Dialect) (k : Classlike) : Emission ν :=
  match d with
  | kotlin => .text "actual typealias " ++ Signature.classLink k ++ .text " = "
  | java => Signature.classLink k ++ .text " = "

/-- The line of a class-like declaration for a type that it is an alias of. -/
def classLine (d : Dialect) (k : Classlike) (target : TypeExpr) : Emission ν :=
  d.aliasedHead k ++ d.typeExpr target

theorem signature_classlike (d : Dialect) (c : Conventions) {k : Classlike}
    (h : k.facets.actualAlias = none) :
  (d.signature c (.classlike k) : NodeFactory ν → ν) = d.classHeader c k k.platforms
  := by
  cases d with
  | kotlin => simp only [signature, Kotlin.signature, Kotlin.classlike, h, classHeader]
  | java => simp only [signature, Java.signature, Java.classlike, h, classHeader]

theorem signature_aliasedClasslike (d : Dialect) (c : Conventions) {k : Classlike}
    {aliased : PlatformMap TypeExpr} (h : k.facets.actualAlias = some aliased) :
  (d.signature c (.classlike k) : NodeFactory ν → ν)
    = Signature.aliasedClasslike k aliased (d.classHeader c k) (d.classLine k)
  := by
  cases d with
  | kotlin =>
      simp only [signature, Kotlin.signature, Kotlin.classlike, h]
      rfl
  | java =>
      simp only [signature, Java.signature, Java.classlike, h]
      rfl

end Dialect

/-! ### The symbols of a signature -/

namespace Node

theorem symbols_classHeader (d : Dialect) (c : Conventions) (k : Classlike)
    (platforms : PlatformSet) :
  (d.classHeader c k platforms factory).symbols = [d.classHeader c k platforms factory]
  := by
  cases d with
  | kotlin => rfl
  | java => rfl

theorem symbolsOfList_append (l k : List Node) :
  symbolsOfList (l ++ k) = symbolsOfList l ++ symbolsOfList k
  := by
  induction l with
  | nil => rfl
  | cons c cs ih => rw [List.cons_append, symbolsOfList, ih, symbolsOfList, List.append_assoc]

/-- The symbols of the lines for some groups are these lines. -/
theorem symbolsOfList_lines (id : SymbolId) (gs : List (TypeExpr × PlatformSet))
    (line : TypeExpr → Emission Node) (owner : SymbolId) (platforms : PlatformSet) :
  symbolsOfList (Emission.concat (gs.map fun g => .made (Signature.symbol id g.2 (line g.1)))
      ⟨factory, owner, platforms⟩)
    = gs.map fun g => Signature.symbol id g.2 (line g.1) factory
  := by
  rw [Emission.concat_made]
  induction gs with
  | nil => rfl
  | cons g gs ih =>
      rw [List.map_cons, symbolsOfList, ih]
      rfl

/-- A type alias has one symbol for each distinct aliased type. -/
theorem symbols_typeAlias (d : Dialect) (c : Conventions) (t : TypeAlias) :
  (d.signature c (.typeAlias t) factory).symbols
    = t.underlying.groups.map fun g => Signature.symbol t.id g.2 (d.aliasLine c t g.1) factory
  := by
  rw [Dialect.signature_typeAlias]
  apply symbolsOfList_lines

/-- A class that is an alias has its header as a symbol, unless it is an alias everywhere, and one
symbol for each distinct aliased type. -/
theorem symbols_aliasedClasslike (d : Dialect) (c : Conventions) {k : Classlike}
    {aliased : PlatformMap TypeExpr} (h : k.facets.actualAlias = some aliased) :
  (d.signature c (.classlike k) factory).symbols
    = (if (k.platforms.filter fun p => !aliased.contains p).isEmpty then []
        else [d.classHeader c k (k.platforms.filter fun p => !aliased.contains p) factory])
      ++ aliased.groups.map fun g => Signature.symbol k.id g.2 (d.classLine k g.1) factory
  := by
  rw [Dialect.signature_aliasedClasslike d c h]
  apply Eq.trans (symbolsOfList_append _ _)
  rw [symbolsOfList_lines]
  congr 1
  split
  · rfl
  · rw [← symbols_classHeader]
    apply List.append_nil

end Node

end PlatformSignatures
