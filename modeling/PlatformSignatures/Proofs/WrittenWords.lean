import PlatformSignatures.Proofs.MarkedTypes
import PlatformSignatures.Proofs.Trees

/-!
# The words of a written type

What is written for a Kotlin type is a sequence of words: marks, names that are no links, and
links.  The text of the written nodes is the text of the words, one after the other, and their
links are those of the words.
-/

namespace PlatformSignatures

namespace Kotlin

/-! ### Words -/

/-- The marks between the parts of a type; a star stands for a type of its own. -/
inductive Mark where
  | less
  | greater
  | comma
  | dot
  | opening
  | arrow
  | covariant
  | contravariant
  | question
  | star
  deriving DecidableEq

/-- The text of a mark. -/
def Mark.text : Mark → String
  | less => "<"
  | greater => ">"
  | comma => ", "
  | dot => "."
  | opening => "("
  | arrow => ") -> "
  | covariant => "out "
  | contravariant => "in "
  | question => "?"
  | star => "*"

/-- The mark for a variance. -/
def Mark.ofVariance : Variance → Mark
  | .covariant => covariant
  | .contravariant => contravariant

/-- A part of a written type. -/
inductive Word where
  | mark (m : Mark)
  /-- A name that is no link. -/
  | name (text : String)
  /-- A link, with the name that its target is displayed by. -/
  | link (target : SymbolId)
  deriving DecidableEq

namespace Word

/-- The text of a word. -/
def text : Word → String
  | mark m => m.text
  | name n => n
  | link target => target.displayName

/-- The target of a word that is a link. -/
def target? : Word → Option SymbolId
  | link target => some target
  | _ => none

end Word

/-- The characters of some words, one after the other. -/
def letters (ws : List Word) : List Char :=
  ws.flatMap fun w => w.text.toList

/-- The targets of the links among some words. -/
def targets (ws : List Word) : List SymbolId :=
  ws.filterMap Word.target?

@[simp]
theorem letters_append (us ws : List Word) :
  letters (us ++ ws) = letters us ++ letters ws
  := List.flatMap_append

@[simp]
theorem letters_cons (w : Word) (ws : List Word) :
  letters (w :: ws) = w.text.toList ++ letters ws
  := List.flatMap_cons

@[simp]
theorem targets_append (us ws : List Word) :
  targets (us ++ ws) = targets us ++ targets ws
  := List.filterMap_append

/-! ### The words of a type -/

/-- Sequences of words with commas between them. -/
def commaSeparated : List (List Word) → List Word
  | [] => []
  | [ws] => ws
  | ws :: wss => ws ++ .mark .comma :: commaSeparated wss

theorem commaSeparated_cons_cons (us ws : List Word) (wss : List (List Word)) :
  commaSeparated (us :: ws :: wss) = us ++ .mark .comma :: commaSeparated (ws :: wss)
  := rfl

/-- Arguments in angle brackets, if there are any. -/
def bracketed : List (List Word) → List Word
  | [] => []
  | wss => .mark .less :: (commaSeparated wss ++ [.mark .greater])

theorem bracketed_cons (ws : List Word) (wss : List (List Word)) :
  bracketed (ws :: wss) = .mark .less :: (commaSeparated (ws :: wss) ++ [.mark .greater])
  := rfl

/-- The words of a named type. -/
def namedWords (id : SymbolId) (arguments : List (List Word)) : List Word :=
  .link id :: bracketed arguments

/-- The words of a receiver, with the dot after it. -/
def receiverWords : Option (List Word) → List Word
  | none => []
  | some ws => ws ++ [.mark .dot]

/-- The words of an arrow. -/
def arrowWords (ofReceiver : Option (List Word)) (parameters : List (List Word))
    (result : List Word) : List Word :=
  receiverWords ofReceiver ++
    .mark .opening :: (commaSeparated parameters ++ .mark .arrow :: result)

mutual

/-- The words that a type is written by. -/
def words : TypeExpr → List Word
  | .named id arguments marker => marked (namedWords id) arrowWords marker (wordsOfList arguments)
  | .variance v inner => .mark (.ofVariance v) :: words inner
  | .nullable inner => words inner ++ [.mark .question]
  | .star => [.mark .star]
  | .root => [.link SymbolId.kotlinAny]
  | .primitive name => [.link (SymbolId.ofClass "kotlin" (Text.capitalize name))]
  | .void => [.link SymbolId.kotlinUnit]
  | .dynamic => [.name "dynamic"]
  | .typeParameter name => [.name name]

/-- The words that each type of a list is written by. -/
def wordsOfList : List TypeExpr → List (List Word)
  | [] => []
  | t :: ts => words t :: wordsOfList ts

end

theorem wordsOfList_eq_map (ts : List TypeExpr) :
  wordsOfList ts = ts.map words
  := by
  induction ts with
  | nil => rfl
  | cons t ts ih => rw [wordsOfList, ih, List.map_cons]

/-! ### Nodes that spell words -/

/-- An emission spells words if the nodes it writes have their text and their links. -/
def Spells (owner : SymbolId) (platforms : PlatformSet) (e : Emission Node) (ws : List Word) :
    Prop :=
  (Node.plainTextOfList (e ⟨Node.factory, owner, platforms⟩)).toList = letters ws ∧
    Node.linksOfList (e ⟨Node.factory, owner, platforms⟩) = targets ws

variable {owner : SymbolId} {platforms : PlatformSet}

namespace Spells

theorem nothing :
  Spells owner platforms .nothing []
  := ⟨rfl, rfl⟩

theorem append {e f : Emission Node} {us ws : List Word} (h : Spells owner platforms e us)
    (h' : Spells owner platforms f ws) :
  Spells owner platforms (e ++ f) (us ++ ws)
  := by
  constructor
  · change (Node.plainTextOfList (_ ++ _)).toList = _
    rw [Node.plainTextOfList_append, String.toList_append, h.1, h'.1, letters_append]
  · change Node.linksOfList (_ ++ _) = _
    rw [Node.linksOfList_append, h.2, h'.2, targets_append]

theorem word {w : Word} {e : Emission Node}
    (htext : Node.plainTextOfList (e ⟨Node.factory, owner, platforms⟩) = w.text)
    (hlinks : Node.linksOfList (e ⟨Node.factory, owner, platforms⟩) = w.target?.toList) :
  Spells owner platforms e [w]
  := by
  rw [Spells, htext, hlinks, letters_cons, targets]
  cases w <;> exact ⟨(List.append_nil _).symm, rfl⟩

theorem text (t : String) {w : Word} (htext : w.text = t) (htarget : w.target? = none) :
  Spells owner platforms (.text t) [w]
  := by
  subst htext
  by_cases h : w.text = ""
  · have hnothing : Emission.text w.text ⟨Node.factory, owner, platforms⟩ = [] := if_pos h
    apply word
    · rw [hnothing, h, Node.plainTextOfList]
    · rw [hnothing, htarget]
      rfl
  · have hnode : Emission.text w.text ⟨Node.factory, owner, platforms⟩
        = [.text w.text [] platforms] := if_neg h
    apply word
    · rw [hnode]
      apply String.append_empty
    · rw [hnode, htarget]
      rfl

theorem mark (m : Mark) :
  Spells owner platforms (.text m.text) [.mark m]
  := text m.text rfl rfl

theorem linkTo (id : SymbolId) :
  Spells owner platforms (.linkTo id) [.link id]
  := word String.append_empty rfl

theorem group {e : Emission Node} {ws : List Word} (h : Spells owner platforms e ws) :
  Spells owner platforms (.group [] e) ws
  := by
  constructor
  · change (Node.plainTextOfList _ ++ "").toList = _
    rw [String.append_empty, h.1]
  · change Node.linksOfList _ ++ [] = _
    rw [List.append_nil, h.2]

theorem separated {es : List (Emission Node)} {wss : List (List Word)}
    (h : List.Forall₂ (Spells owner platforms) es wss) :
  Spells owner platforms (.separated ", " es) (commaSeparated wss)
  := by
  induction h with
  | nil => apply nothing
  | @cons e ws es wss h hs ih =>
      cases hs with
      | nil => apply h
      | @cons e' ws' es' wss' h' hs' =>
          have hall := (h.append (mark .comma)).append ih
          rw [List.append_assoc] at hall
          apply hall

theorem enclosed {es : List (Emission Node)} {wss : List (List Word)}
    (h : List.Forall₂ (Spells owner platforms) es wss) :
  Spells owner platforms (.enclosed "<" ">" ", " es) (bracketed wss)
  := by
  cases h with
  | nil => apply nothing
  | cons h hs => exact ((mark .less).append (separated (.cons h hs))).append (mark .greater)

theorem receiver {e : Option (Emission Node)} {ws : Option (List Word)}
    (h : Option.Rel (Spells owner platforms) e ws) :
  Spells owner platforms (Kotlin.receiver e) (receiverWords ws)
  := by
  cases h with
  | none => apply nothing
  | some h => apply h.append (mark .dot)

theorem namedType (id : SymbolId) {es : List (Emission Node)} {wss : List (List Word)}
    (h : List.Forall₂ (Spells owner platforms) es wss) :
  Spells owner platforms (Kotlin.namedType id es) (namedWords id wss)
  := group ((linkTo id).append (enclosed h))

theorem arrow {r : Option (Emission Node)} {r' : Option (List Word)} {es : List (Emission Node)}
    {wss : List (List Word)} {e : Emission Node} {ws : List Word}
    (hr : Option.Rel (Spells owner platforms) r r')
    (hs : List.Forall₂ (Spells owner platforms) es wss) (h : Spells owner platforms e ws) :
  Spells owner platforms (Kotlin.arrow r es e) (arrowWords r' wss ws)
  := by
  have hall := ((((receiver hr).append (mark .opening)).append (separated hs)).append
    (mark .arrow)).append h
  simp only [List.append_assoc, List.cons_append, List.nil_append] at hall
  apply group hall

end Spells

mutual

/-- What is written for a type spells its words. -/
theorem spells_words (t : TypeExpr) :
  Spells owner platforms (typeExpr t) (words t)
  := by
  cases t with
  | named id arguments marker =>
      rw [typeExpr, words, markedType_eq_marked]
      apply marked_rel (Spells.namedType id) Spells.arrow marker (spells_wordsOfList arguments)
  | variance v inner =>
      cases v with
      | covariant => exact ((Spells.mark .covariant).append (spells_words inner)).group
      | contravariant => exact ((Spells.mark .contravariant).append (spells_words inner)).group
  | nullable inner => exact ((spells_words inner).append (.mark .question)).group
  | star => exact .mark .star
  | root => exact .linkTo SymbolId.kotlinAny
  | primitive name => exact .namedType _ .nil
  | void => exact .linkTo SymbolId.kotlinUnit
  | dynamic => exact .text "dynamic" rfl rfl
  | typeParameter name => exact .text name rfl rfl

theorem spells_wordsOfList (ts : List TypeExpr) :
  List.Forall₂ (Spells owner platforms) (typeExprs ts) (wordsOfList ts)
  := by
  cases ts with
  | nil => exact .nil
  | cons t ts => exact .cons (spells_words t) (spells_wordsOfList ts)

end

end Kotlin

end PlatformSignatures
