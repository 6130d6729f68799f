import PlatformSignatures.Proofs.Phrases

/-!
# Types whose links are forgotten

The text of a type does not show which of its names are links.  If this is forgotten, by taking
every name for that of a class, the text determines the type as it is read.
-/

namespace PlatformSignatures

namespace Kotlin

/-! ### Types by their names -/

/-- The class that stands for a name when it is forgotten which names are links. -/
def classOfName (name : String) : SymbolId :=
  SymbolId.ofClass "" name

/-- A word with a link for every name. -/
def Word.relinked : Word → Word
  | mark m => mark m
  | name n => link (classOfName n)
  | link target => link (classOfName target.displayName)

mutual

/-- A type in which it is forgotten which names are links. -/
def nameForm : TypeExpr → TypeExpr
  | .named id arguments marker =>
    .named (classOfName id.displayName) (nameForms arguments) marker
  | .variance v inner => .variance v (nameForm inner)
  | .nullable inner => .nullable (nameForm inner)
  | .star => .star
  | .root => .ofSymbol (classOfName "Any")
  | .primitive name => .ofSymbol (classOfName (Text.capitalize name))
  | .void => .ofSymbol (classOfName "Unit")
  | .dynamic => .ofSymbol (classOfName "dynamic")
  | .typeParameter name => .ofSymbol (classOfName name)

/-- The types of a list in which it is forgotten which names are links. -/
def nameForms : List TypeExpr → List TypeExpr
  | [] => []
  | t :: ts => nameForm t :: nameForms ts

end

mutual

theorem plain_nameForm (t : TypeExpr) (h : Plain t) :
  Plain (nameForm t)
  := by
  cases t with
  | named id arguments marker => exact ⟨h.1, plain_nameForms arguments h.2⟩
  | variance v inner => exact plain_nameForm inner h
  | nullable inner => exact plain_nameForm inner h
  | star => trivial
  | root => exact ⟨show IsPlain "Any" by decide, trivial⟩
  | primitive name => exact ⟨isPlain_capitalize h, trivial⟩
  | void => exact ⟨show IsPlain "Unit" by decide, trivial⟩
  | dynamic => exact ⟨show IsPlain "dynamic" by decide, trivial⟩
  | typeParameter name => exact ⟨h.1, trivial⟩

theorem plain_nameForms (ts : List TypeExpr) (h : PlainList ts) :
  PlainList (nameForms ts)
  := by
  cases ts with
  | nil => trivial
  | cons t ts => exact ⟨plain_nameForm t h.1, plain_nameForms ts h.2⟩

end

/-- Words are the others with a link for every name. -/
def Relinks (us ws : List Word) : Prop :=
  us = ws.map Word.relinked

namespace Relinks

theorem commaSeparated {uss wss : List (List Word)} (h : List.Forall₂ Relinks uss wss) :
  Relinks (commaSeparated uss) (commaSeparated wss)
  := by
  induction h with
  | nil => rfl
  | @cons us ws uss wss h hs ih =>
      cases hs with
      | nil => apply h
      | cons =>
          rw [Relinks, commaSeparated_cons_cons, commaSeparated_cons_cons, List.map_append,
            List.map_cons, ← h, ← ih]
          rfl

theorem namedWords (id : SymbolId) {uss wss : List (List Word)} (h : List.Forall₂ Relinks uss wss) :
  Relinks (namedWords (classOfName id.displayName) uss) (namedWords id wss)
  := by
  have hitems := commaSeparated h
  cases h with
  | nil => rfl
  | cons =>
      rw [Relinks, Kotlin.namedWords, Kotlin.namedWords, bracketed_cons, bracketed_cons,
        List.map_cons, List.map_cons, List.map_append, ← hitems]
      rfl

theorem arrowWords {r r' : Option (List Word)} {uss wss : List (List Word)} {us ws : List Word}
    (hr : Option.Rel Relinks r r') (hs : List.Forall₂ Relinks uss wss) (h : Relinks us ws) :
  Relinks (arrowWords r uss us) (arrowWords r' wss ws)
  := by
  have hrest : Relinks (.mark .opening :: (Kotlin.commaSeparated uss ++ .mark .arrow :: us))
      (.mark .opening :: (Kotlin.commaSeparated wss ++ .mark .arrow :: ws)) := by
    rw [Relinks, List.map_cons, List.map_append, List.map_cons, ← commaSeparated hs, ← h]
    rfl
  cases hr with
  | none => apply hrest
  | some hr =>
      rw [Relinks, Kotlin.arrowWords, Kotlin.arrowWords, receiverWords, receiverWords,
        List.map_append, List.map_append, ← hr, ← hrest]
      rfl

end Relinks

mutual

theorem words_nameForm (t : TypeExpr) :
  Relinks (words (nameForm t)) (words t)
  := by
  cases t with
  | named id arguments marker =>
      apply marked_rel (Relinks.namedWords id) Relinks.arrowWords marker (words_nameForms arguments)
  | variance v inner =>
      rw [nameForm, words, words, Relinks, List.map_cons, ← words_nameForm inner]
      rfl
  | nullable inner =>
      rw [nameForm, words, words, Relinks, List.map_append, ← words_nameForm inner]
      rfl
  | _ => rfl

theorem words_nameForms (ts : List TypeExpr) :
  List.Forall₂ Relinks (wordsOfList (nameForms ts)) (wordsOfList ts)
  := by
  cases ts with
  | nil => exact .nil
  | cons t ts => exact .cons (words_nameForm t) (words_nameForms ts)

end

theorem Word.relinked_unlinked (w : Word) :
  w.unlinked.relinked = w.relinked
  := by
  cases w <;> rfl

theorem Word.text_relinked (w : Word) :
  w.relinked.text = w.text
  := by
  cases w <;> rfl

theorem letters_map_relinked (ws : List Word) :
  letters (ws.map Word.relinked) = letters ws
  := by
  simp only [letters, List.flatMap_map, Word.text_relinked]

/-- Plain types have the same text exactly if they are read as the same type once it is forgotten
which names are links. -/
theorem letters_eq_iff {s t : TypeExpr} (hs : Plain s) (ht : Plain t) :
  letters (words s) = letters (words t) ↔ reading (nameForm s) = reading (nameForm t)
  := by
  constructor
  · intro h
    have hunlinked := map_unlinked_eq (legible_words s hs) (legible_words t ht) h
    have hrelinked : (words s).map Word.relinked = (words t).map Word.relinked := by
      have hmap := congrArg (List.map Word.relinked) hunlinked
      simpa only [List.map_map, Function.comp_def, Word.relinked_unlinked] using hmap
    apply reading_eq_of_words_eq (plain_nameForm s hs) (plain_nameForm t ht)
    rw [words_nameForm s, hrelinked, words_nameForm t]
  · intro h
    have hwords : words (nameForm s) = words (nameForm t) := by
      rw [← words_reading, h, words_reading]
    rw [words_nameForm s, words_nameForm t] at hwords
    rw [← letters_map_relinked, hwords, letters_map_relinked]

end Kotlin

end PlatformSignatures
