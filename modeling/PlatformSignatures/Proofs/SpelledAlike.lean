import PlatformSignatures.Proofs.ForgottenLinks
import PlatformSignatures.Proofs.NormalForms

/-!
# Types that are spelled alike

Two types are spelled alike in Kotlin if they have the same text with the same links.  There are no
parentheses around types, so a nullable function type is spelled like a function type with a
nullable result, and a function type as a receiver like a function type with an extension function
type as its result.  Apart from that, and from type parameters that are called like a class beside
them, the spelling of a type determines it.
-/

namespace PlatformSignatures

namespace Kotlin

/-! ### Types with all their classes -/

mutual

/-- What is left of a type when it is written and every class in it is named. -/
def classForm : TypeExpr → TypeExpr
  | .named id arguments marker => normalNamed id marker (classForms arguments)
  | .variance v inner => .variance v (classForm inner)
  | .nullable inner => .nullable (classForm inner)
  | .root => .ofSymbol SymbolId.kotlinAny
  | .primitive name => .ofSymbol (SymbolId.ofClass "kotlin" (Text.capitalize name))
  | .void => .ofSymbol SymbolId.kotlinUnit
  | .star => .star
  | .dynamic => .dynamic
  | .typeParameter name => .typeParameter name

/-- What is left of the types of a list. -/
def classForms : List TypeExpr → List TypeExpr
  | [] => []
  | t :: ts => classForm t :: classForms ts

end

theorem classForms_eq_map (ts : List TypeExpr) :
  classForms ts = ts.map classForm
  := by
  induction ts with
  | nil => rfl
  | cons t ts ih => rw [classForms, ih, List.map_cons]

/-! ### Grouped types -/

/-- Whether a type begins with an operator, which takes in all that follows it. -/
def isOpen : TypeExpr → Bool
  | .variance _ _ => true
  | .named _ (_ :: _) .function => true
  | .named _ (_ :: _ :: _) .extension => true
  | _ => false

/-- The receiver of a marked type. -/
def receiverOf : FunctionMarker → List TypeExpr → Option TypeExpr
  | .extension, r :: _ :: _ => some r
  | _, _ => none

mutual

/-- No question mark and no receiver in a type applies to a function type or a variance. -/
def Grouped : TypeExpr → Prop
  | .named _ arguments marker =>
    GroupedList arguments ∧ ∀ r ∈ receiverOf marker arguments, isOpen r = false
  | .variance _ inner => Grouped inner
  | .nullable inner => Grouped inner ∧ isOpen inner = false
  | _ => True

/-- No question mark and no receiver in a list of types applies to a function type or a
variance. -/
def GroupedList : List TypeExpr → Prop
  | [] => True
  | t :: ts => Grouped t ∧ GroupedList ts

end

/-- A type is faithful if it is read as itself, and as a phrase without operators unless it begins
with one. -/
structure Faithful (t : TypeExpr) : Prop where
  reading : reading t = classForm t
  operators : isOpen t = false → (phrase t).operators = []

namespace Faithful

theorem map_type_phrases {ts : List TypeExpr} (h : ∀ t ∈ ts, Faithful t) :
  (phrases ts).map Phrase.type = classForms ts
  := by
  rw [phrases_eq_map, classForms_eq_map, List.map_map]
  apply List.map_congr_left
  intro t ht
  apply (h t ht).reading

theorem core {t : TypeExpr} (h : Faithful t) (hopen : isOpen t = false) :
  (phrase t).core = classForm t
  := by
  rw [← h.reading, Kotlin.reading, Phrase.type, h.operators hopen]
  rfl

theorem variance (v : Variance) {t : TypeExpr} (h : Faithful t) :
  Faithful (.variance v t)
  := by
  constructor
  · rw [classForm, ← h.reading]
    rfl
  · intro hopen
    contradiction

theorem nullable {t : TypeExpr} (h : Faithful t) (hopen : isOpen t = false) :
  Faithful (.nullable t)
  := by
  constructor
  · rw [Kotlin.reading, phrase, Phrase.type, h.operators hopen, h.core hopen]
    rfl
  · intro _
    apply h.operators hopen

theorem named {id : SymbolId} {ts : List TypeExpr} {marker : FunctionMarker}
    (hphrase : phrase (.named id ts marker) = .named id (phrases ts))
    (hform : classForm (.named id ts marker) = .named id (classForms ts) .notFunction)
    (h : ∀ t ∈ ts, Faithful t) :
  Faithful (.named id ts marker)
  := by
  constructor
  · rw [Kotlin.reading, hphrase, hform, ← map_type_phrases h]
    rfl
  · intro _
    rw [hphrase]
    rfl

theorem function (id : SymbolId) {ts : List TypeExpr} {t : TypeExpr} (hs : ∀ t ∈ ts, Faithful t)
    (h : Faithful t) :
  Faithful (.named id (ts ++ [t]) .function)
  := by
  have hphrase : phrase (.named id (ts ++ [t]) .function)
      = .arrow none (phrases ts) (phrase t) := by
    rw [phrase, phrases_eq_map, List.map_append, ← phrases_eq_map]
    apply marked_function
  have hform : classForm (.named id (ts ++ [t]) .function)
      = .named SymbolId.anonymous (classForms ts ++ [classForm t]) .function := by
    rw [classForm, classForms_eq_map, List.map_append, ← classForms_eq_map]
    apply normalNamed_function
  constructor
  · rw [Kotlin.reading, hphrase, hform, ← map_type_phrases hs, ← h.reading]
    rfl
  · intro hopen
    cases ts <;> contradiction

theorem extension (id : SymbolId) {r : TypeExpr} {ts : List TypeExpr} {t : TypeExpr}
    (hr : Faithful r) (hopen : isOpen r = false) (hs : ∀ t ∈ ts, Faithful t) (h : Faithful t) :
  Faithful (.named id (r :: (ts ++ [t])) .extension)
  := by
  have hphrase : phrase (.named id (r :: (ts ++ [t])) .extension)
      = .arrow (some (phrase r)) (phrases ts) (phrase t) := by
    rw [phrase, phrases_eq_map, List.map_cons, List.map_append, ← phrases_eq_map]
    apply marked_extension
  have hform : classForm (.named id (r :: (ts ++ [t])) .extension)
      = .named SymbolId.anonymous (classForm r :: (classForms ts ++ [classForm t])) .extension := by
    rw [classForm, classForms_eq_map, List.map_cons, List.map_append, ← classForms_eq_map]
    apply normalNamed_extension
  constructor
  · rw [Kotlin.reading, hphrase, hform, Phrase.arrow, hr.operators hopen, hr.core hopen,
      map_type_phrases hs, ← h.reading]
    rfl
  · intro hopen
    cases ts <;> contradiction

/-- A marked type is faithful if its arguments are and its receiver is not open. -/
theorem marked (id : SymbolId) (marker : FunctionMarker) {ts : List TypeExpr}
    (h : ∀ t ∈ ts, Faithful t) (hreceiver : ∀ r ∈ receiverOf marker ts, isOpen r = false) :
  Faithful (.named id ts marker)
  := by
  cases marker with
  | notFunction => cases ts <;> apply named rfl rfl h
  | function =>
      obtain rfl | ⟨ts, t, rfl⟩ := List.eq_nil_or_concat' ts
      · apply named rfl rfl h
      · rw [List.forall_mem_append, List.forall_mem_singleton] at h
        apply function id h.1 h.2
  | extension =>
      cases ts with
      | nil => apply named rfl rfl h
      | cons r ts =>
          obtain rfl | ⟨ts, t, rfl⟩ := List.eq_nil_or_concat' ts
          · apply named rfl rfl h
          · rw [List.forall_mem_cons, List.forall_mem_append, List.forall_mem_singleton] at h
            have hopen : isOpen r = false := by
              cases ts <;> apply hreceiver r rfl
            apply extension id h.1 hopen h.2.1 h.2.2

end Faithful

mutual

/-- A grouped type is read as itself. -/
theorem faithful_of_grouped (t : TypeExpr) (h : Grouped t) :
  Faithful t
  := by
  cases t with
  | named id arguments marker =>
      apply Faithful.marked id marker (faithful_of_groupedList arguments h.1) h.2
  | variance v inner => exact (faithful_of_grouped inner h).variance v
  | nullable inner => exact (faithful_of_grouped inner h.1).nullable h.2
  | _ => exact ⟨rfl, fun _ => rfl⟩

theorem faithful_of_groupedList (ts : List TypeExpr) (h : GroupedList ts) :
  ∀ t ∈ ts, Faithful t
  := by
  cases ts with
  | nil => apply List.forall_mem_nil
  | cons t ts =>
      rw [List.forall_mem_cons]
      exact ⟨faithful_of_grouped t h.1, faithful_of_groupedList ts h.2⟩

end

/-! ### Spelling -/

section

variable (owner : SymbolId) (platforms : PlatformSet)

/-- The text of what is written for a type. -/
def spelling (t : TypeExpr) : String :=
  Node.plainTextOfList (typeExpr t ⟨Node.factory, owner, platforms⟩)

/-- Two types are spelled alike if what is written for them has the same text and the same targets
of links in the same order. -/
def SpelledAlike (s t : TypeExpr) : Prop :=
  spelling owner platforms s = spelling owner platforms t ∧
    Node.linksOfList (typeExpr s ⟨Node.factory, owner, platforms⟩)
      = Node.linksOfList (typeExpr t ⟨Node.factory, owner, platforms⟩)

end

/-- No name in a type that is not a link is the name that the target of a link is displayed by. -/
def NamesApart (t : TypeExpr) : Prop :=
  ∀ n, .name n ∈ words t → ∀ id ∈ targets (words t), id.displayName ≠ n

variable {owner : SymbolId} {platforms : PlatformSet}

theorem spelling_eq_iff_letters (s t : TypeExpr) :
  spelling owner platforms s = spelling owner platforms t ↔ letters (words s) = letters (words t)
  := by
  rw [← (spells_words s).1, ← (spells_words t).1, String.toList_inj]
  apply Iff.rfl

theorem spelledAlike_iff_letters (s t : TypeExpr) :
  SpelledAlike owner platforms s t
    ↔ letters (words s) = letters (words t) ∧ targets (words s) = targets (words t)
  := by
  rw [SpelledAlike, spelling_eq_iff_letters, ← (spells_words s).2, ← (spells_words t).2]

/-- Plain types of which one has no name that is a link in one place and none in another are
spelled alike exactly if they are read as the same type. -/
theorem spelledAlike_iff_reading {s t : TypeExpr} (hs : Plain s) (ht : Plain t)
    (hnames : NamesApart s) :
  SpelledAlike owner platforms s t ↔ reading s = reading t
  := by
  rw [spelledAlike_iff_letters]
  constructor
  · rintro ⟨hletters, htargets⟩
    apply reading_eq_of_words_eq hs ht
    apply eq_of_letters_eq (legible_words s hs) (legible_words t ht) hletters htargets hnames
  · intro h
    rw [← words_reading s, h, words_reading t]
    exact ⟨rfl, rfl⟩

/-! ### What the spelling determines -/

/-- Plain types that are spelled alike are read as the same type once it is forgotten which names
are links.  If no name in one of them is a link in one place and none in another, they are read as
the same type; and if in addition no question mark and no receiver in them applies to a function
type or a variance, they are the same type up to classes that are not named, the names of function
types and markers without enough arguments. -/
theorem reading_eq_of_spelledAlike (owner : SymbolId) (platforms : PlatformSet) {s t : TypeExpr}
    (hs : Plain s) (ht : Plain t) (h : SpelledAlike owner platforms s t) :
  reading (nameForm s) = reading (nameForm t) ∧
    (NamesApart s → reading s = reading t ∧
      (Grouped s → Grouped t → classForm s = classForm t))
  := by
  constructor
  · rw [← letters_eq_iff hs ht]
    apply ((spelledAlike_iff_letters s t).mp h).1
  · intro hnames
    have hreading := (spelledAlike_iff_reading hs ht hnames).mp h
    use hreading
    intro hsgrouped htgrouped
    rw [← (faithful_of_grouped s hsgrouped).reading, hreading,
      (faithful_of_grouped t htgrouped).reading]

/-- A class of the package `app`. -/
def appClass (name : String) : TypeExpr :=
  .ofSymbol (SymbolId.ofClass "app" name)

/-- A function type from a nullable class and a type parameter to the root type. -/
def consumer : TypeExpr :=
  .named (SymbolId.ofClass "kotlin" "Function2")
    [.nullable (appClass "A"), .typeParameter "T", .root] .function

/-- The same function type by another name, with the root type as a class. -/
def namedConsumer : TypeExpr :=
  .named (SymbolId.ofClass "app" "Consumer")
    [.nullable (appClass "A"), .typeParameter "T", .ofSymbol SymbolId.kotlinAny] .function

theorem reading_eq_of_spelledAlike_consumer :
  (Plain consumer ∧ Plain namedConsumer) ∧
    SpelledAlike SymbolId.anonymous OrderedSet.empty consumer namedConsumer ∧
    NamesApart consumer ∧ (Grouped consumer ∧ Grouped namedConsumer) ∧
    classForm consumer = classForm namedConsumer
  := by
  have hplain : Plain consumer ∧ Plain namedConsumer := by
    simp only [consumer, namedConsumer, appClass, TypeExpr.ofSymbol, Plain, PlainList]
    decide
  have halike : SpelledAlike SymbolId.anonymous OrderedSet.empty consumer namedConsumer := by
    constructor <;> decide
  have hwords : words consumer = [.mark .opening, .link (SymbolId.ofClass "app" "A"),
      .mark .question, .mark .comma, .name "T", .mark .arrow, .link SymbolId.kotlinAny] := rfl
  have hnames : NamesApart consumer := by
    rw [NamesApart, hwords]
    intro n hn id hid
    obtain rfl : n = "T" := by simpa using hn
    revert id
    decide
  have hgrouped : Grouped consumer ∧ Grouped namedConsumer := by
    simp [consumer, namedConsumer, appClass, TypeExpr.ofSymbol, Grouped, GroupedList, receiverOf,
      isOpen]
  have hdetermined :=
    reading_eq_of_spelledAlike SymbolId.anonymous OrderedSet.empty hplain.1 hplain.2 halike
  exact ⟨hplain, halike, hnames, hgrouped, (hdetermined.2 hnames).2 hgrouped.1 hgrouped.2⟩

/-- Two types are confused if they are plain and spelled alike but differ in more than what is
never shown. -/
def Confused (s t : TypeExpr) : Prop :=
  (Plain s ∧ Plain t) ∧ SpelledAlike SymbolId.anonymous OrderedSet.empty s t ∧
    classForm s ≠ classForm t

/-- A function type with one parameter. -/
def functionType (parameter result : TypeExpr) : TypeExpr :=
  .named (SymbolId.ofClass "kotlin" "Function1") [parameter, result] .function

/-- A function type with a receiver and no parameter. -/
def extensionType (receiver result : TypeExpr) : TypeExpr :=
  .named (SymbolId.ofClass "kotlin" "Function1") [receiver, result] .extension

/-- A class with two arguments. -/
def pairType (first second : TypeExpr) : TypeExpr :=
  .generic (SymbolId.ofClass "kotlin" "Pair") [first, second]

/-- A nullable function type is confused with a function type with a nullable result, a function
type as a receiver with an extension function type as a result, and a class with a type parameter
of the same name. -/
theorem confused_types :
  Confused (.nullable (functionType (appClass "A") (appClass "B")))
      (functionType (appClass "A") (.nullable (appClass "B"))) ∧
    Confused (extensionType (functionType (appClass "A") (appClass "B")) (appClass "C"))
      (functionType (appClass "A") (extensionType (appClass "B") (appClass "C"))) ∧
    Confused (pairType (appClass "A") (.typeParameter "A"))
      (pairType (.typeParameter "A") (appClass "A"))
  := by
  refine ⟨?nullable, ?receiver, ?names⟩
  case nullable =>
    refine ⟨?_, ⟨by decide, rfl⟩, by decide⟩
    simp only [functionType, appClass, TypeExpr.ofSymbol, Plain, PlainList]
    decide
  case receiver =>
    refine ⟨?_, ⟨by decide, rfl⟩, by decide⟩
    simp only [functionType, extensionType, appClass, TypeExpr.ofSymbol, Plain, PlainList]
    decide
  case names =>
    refine ⟨?_, ⟨by decide, rfl⟩, by decide⟩
    simp only [pairType, appClass, TypeExpr.ofSymbol, TypeExpr.generic, Plain, PlainList]
    decide

end Kotlin

end PlatformSignatures
