import PlatformSignatures.Proofs.SplittingWords

/-!
# Phrases

A written type is a phrase: some operators, which take in all that follows them, in front of a core
that a question mark or the dot after a receiver applies to.  A type is read by going through its
words from left to right and keeping the phrases that are not yet complete.  What is read is the
type itself, except that question marks and receivers are attached to the nearest core, whatever
they were attached to in the type.
-/

namespace PlatformSignatures

namespace Kotlin

/-! ### Phrases -/

/-- What stands in front of a type: a variance, or an arrow with the types before it. -/
inductive Operator where
  | variance (v : Variance)
  | arrow (receiver : Option TypeExpr) (parameters : List TypeExpr)

/-- The type that an operator makes of the type after it. -/
def Operator.before : Operator → TypeExpr → TypeExpr
  | variance v, t => .variance v t
  | arrow none parameters, t => .named SymbolId.anonymous (parameters ++ [t]) .function
  | arrow (some r) parameters, t => .named SymbolId.anonymous (r :: (parameters ++ [t])) .extension

/-- Operators in front of a core. -/
structure Phrase where
  operators : List Operator
  core : TypeExpr

namespace Phrase

/-- The type of a phrase. -/
def type (p : Phrase) : TypeExpr :=
  p.operators.foldr Operator.before p.core

/-- The phrase of a named type. -/
def named (id : SymbolId) (arguments : List Phrase) : Phrase :=
  ⟨[], .named id (arguments.map type) .notFunction⟩

/-- The phrase of an arrow; the operators of its receiver come first. -/
def arrow (receiver : Option Phrase) (parameters : List Phrase) (result : Phrase) : Phrase :=
  match receiver with
  | none => ⟨.arrow none (parameters.map type) :: result.operators, result.core⟩
  | some r =>
    ⟨r.operators ++ .arrow (some r.core) (parameters.map type) :: result.operators, result.core⟩

end Phrase

mutual

/-- The phrase that a type is written as. -/
def phrase : TypeExpr → Phrase
  | .named id arguments marker => marked (Phrase.named id) Phrase.arrow marker (phrases arguments)
  | .variance v inner => ⟨.variance v :: (phrase inner).operators, (phrase inner).core⟩
  | .nullable inner => ⟨(phrase inner).operators, .nullable (phrase inner).core⟩
  | .star => ⟨[], .star⟩
  | .root => ⟨[], .ofSymbol SymbolId.kotlinAny⟩
  | .primitive name => ⟨[], .ofSymbol (SymbolId.ofClass "kotlin" (Text.capitalize name))⟩
  | .void => ⟨[], .ofSymbol SymbolId.kotlinUnit⟩
  | .dynamic => ⟨[], .dynamic⟩
  | .typeParameter name => ⟨[], .typeParameter name⟩

/-- The phrases that the types of a list are written as. -/
def phrases : List TypeExpr → List Phrase
  | [] => []
  | t :: ts => phrase t :: phrases ts

end

theorem phrases_eq_map (ts : List TypeExpr) :
  phrases ts = ts.map phrase
  := by
  induction ts with
  | nil => rfl
  | cons t ts ih => rw [phrases, ih, List.map_cons]

/-- The type as it is read: every question mark and every receiver is attached to the nearest
core. -/
def reading (t : TypeExpr) : TypeExpr :=
  (phrase t).type

/-! ### Reading words -/

/-- The state of reading inside a pair of brackets: the types that are complete, and the operators
and the core of the next one. -/
structure Frame where
  complete : List TypeExpr
  operators : List Operator
  core : Option TypeExpr

namespace Frame

/-- The state at the start. -/
def start : Frame := ⟨[], [], none⟩

/-- The types in a pair of brackets, at its end. -/
def types (f : Frame) : List TypeExpr :=
  match f.core with
  | none => f.complete
  | some core => f.complete ++ [Phrase.type ⟨f.operators, core⟩]

/-- The state after a phrase at the start of a type. -/
def after (f : Frame) (p : Phrase) : Frame :=
  ⟨f.complete, f.operators ++ p.operators, some p.core⟩

/-- The state after arguments of the core. -/
def withArguments (f : Frame) (arguments : List TypeExpr) : Frame :=
  match f.core with
  | some (.named id _ marker) => ⟨f.complete, f.operators, some (.named id arguments marker)⟩
  | _ => f

/-- The state after a word without brackets. -/
def read (f : Frame) : Word → Frame
  | .link id => f.after ⟨[], .ofSymbol id⟩
  | .name n => f.after ⟨[], if n = "dynamic" then .dynamic else .typeParameter n⟩
  | .mark .star => f.after ⟨[], .star⟩
  | .mark .covariant => ⟨f.complete, f.operators ++ [.variance .covariant], none⟩
  | .mark .contravariant => ⟨f.complete, f.operators ++ [.variance .contravariant], none⟩
  | .mark .question => ⟨f.complete, f.operators, f.core.map .nullable⟩
  | .mark .comma => ⟨f.types, [], none⟩
  | _ => f

end Frame

/-- The states of reading inside all open pairs of brackets, the innermost first, after a word. -/
def step : List Frame → Word → List Frame
  | fs, .mark .less => .start :: fs
  | fs, .mark .opening => .start :: fs
  | f :: g :: fs, .mark .greater => g.withArguments f.types :: fs
  | f :: g :: fs, .mark .arrow =>
    ⟨g.complete, g.operators ++ [.arrow g.core f.types], none⟩ :: fs
  | f :: fs, w => f.read w :: fs
  | [], _ => []

/-- Words give a phrase if they are read as it at the start of any type. -/
def Gives (ws : List Word) (p : Phrase) : Prop :=
  ∀ f fs, f.core = none → ws.foldl step (f :: fs) = f.after p :: fs

namespace Gives

theorem word {w : Word} {core : TypeExpr}
    (h : ∀ f fs, step (f :: fs) w = f.after ⟨[], core⟩ :: fs) :
  Gives [w] ⟨[], core⟩
  := fun f fs _ => h f fs

theorem variance (v : Variance) {ws : List Word} {p : Phrase} (h : Gives ws p) :
  Gives (.mark (.ofVariance v) :: ws) ⟨.variance v :: p.operators, p.core⟩
  := by
  intro f fs _
  have hstep : step (f :: fs) (.mark (.ofVariance v))
      = ⟨f.complete, f.operators ++ [.variance v], none⟩ :: fs := by
    cases v <;> cases fs <;> rfl
  rw [List.foldl_cons, hstep, h _ fs rfl, Frame.after, List.append_assoc]
  rfl

theorem nullable {ws : List Word} {p : Phrase} (h : Gives ws p) :
  Gives (ws ++ [.mark .question]) ⟨p.operators, .nullable p.core⟩
  := by
  intro f fs hf
  rw [List.foldl_append, h f fs hf]
  cases fs <;> rfl

/-- The types of a list are read between commas. -/
theorem commaSeparated {wss : List (List Word)} {ps : List Phrase} (h : List.Forall₂ Gives wss ps)
    (complete : List TypeExpr) (fs : List Frame) :
  ∃ f, (commaSeparated wss).foldl step (⟨complete, [], none⟩ :: fs) = f :: fs ∧
    f.types = complete ++ ps.map Phrase.type
  := by
  -- Every type that is read adds to the complete ones, so these vary in the induction.
  induction h generalizing complete with
  | nil =>
      use ⟨complete, [], none⟩, rfl
      rw [List.map_nil, List.append_nil]
      rfl
  | @cons ws p wss ps h hs ih =>
      have hfirst := h ⟨complete, [], none⟩ fs rfl
      cases hs with
      | nil => exact ⟨_, hfirst, rfl⟩
      | @cons ws' p' wss' ps' h' hs' =>
          have hcomma (f : Frame) : step (f :: fs) (.mark .comma) = ⟨f.types, [], none⟩ :: fs := by
            cases fs <;> rfl
          obtain ⟨f, hrest, htypes⟩ := ih (complete ++ [p.type])
          use f
          constructor
          · rw [commaSeparated_cons_cons, List.foldl_append, hfirst, List.foldl_cons, hcomma]
            apply hrest
          · rw [htypes, List.append_assoc]
            rfl

theorem named (id : SymbolId) {wss : List (List Word)} {ps : List Phrase}
    (h : List.Forall₂ Gives wss ps) :
  Gives (namedWords id wss) (.named id ps)
  := by
  intro f fs _
  have hlink : step (f :: fs) (.link id) = f.after ⟨[], .ofSymbol id⟩ :: fs := by
    cases fs <;> rfl
  rw [namedWords, List.foldl_cons, hlink]
  obtain ⟨g, hread, htypes⟩ := commaSeparated h [] (f.after ⟨[], .ofSymbol id⟩ :: fs)
  cases h with
  | nil => rfl
  | cons h hs =>
      have hless : step (f.after ⟨[], .ofSymbol id⟩ :: fs) (.mark .less)
          = ⟨[], [], none⟩ :: f.after ⟨[], .ofSymbol id⟩ :: fs := rfl
      rw [bracketed_cons, List.foldl_cons, hless, List.foldl_append, hread]
      change (f.after ⟨[], .ofSymbol id⟩).withArguments g.types :: fs = _
      rw [htypes]
      rfl

/-- An arrow turns the core in front of it into its receiver. -/
theorem foldl_arrow {wss : List (List Word)} {ps : List Phrase} {ws : List Word} {p : Phrase}
    (hs : List.Forall₂ Gives wss ps) (h : Gives ws p) (f : Frame) (fs : List Frame) :
  (.mark .opening :: (Kotlin.commaSeparated wss ++ .mark .arrow :: ws)).foldl step (f :: fs)
    = ⟨f.complete, f.operators ++ .arrow f.core (ps.map Phrase.type) :: p.operators,
        some p.core⟩ :: fs
  := by
  obtain ⟨g, hread, htypes⟩ := commaSeparated hs [] (f :: fs)
  have hopening : step (f :: fs) (.mark .opening) = ⟨[], [], none⟩ :: f :: fs := rfl
  have harrow : step (g :: f :: fs) (.mark .arrow)
      = ⟨f.complete, f.operators ++ [.arrow f.core g.types], none⟩ :: fs := rfl
  rw [List.foldl_cons, hopening, List.foldl_append, hread, List.foldl_cons, harrow, h _ fs rfl,
    htypes, Frame.after, List.append_assoc]
  rfl

theorem arrow {r : Option (List Word)} {r' : Option Phrase} {wss : List (List Word)}
    {ps : List Phrase} {ws : List Word} {p : Phrase} (hr : Option.Rel Gives r r')
    (hs : List.Forall₂ Gives wss ps) (h : Gives ws p) :
  Gives (arrowWords r wss ws) (.arrow r' ps p)
  := by
  intro f fs hf
  rw [arrowWords, List.foldl_append]
  cases hr with
  | none =>
      apply Eq.trans (foldl_arrow hs h f fs)
      rw [hf]
      rfl
  | @some us q hr =>
      have hdot : [Word.mark .dot].foldl step (f.after q :: fs) = f.after q :: fs := by
        cases fs <;> rfl
      -- The operators of the receiver stay in front; only its core goes into the arrow.
      rw [receiverWords, List.foldl_append, hr f fs hf, hdot]
      apply Eq.trans (foldl_arrow hs h (f.after q) fs)
      rw [Frame.after, Frame.after, Phrase.arrow, List.append_assoc]

end Gives

mutual

theorem gives_phrase (t : TypeExpr) (h : Plain t) :
  Gives (words t) (phrase t)
  := by
  cases t with
  | named id arguments marker =>
      apply marked_rel (Gives.named id) Gives.arrow marker (gives_phrases arguments h.2)
  | variance v inner => exact (gives_phrase inner h).variance v
  | nullable inner => exact (gives_phrase inner h).nullable
  | star => exact .word fun _ _ => rfl
  | root => exact .word fun _ _ => rfl
  | primitive name => exact .word fun _ _ => rfl
  | void => exact .word fun _ _ => rfl
  | dynamic => exact .word fun _ _ => rfl
  | typeParameter name =>
      apply Gives.word
      intro f fs
      change f.after ⟨[], if name = "dynamic" then .dynamic else .typeParameter name⟩ :: fs = _
      rw [if_neg h.2]

theorem gives_phrases (ts : List TypeExpr) (h : PlainList ts) :
  List.Forall₂ Gives (wordsOfList ts) (phrases ts)
  := by
  cases ts with
  | nil => exact .nil
  | cons t ts => exact .cons (gives_phrase t h.1) (gives_phrases ts h.2)

end

/-- Plain types with the same words are read as the same type. -/
theorem reading_eq_of_words_eq {s t : TypeExpr} (hs : Plain s) (ht : Plain t)
    (h : words s = words t) :
  reading s = reading t
  := by
  have hframes := gives_phrase s hs .start [] rfl
  rw [h, gives_phrase t ht .start [] rfl, List.singleton_inj] at hframes
  have htypes : [reading t] = [reading s] := congrArg Frame.types hframes
  exact (List.singleton_inj.mp htypes).symm

/-! ### What is read is written alike -/

/-- The words of an operator. -/
def Operator.words : Operator → List Word
  | variance v => [.mark (.ofVariance v)]
  | arrow receiver parameters =>
    receiverWords (receiver.map Kotlin.words) ++
      .mark .opening :: (commaSeparated (parameters.map Kotlin.words) ++ [.mark .arrow])

/-- The words of a phrase. -/
def Phrase.words (p : Phrase) : List Word :=
  p.operators.flatMap Operator.words ++ Kotlin.words p.core

theorem Operator.words_before (o : Operator) (t : TypeExpr) :
  Kotlin.words (o.before t) = o.words ++ Kotlin.words t
  := by
  cases o with
  | variance v => rfl
  | arrow receiver parameters =>
      cases receiver with
      | none =>
          rw [before, Kotlin.words, wordsOfList_eq_map, List.map_append]
          apply Eq.trans (marked_function _ _)
          simp [arrowWords, words]
      | some r =>
          rw [before, Kotlin.words, wordsOfList_eq_map, List.map_cons, List.map_append]
          apply Eq.trans (marked_extension _ _ _)
          simp [arrowWords, words]

theorem Phrase.words_type (p : Phrase) :
  Kotlin.words p.type = p.words
  := by
  obtain ⟨operators, core⟩ := p
  induction operators with
  | nil => rfl
  | cons o operators ih =>
      change Kotlin.words (o.before (Phrase.type ⟨operators, core⟩)) = _
      rw [Operator.words_before, ih, words, words, List.flatMap_cons, List.append_assoc]

theorem map_words_type {wss : List (List Word)} {ps : List Phrase}
    (h : List.Forall₂ (fun ws p => p.words = ws) wss ps) :
  (ps.map Phrase.type).map words = wss
  := by
  induction h with
  | nil => rfl
  | cons h _ ih => rw [List.map_cons, List.map_cons, ih, Phrase.words_type, h]

theorem Phrase.words_named (id : SymbolId) {wss : List (List Word)} {ps : List Phrase}
    (h : List.Forall₂ (fun ws p => p.words = ws) wss ps) :
  (Phrase.named id ps).words = namedWords id wss
  := by
  change marked (namedWords id) arrowWords .notFunction (wordsOfList (ps.map type)) = _
  rw [wordsOfList_eq_map, map_words_type h]
  cases wss <;> rfl

theorem Phrase.words_arrow {r : Option (List Word)} {r' : Option Phrase} {wss : List (List Word)}
    {ps : List Phrase} {ws : List Word} {p : Phrase}
    (hr : Option.Rel (fun ws p => p.words = ws) r r')
    (hs : List.Forall₂ (fun ws p => p.words = ws) wss ps) (h : p.words = ws) :
  (Phrase.arrow r' ps p).words = arrowWords r wss ws
  := by
  have hparameters := map_words_type hs
  subst h
  cases hr with
  | none => simp [arrow, words, Operator.words, arrowWords, hparameters]
  | some hr =>
      subst hr
      simp [arrow, words, Operator.words, arrowWords, receiverWords, hparameters]

mutual

/-- A type is written by the words of its phrase. -/
theorem words_phrase (t : TypeExpr) :
  (phrase t).words = words t
  := by
  cases t with
  | named id arguments marker =>
      exact marked_rel (Phrase.words_named id) Phrase.words_arrow marker (words_phrases arguments)
  | variance v inner =>
      change .mark (.ofVariance v) :: (phrase inner).words = _
      rw [words_phrase inner]
      rfl
  | nullable inner =>
      rw [words, ← words_phrase inner, Phrase.words, Phrase.words, List.append_assoc]
      rfl
  | _ => rfl

theorem words_phrases (ts : List TypeExpr) :
  List.Forall₂ (fun ws p => p.words = ws) (wordsOfList ts) (phrases ts)
  := by
  cases ts with
  | nil => exact .nil
  | cons t ts => exact .cons (words_phrase t) (words_phrases ts)

end

/-- A type is written like the type that it is read as. -/
theorem words_reading (t : TypeExpr) :
  words (reading t) = words t
  := by
  rw [reading, Phrase.words_type, words_phrase]

end Kotlin

end PlatformSignatures
