import Mathlib.Data.List.Chain
import PlatformSignatures.Proofs.Capitals
import PlatformSignatures.Proofs.WrittenWords

/-!
# Splitting text into words

If the names in a type have none of the characters that marks are made of, its text splits into
words in one way only: two names are never next to each other, and the first word can be told from
the characters that follow.  Which of the names are links is not seen in the text, but the sequence
of the targets decides it as long as no other name is one that a target is displayed by.
-/

namespace PlatformSignatures

namespace Kotlin

/-! ### Plain names -/

/-- The characters by which a mark can be told; no letter or digit is among them. -/
def markCharacters : List Char :=
  [' ', '<', '>', ',', '.', '(', ')', '?', '*']

/-- Whether a character is one by which a mark can be told. -/
def isMarkCharacter (c : Char) : Bool :=
  c ∈ markCharacters

/-- A name is plain if it is not empty and has no characters by which marks are told, as is the
case if it consists of letters and digits. -/
def IsPlain (name : String) : Prop :=
  name ≠ "" ∧ name.toList.all (!isMarkCharacter ·)

instance (name : String) : Decidable (IsPlain name) :=
  inferInstanceAs (Decidable (_ ∧ _))

theorem isPlain_iff (name : String) :
  IsPlain name ↔ name ≠ "" ∧ ∀ c ∈ name.toList, isMarkCharacter c = false
  := by
  simp only [IsPlain, List.all_eq_true, Bool.not_eq_true']

/-- A word is plain if its name is. -/
def Word.Plain (w : Word) : Prop :=
  match w with
  | mark _ => True
  | name n => IsPlain n
  | link target => IsPlain target.displayName

/-- Whether a word is a mark. -/
def Word.isMark : Word → Bool
  | mark _ => true
  | _ => false

/-- Whether a word may come after a name, as some marks do. -/
def Word.mayFollow : Word → Bool
  | mark .less | mark .greater | mark .comma | mark .dot | mark .arrow | mark .question => true
  | _ => false

/-- Some words are legible if they are plain and may come one after the other. -/
structure Legible (ws : List Word) : Prop where
  plain : ∀ w ∈ ws, w.Plain
  spaced : ws.IsChain fun v w => v.isMark ∨ w.mayFollow

namespace Legible

theorem nil :
  Legible []
  := ⟨List.forall_mem_nil _, .nil⟩

theorem singleton {w : Word} (h : w.Plain) :
  Legible [w]
  := ⟨List.forall_mem_singleton.mpr h, .singleton w⟩

theorem mark_cons (m : Mark) {ws : List Word} (h : Legible ws) :
  Legible (.mark m :: ws)
  := by
  constructor
  · rw [List.forall_mem_cons]
    exact ⟨trivial, h.plain⟩
  · apply List.isChain_cons.mpr ⟨_, h.spaced⟩
    intros
    apply Or.inl rfl

theorem append_mark {us ws : List Word} (hus : Legible us) {m : Mark}
    (hm : (Word.mark m).mayFollow) (hws : Legible ws) :
  Legible (us ++ .mark m :: ws)
  := by
  have hmark := hws.mark_cons m
  constructor
  · rw [List.forall_mem_append]
    exact ⟨hus.plain, hmark.plain⟩
  · apply List.isChain_append.mpr ⟨hus.spaced, hmark.spaced, _⟩
    intro v _ w hw
    obtain rfl : .mark m = w := Option.some.inj hw
    apply Or.inr hm

theorem tail {w : Word} {ws : List Word} (h : Legible (w :: ws)) :
  Legible ws
  := ⟨(List.forall_mem_cons.mp h.plain).2, h.spaced.tail⟩

theorem commaSeparated {wss : List (List Word)} (h : ∀ ws ∈ wss, Legible ws) :
  Legible (commaSeparated wss)
  := by
  induction wss with
  | nil => apply nil
  | cons ws wss ih =>
      rw [List.forall_mem_cons] at h
      cases wss with
      | nil => apply h.1
      | cons => exact h.1.append_mark rfl (ih h.2)

theorem namedWords {id : SymbolId} (hid : IsPlain id.displayName) {wss : List (List Word)}
    (h : ∀ ws ∈ wss, Legible ws) :
  Legible (namedWords id wss)
  := by
  have hlink : Legible [.link id] := singleton hid
  cases wss with
  | nil => apply hlink
  | cons ws wss => exact hlink.append_mark rfl ((commaSeparated h).append_mark rfl nil)

theorem arrowWords {receiver : Option (List Word)} {parameters : List (List Word)}
    {result : List Word} (hreceiver : ∀ ws ∈ receiver, Legible ws)
    (hparameters : ∀ ws ∈ parameters, Legible ws) (hresult : Legible result) :
  Legible (arrowWords receiver parameters result)
  := by
  have hrest : Legible (.mark .opening :: (Kotlin.commaSeparated parameters ++
      .mark .arrow :: result)) :=
    ((commaSeparated hparameters).append_mark rfl hresult).mark_cons .opening
  cases receiver with
  | none => apply hrest
  | some ws =>
      rw [Kotlin.arrowWords, receiverWords, List.append_assoc]
      exact (hreceiver ws rfl).append_mark rfl hrest

end Legible

/-! ### The first word of a text -/

/-- The mark that begins with a character. -/
def markAt : Char → Mark
  | '<' => .less
  | '>' => .greater
  | ',' => .comma
  | '.' => .dot
  | '(' => .opening
  | ')' => .arrow
  | '?' => .question
  | _ => .star

/-- The first word of a text, links aside, given the characters in front of the first one by which
a mark can be told, and the text from there on. -/
def wordAt (name rest : List Char) : Word :=
  if rest.head? = some ' ' then
    .mark (if name = ['o', 'u', 't'] then .covariant else .contravariant)
  else if name = [] then .mark (markAt (rest.head?.getD '*'))
  else .name (String.ofList name)

/-- The first word of a text, links aside. -/
def firstWord (cs : List Char) : Word :=
  wordAt (cs.takeWhile (!isMarkCharacter ·)) (cs.dropWhile (!isMarkCharacter ·))

/-- A word without its link. -/
def Word.unlinked : Word → Word
  | link target => name target.displayName
  | w => w

@[simp]
theorem Word.text_unlinked (w : Word) :
  w.unlinked.text = w.text
  := by
  cases w <;> rfl

theorem firstWord_mark (m : Mark) (cs : List Char) :
  firstWord (m.text.toList ++ cs) = .mark m
  := by
  cases m <;> rfl

theorem firstWord_name {name : String} (hname : IsPlain name) {cs : List Char}
    (h : ∀ c ∈ cs.head?, isMarkCharacter c ∧ c ≠ ' ') :
  firstWord (name.toList ++ cs) = .name name
  := by
  have hall : ∀ c ∈ name.toList, (!isMarkCharacter c) = true := List.all_eq_true.mp hname.2
  have hne : name.toList ≠ [] := by
    intro h
    apply hname.1 (String.toList_eq_nil_iff.mp h)
  have hspace : cs.head? ≠ some ' ' := fun hc => (h ' ' hc).2 rfl
  have hrest : cs.takeWhile (!isMarkCharacter ·) = [] ∧ cs.dropWhile (!isMarkCharacter ·) = cs := by
    cases cs with
    | nil => exact ⟨rfl, rfl⟩
    | cons c cs =>
        have hc : (!isMarkCharacter c) ≠ true := by simp [(h c rfl).1]
        exact ⟨List.takeWhile_cons_of_neg hc, List.dropWhile_cons_of_neg hc⟩
  rw [firstWord, List.takeWhile_append_of_pos hall, List.dropWhile_append_of_pos hall, hrest.1,
    hrest.2, List.append_nil, wordAt, if_neg hspace, if_neg hne, String.ofList_toList]

/-- After a name, text goes on with a character by which a mark can be told. -/
theorem head?_letters {v : Word} (hv : v.isMark = false) {ws : List Word} (h : Legible (v :: ws)) :
  ∀ c ∈ (letters ws).head?, isMarkCharacter c ∧ c ≠ ' '
  := by
  cases ws with
  | nil => simp [letters]
  | cons w ws =>
      obtain ⟨hbeside, -⟩ := List.isChain_cons_cons.mp h.spaced
      have hfollow : w.mayFollow := hbeside.resolve_left (by simp [hv])
      intro c hc
      cases w with
      | name => contradiction
      | link => contradiction
      | mark m =>
          cases m with
          | opening => contradiction
          | covariant => contradiction
          | contravariant => contradiction
          | star => contradiction
          | _ =>
              obtain rfl := Option.some.inj hc
              decide

/-- The first of some legible words can be told from their text. -/
theorem firstWord_letters {w : Word} {ws : List Word} (h : Legible (w :: ws)) :
  firstWord (letters (w :: ws)) = w.unlinked
  := by
  have hplain := (List.forall_mem_cons.mp h.plain).1
  rw [letters_cons]
  cases w with
  | mark m => apply firstWord_mark
  | name n => apply firstWord_name hplain (head?_letters rfl h)
  | link target => apply firstWord_name hplain (head?_letters rfl h)

/-! ### Splitting a text -/

theorem letters_cons_ne_nil {w : Word} (h : w.Plain) (ws : List Word) :
  letters (w :: ws) ≠ []
  := by
  have htext : w.text ≠ "" := by
    cases w with
    | mark m => cases m <;> decide
    | name n => apply h.1
    | link target => apply h.1
  rw [letters_cons]
  intro heq
  apply htext (String.toList_eq_nil_iff.mp (List.append_eq_nil_iff.mp heq).1)

/-- Legible words with the same text are the same, links aside. -/
theorem map_unlinked_eq {us ws : List Word} (hus : Legible us) (hws : Legible ws)
    (h : letters us = letters ws) :
  us.map Word.unlinked = ws.map Word.unlinked
  := by
  induction us generalizing ws with
  | nil =>
      cases ws with
      | nil => rfl
      | cons w ws =>
          exact absurd h.symm (letters_cons_ne_nil (List.forall_mem_cons.mp hws.plain).1 ws)
  | cons u us ih =>
      cases ws with
      | nil => exact absurd h (letters_cons_ne_nil (List.forall_mem_cons.mp hus.plain).1 us)
      | cons w ws =>
          have hfirst : u.unlinked = w.unlinked := by
            rw [← firstWord_letters hus, h, firstWord_letters hws]
          have htext : u.text = w.text := by
            rw [← u.text_unlinked, hfirst, w.text_unlinked]
          have hrest : letters us = letters ws := by
            rw [letters_cons, letters_cons, htext] at h
            apply List.append_cancel_left h
          rw [List.map_cons, List.map_cons, hfirst, ih hus.tail hws.tail hrest]

/-! ### Which names are links -/

theorem mem_targets (id : SymbolId) (ws : List Word) :
  id ∈ targets ws ↔ .link id ∈ ws
  := by
  rw [targets, List.mem_filterMap]
  constructor
  · rintro ⟨w, hw, htarget⟩
    cases w with
    | mark => contradiction
    | name => contradiction
    | link target =>
        obtain rfl := Option.some.inj htarget
        apply hw
  · intro h
    use .link id, h
    rfl

/-- Two words that are the same, links aside, are the same or one of them at least is a link. -/
theorem cases_of_unlinked_eq {u w : Word} (h : u.unlinked = w.unlinked) :
  (u = w ∧ u.target? = none) ∨ (∃ i j, u = .link i ∧ w = .link j) ∨
    (∃ i, u = .link i ∧ w = .name i.displayName) ∨ ∃ j, u = .name j.displayName ∧ w = .link j
  := by
  cases u <;> cases w <;> simp_all [Word.unlinked, Word.target?]

/-- Words that differ in their links at most have no more links than others, if each link is
displayed by a name that is a link in the others too. -/
theorem length_targets_le {us ws : List Word} (h : us.map Word.unlinked = ws.map Word.unlinked)
    (hnames : ∀ n, .name n ∈ us → ∀ id, .link id ∈ ws → id.displayName ≠ n) :
  (targets ws).length ≤ (targets us).length
  := by
  induction us generalizing ws with
  | nil =>
      obtain rfl := List.map_eq_nil_iff.mp h.symm
      rfl
  | cons u us ih =>
      cases ws with
      | nil => simp [targets]
      | cons w ws =>
          rw [List.map_cons, List.map_cons, List.cons.injEq] at h
          have htail := ih h.2 fun n hn id hid =>
            hnames n (List.mem_cons_of_mem u hn) id (List.mem_cons_of_mem w hid)
          obtain ⟨rfl, hnone⟩ | ⟨i, j, rfl, rfl⟩ | ⟨i, rfl, rfl⟩ | ⟨j, rfl, rfl⟩ :=
            cases_of_unlinked_eq h.1
          · rw [targets, targets, List.filterMap_cons_none hnone, List.filterMap_cons_none hnone]
            apply htail
          · apply Nat.succ_le_succ htail
          · apply Nat.le_succ_of_le htail
          · exact absurd rfl (hnames _ List.mem_cons_self j List.mem_cons_self)

/-- Words that differ in their links at most are the same if they have the same targets in the same
order, and no target is displayed by a name that is no link. -/
theorem eq_of_targets_eq {us ws : List Word} (h : us.map Word.unlinked = ws.map Word.unlinked)
    (htargets : targets us = targets ws)
    (hnames : ∀ n, .name n ∈ us → ∀ id, .link id ∈ ws → id.displayName ≠ n) :
  us = ws
  := by
  induction us generalizing ws with
  | nil => exact (List.map_eq_nil_iff.mp h.symm).symm
  | cons u us ih =>
      cases ws with
      | nil => cases h
      | cons w ws =>
          rw [List.map_cons, List.map_cons, List.cons.injEq] at h
          have hnames' : ∀ n, .name n ∈ us → ∀ id, .link id ∈ ws → id.displayName ≠ n :=
            fun n hn id hid =>
              hnames n (List.mem_cons_of_mem u hn) id (List.mem_cons_of_mem w hid)
          obtain ⟨rfl, hnone⟩ | ⟨i, j, rfl, rfl⟩ | ⟨i, rfl, rfl⟩ | ⟨j, rfl, rfl⟩ :=
            cases_of_unlinked_eq h.1
          · rw [targets, targets, List.filterMap_cons_none hnone,
              List.filterMap_cons_none hnone] at htargets
            rw [ih h.2 htargets hnames']
          · obtain ⟨rfl, hrest⟩ := List.cons.inj htargets
            rw [ih h.2 hrest hnames']
          · -- `ws` is one link behind `us` here and cannot make up for it in the rest.
            have hlength := length_targets_le h.2 hnames'
            have htargets' : i :: targets us = targets ws := htargets
            rw [← htargets', List.length_cons] at hlength
            exact absurd hlength (Nat.not_succ_le_self _)
          · exact absurd rfl (hnames _ List.mem_cons_self j List.mem_cons_self)

/-- Legible words are determined by their text and their targets, if no target is displayed by a
name that is no link. -/
theorem eq_of_letters_eq {us ws : List Word} (hus : Legible us) (hws : Legible ws)
    (hletters : letters us = letters ws) (htargets : targets us = targets ws)
    (hnames : ∀ n, .name n ∈ us → ∀ id ∈ targets us, id.displayName ≠ n) :
  us = ws
  := by
  apply eq_of_targets_eq (map_unlinked_eq hus hws hletters) htargets
  intro n hn id hid
  apply hnames n hn
  rw [htargets, mem_targets]
  apply hid

/-! ### Capital letters -/

theorem isMarkCharacter_of_toNat {c : Char} (h : c.toNat = 0 ∨ 65 ≤ c.toNat) :
  isMarkCharacter c = false
  := by
  have hbounds : markCharacters.all fun c => 0 < c.toNat ∧ c.toNat < 65 := by decide
  rw [isMarkCharacter, decide_eq_false_iff_not]
  intro hmem
  have hc := of_decide_eq_true (List.all_eq_true.mp hbounds _ hmem)
  omega

/-- The upper case of a character is a few characters, by none of which a mark can be told. -/
theorem exists_uppercase {c : Char} (hc : isMarkCharacter c = false) :
  ∃ d ds, Text.uppercase c = d :: ds ∧ ∀ b ∈ d :: ds, isMarkCharacter b = false
  := by
  obtain hself | ⟨hne, hcodes⟩ := Text.uppercase_cases c
  · use c, [], hself
    rwa [List.forall_mem_singleton]
  · obtain ⟨d, ds, hupper⟩ := List.exists_cons_of_ne_nil hne
    use d, ds, hupper
    rw [← hupper]
    intro b hb
    apply isMarkCharacter_of_toNat (hcodes b hb)

theorem isPlain_capitalize {name : String} (h : IsPlain name) :
  IsPlain (Text.capitalize name)
  := by
  rw [isPlain_iff] at h ⊢
  obtain ⟨hne, hplain⟩ := h
  rw [Text.capitalize]
  split
  case h_1 hnil => exact absurd (String.toList_eq_nil_iff.mp hnil) hne
  case h_2 c cs hcons =>
    rw [hcons, List.forall_mem_cons] at hplain
    obtain ⟨d, ds, hupper, hds⟩ := exists_uppercase hplain.1
    rw [hupper]
    constructor
    · intro hempty
      have hnil := congrArg String.toList hempty
      rw [String.toList_ofList] at hnil
      contradiction
    · rw [String.toList_ofList, List.forall_mem_append]
      exact ⟨hds, hplain.2⟩

/-! ### Plain types -/

mutual

/-- The names in a type are plain, and no type parameter is called `dynamic`. -/
def Plain : TypeExpr → Prop
  | .named id arguments _ => IsPlain id.displayName ∧ PlainList arguments
  | .variance _ inner => Plain inner
  | .nullable inner => Plain inner
  | .primitive name => IsPlain name
  | .typeParameter name => IsPlain name ∧ name ≠ "dynamic"
  | _ => True

/-- The names in a list of types are plain. -/
def PlainList : List TypeExpr → Prop
  | [] => True
  | t :: ts => Plain t ∧ PlainList ts

end

mutual

/-- The words of a plain type are legible. -/
theorem legible_words (t : TypeExpr) (h : Plain t) :
  Legible (words t)
  := by
  cases t with
  | named id arguments marker =>
      apply marked_of_forall _ _ marker (legible_wordsOfList arguments h.2)
      · intro wss hwss
        apply Legible.namedWords h.1 hwss
      · intro receiver parameters result hreceiver hparameters hresult
        apply Legible.arrowWords hreceiver hparameters hresult
  | variance v inner => exact (legible_words inner h).mark_cons _
  | nullable inner => exact (legible_words inner h).append_mark rfl .nil
  | star => exact Legible.nil.mark_cons .star
  | root => exact .singleton (show IsPlain "Any" by decide)
  | primitive name => exact .singleton (isPlain_capitalize h)
  | void => exact .singleton (show IsPlain "Unit" by decide)
  | dynamic => exact .singleton (show IsPlain "dynamic" by decide)
  | typeParameter name => exact .singleton h.1

theorem legible_wordsOfList (ts : List TypeExpr) (h : PlainList ts) :
  ∀ ws ∈ wordsOfList ts, Legible ws
  := by
  cases ts with
  | nil => apply List.forall_mem_nil
  | cons t ts =>
      rw [wordsOfList, List.forall_mem_cons]
      exact ⟨legible_words t h.1, legible_wordsOfList ts h.2⟩

end

end Kotlin

end PlatformSignatures
