import PlatformSignatures.Proofs.WrittenConfigurations
import PlatformSignatures.Signature

/-!
# Merged configurations

A section gives some of the conventions of a language, and the others are the customary ones.  Only
brackets can be refused: those of Kotlin are looked at first, and the text that is refused is
reported.  The signatures in a language go by the section for that language alone.
-/

namespace PlatformSignatures

/-! ### Brackets -/

namespace Brackets

/-- The two characters of brackets. -/
def text (b : Brackets) : String :=
  String.ofList [b.opening, b.closing]

theorem ofString?_text (b : Brackets) :
  ofString? b.text = some b
  := by
  rw [text, ofString?, String.toList_ofList]

theorem ofString?_eq_none_iff (s : String) :
  ofString? s = none ↔ s.length ≠ 2
  := by
  rw [ofString?, ← String.length_toList]
  match s.toList with
  | [] => decide
  | [_] => simp
  | [_, _] => simp
  | _ :: _ :: _ :: _ => simp

theorem text_of_ofString? {s : String} {b : Brackets} (h : ofString? s = some b) :
  b.text = s
  := by
  apply String.toList_injective
  rw [ofString?] at h
  split at h
  case h_1 x y hs =>
    obtain rfl := Option.some.inj h
    rw [hs, text, String.toList_ofList]
  case h_2 => cases h

theorem text_injective :
  Function.Injective text
  := by
  intro a b h
  have hsome := ofString?_text a
  rw [h, ofString?_text b] at hsome
  exact (Option.some.inj hsome).symm

end Brackets

/-! ### One language -/

/-- A value is the one that is given, or the default if none is given. -/
def IsGivenOr {α : Type} (given : Option α) (default value : α) : Prop :=
  given = some value ∨ given = none ∧ value = default

theorem isGivenOr_iff {α : Type} (given : Option α) (default value : α) :
  IsGivenOr given default value ↔ value = given.getD default
  := by
  cases given with
  | none => simp [IsGivenOr]
  | some a => simp [IsGivenOr, eq_comm]

namespace Overrides

/-- All conventions are those that are given, and the default ones where none are. -/
structure Merged (o : Overrides) (defaults c : Conventions) : Prop where
  atSign : IsGivenOr o.atSign defaults.atSign c.atSign
  brackets : IsGivenOr o.brackets defaults.brackets.text c.brackets.text
  classSuffix : IsGivenOr o.classSuffix defaults.classSuffix c.classSuffix
  ignoredVisibilities :
    IsGivenOr o.ignoredVisibilities defaults.ignoredVisibilities c.ignoredVisibilities
  ignoredModalities : IsGivenOr o.ignoredModalities defaults.ignoredModalities c.ignoredModalities
  ignoredAnnotations :
    IsGivenOr o.ignoredAnnotations defaults.ignoredAnnotations c.ignoredAnnotations

/-- Brackets that are given are two characters. -/
def Fits (o : Overrides) : Prop :=
  ∀ t, o.brackets = some t → t.length = 2

variable (o : Overrides) (defaults : Conventions)

/-- Brackets that are not two characters are refused. -/
theorem apply_of_misfit {t : String} (h : o.brackets = some t) (ht : t.length ≠ 2) :
  o.apply defaults = .error t
  := by
  rw [apply, h]
  simp only [(Brackets.ofString?_eq_none_iff t).mpr ht]
  rfl

/-- Nothing but brackets is refused. -/
theorem apply_of_isGivenOr {b : Brackets}
    (h : IsGivenOr o.brackets defaults.brackets.text b.text) :
  o.apply defaults = .ok {
    atSign := o.atSign.getD defaults.atSign
    brackets := b
    classSuffix := o.classSuffix.getD defaults.classSuffix
    ignoredVisibilities := o.ignoredVisibilities.getD defaults.ignoredVisibilities
    ignoredModalities := o.ignoredModalities.getD defaults.ignoredModalities
    ignoredAnnotations := o.ignoredAnnotations.getD defaults.ignoredAnnotations }
  := by
  rw [apply]
  obtain hgiven | ⟨hnone, hdefault⟩ := h
  · rw [hgiven]
    simp only [Brackets.ofString?_text]
    rfl
  · rw [hnone, Brackets.text_injective hdefault]
    rfl

variable {o defaults}

theorem Fits.exists_isGivenOr (h : o.Fits) (defaults : Conventions) :
  ∃ b : Brackets, IsGivenOr o.brackets defaults.brackets.text b.text
  := by
  cases ho : o.brackets with
  | none => exact ⟨defaults.brackets, Or.inr ⟨rfl, rfl⟩⟩
  | some t =>
      cases hb : Brackets.ofString? t with
      | none => exact absurd (h t ho) ((Brackets.ofString?_eq_none_iff t).mp hb)
      | some b => exact ⟨b, Or.inl (by rw [Brackets.text_of_ofString? hb])⟩

theorem exists_of_not_fits (h : ¬ o.Fits) :
  ∃ t, o.brackets = some t ∧ t.length ≠ 2
  := by
  simpa [Fits] using h

theorem apply_eq_ok_iff {c : Conventions} :
  o.apply defaults = .ok c ↔ o.Merged defaults c
  := by
  constructor
  · intro h
    by_cases hfits : o.Fits
    · obtain ⟨b, hb⟩ := hfits.exists_isGivenOr defaults
      rw [apply_of_isGivenOr o defaults hb] at h
      obtain rfl := Except.ok.inj h
      constructor
      case brackets => exact hb
      all_goals rw [isGivenOr_iff]
    · -- Brackets that do not fit are refused, so nothing has come of them.
      obtain ⟨t, ht, hlength⟩ := exists_of_not_fits hfits
      rw [apply_of_misfit o defaults ht hlength] at h
      cases h
  · intro h
    rw [apply_of_isGivenOr o defaults h.brackets, ← (isGivenOr_iff ..).mp h.atSign,
      ← (isGivenOr_iff ..).mp h.classSuffix, ← (isGivenOr_iff ..).mp h.ignoredVisibilities,
      ← (isGivenOr_iff ..).mp h.ignoredModalities, ← (isGivenOr_iff ..).mp h.ignoredAnnotations]

theorem exists_merged_iff (defaults : Conventions) :
  (∃ c, o.Merged defaults c) ↔ o.Fits
  := by
  constructor
  · rintro ⟨c, hc⟩ t ht
    by_contra hlength
    have herror := apply_of_misfit o defaults ht hlength
    rw [apply_eq_ok_iff.mpr hc] at herror
    cases herror
  · intro h
    obtain ⟨b, hb⟩ := h.exists_isGivenOr defaults
    exact ⟨_, apply_eq_ok_iff.mp (apply_of_isGivenOr o defaults hb)⟩

theorem Merged.unique {c c' : Conventions} (h : o.Merged defaults c) (h' : o.Merged defaults c') :
  c = c'
  := by
  have hok := apply_eq_ok_iff.mpr h
  rw [apply_eq_ok_iff.mpr h'] at hok
  exact (Except.ok.inj hok).symm

end Overrides

namespace Conventions

/-- The overrides that put conventions in the place of any others. -/
def overrides (c : Conventions) : Overrides where
  atSign := some c.atSign
  brackets := some c.brackets.text
  classSuffix := some c.classSuffix
  ignoredVisibilities := some c.ignoredVisibilities
  ignoredModalities := some c.ignoredModalities
  ignoredAnnotations := some c.ignoredAnnotations

theorem merged_overrides (c defaults : Conventions) :
  c.overrides.Merged defaults c
  := by
  constructor <;> exact Or.inl rfl

end Conventions

/-! ### Both languages -/

namespace Configuration

/-- A configuration with what two sections give replaced, where they are. -/
def merge (defaults : Configuration) (kotlin java : Option Overrides) :
    Except String Configuration := do
  return {
    kotlin := ← (kotlin.getD {}).apply defaults.kotlin
    java := ← (java.getD {}).apply defaults.java }

theorem ofOverrides_eq_merge :
  ofOverrides = merge default
  := rfl

section

variable (defaults : Configuration) {kotlin java : Option Overrides} {t : String}

theorem merge_of_misfit_kotlin (ht : (kotlin.getD {}).brackets = some t)
    (hlength : t.length ≠ 2) :
  merge defaults kotlin java = .error t
  := by
  rw [merge, Overrides.apply_of_misfit _ _ ht hlength]
  rfl

theorem merge_of_misfit_java (hkotlin : (kotlin.getD {}).Fits)
    (ht : (java.getD {}).brackets = some t) (hlength : t.length ≠ 2) :
  merge defaults kotlin java = .error t
  := by
  obtain ⟨c, hc⟩ := (Overrides.exists_merged_iff defaults.kotlin).mpr hkotlin
  rw [merge, Overrides.apply_eq_ok_iff.mpr hc, Overrides.apply_of_misfit _ _ ht hlength]
  rfl

theorem merge_eq_ok_iff {c : Configuration} :
  merge defaults kotlin java = .ok c
    ↔ (kotlin.getD {}).Merged defaults.kotlin c.kotlin ∧
      (java.getD {}).Merged defaults.java c.java
  := by
  rw [← Overrides.apply_eq_ok_iff, ← Overrides.apply_eq_ok_iff, merge]
  cases (kotlin.getD {}).apply defaults.kotlin with
  | error t => simp [bind, Except.bind]
  | ok k =>
      cases (java.getD {}).apply defaults.java with
      | error t => simp [bind, Except.bind]
      | ok j =>
          obtain ⟨k', j'⟩ := c
          simp [bind, Except.bind, pure, Except.pure]

end

/-- The sections that the text of a document gives. -/
def sectionsOf (text : String) : Option (Option Overrides × Option Overrides) :=
  (Toml.read text).bind fun document => sections? document.toJson

/-- What has to come of reading a text that gives two sections. -/
structure ReadsMerged (text : String) (kotlin java : Option Overrides) : Prop where
  /-- There is a configuration exactly if all brackets that are given are two characters. -/
  succeeds : (∃ c, read text = .ok c) ↔ (kotlin.getD {}).Fits ∧ (java.getD {}).Fits
  /-- All its conventions are those that are given, and the customary ones where none are. -/
  merged c : read text = .ok c →
    (kotlin.getD {}).Merged Conventions.kotlin c.kotlin ∧
    (java.getD {}).Merged Conventions.java c.java
  /-- Brackets of Kotlin that are not two characters are reported. -/
  misfitKotlin t : (kotlin.getD {}).brackets = some t → t.length ≠ 2 →
    read text = .error (.brackets t)
  /-- Brackets of Java that are not two characters are reported if those of Kotlin are. -/
  misfitJava t : (kotlin.getD {}).Fits → (java.getD {}).brackets = some t → t.length ≠ 2 →
    read text = .error (.brackets t)
  /-- Signatures of Kotlin are the same if the sections for Kotlin are, and so for Java. -/
  separate c text' kotlin' java' c' : read text = .ok c →
    sectionsOf text' = some (kotlin', java') → read text' = .ok c' →
    (kotlin = kotlin' → ∀ (ν : Type) (d : Declaration) (factory : NodeFactory ν),
      c.signature .kotlin d factory = c'.signature .kotlin d factory) ∧
    (java = java' → ∀ (ν : Type) (d : Declaration) (factory : NodeFactory ν),
      c.signature .java d factory = c'.signature .java d factory)
  /-- Sections that override everything give what they override it with. -/
  complete c : kotlin = some (Conventions.overrides c.kotlin) →
    java = some (Conventions.overrides c.java) → read text = .ok c

section

variable {text : String} {kotlin java : Option Overrides}
  (h : sectionsOf text = some (kotlin, java))
include h

theorem read_eq :
  read text = (merge default kotlin java).mapError .brackets
  := by
  rw [sectionsOf] at h
  simp only [read, h, ofOverrides_eq_merge]
  cases merge default kotlin java with
  | error t => rfl
  | ok c => rfl

theorem read_eq_ok_iff {c : Configuration} :
  read text = .ok c
    ↔ (kotlin.getD {}).Merged Conventions.kotlin c.kotlin ∧
      (java.getD {}).Merged Conventions.java c.java
  := by
  rw [read_eq h]
  refine Iff.trans ?_ (merge_eq_ok_iff default)
  cases merge default kotlin java with
  | error t => simp [Except.mapError]
  | ok c' => simp [Except.mapError]

theorem exists_read_eq_ok_iff :
  (∃ c, read text = .ok c) ↔ (kotlin.getD {}).Fits ∧ (java.getD {}).Fits
  := by
  simp only [read_eq_ok_iff h]
  rw [← Overrides.exists_merged_iff Conventions.kotlin,
    ← Overrides.exists_merged_iff Conventions.java]
  constructor
  · rintro ⟨c, hkotlin, hjava⟩
    exact ⟨⟨c.kotlin, hkotlin⟩, ⟨c.java, hjava⟩⟩
  · rintro ⟨⟨k, hkotlin⟩, ⟨j, hjava⟩⟩
    exact ⟨⟨k, j⟩, hkotlin, hjava⟩

/-- The signatures in a language go by the section for it. -/
theorem signature_eq_of_read {c c' : Configuration} {text' : String}
    {kotlin' java' : Option Overrides} (hread : read text = .ok c)
    (h' : sectionsOf text' = some (kotlin', java')) (hread' : read text' = .ok c') :
  (kotlin = kotlin' → ∀ (ν : Type) (d : Declaration) (factory : NodeFactory ν),
    c.signature .kotlin d factory = c'.signature .kotlin d factory) ∧
  (java = java' → ∀ (ν : Type) (d : Declaration) (factory : NodeFactory ν),
    c.signature .java d factory = c'.signature .java d factory)
  := by
  obtain ⟨hkotlin, hjava⟩ := (read_eq_ok_iff h).mp hread
  obtain ⟨hkotlin', hjava'⟩ := (read_eq_ok_iff h').mp hread'
  constructor
  · rintro rfl ν d factory
    have hsame : c.kotlin = c'.kotlin := hkotlin.unique hkotlin'
    rw [signature, signature, conventions, conventions, hsame]
  · rintro rfl ν d factory
    have hsame : c.java = c'.java := hjava.unique hjava'
    rw [signature, signature, conventions, conventions, hsame]

end

theorem read_of_overrides {text : String} {c : Configuration}
    (h : sectionsOf text = some (some c.kotlin.overrides, some c.java.overrides)) :
  read text = .ok c
  := (read_eq_ok_iff h).mpr ⟨c.kotlin.merged_overrides _, c.java.merged_overrides _⟩

/-- A document is read as its sections merged with the customary conventions.  Sections of all kinds
can be written, and those for all conventions of a configuration give the configuration. -/
theorem read_merges (text : String) (kotlin java : Option Overrides)
    (h : sectionsOf text = some (kotlin, java)) :
  ReadsMerged text kotlin java ∧
  (∀ k j : Option Overrides, sections? (toToml k j).toJson = some (k, j)) ∧
  ∀ c : Configuration,
    (∀ written,
      Toml.read written = some (toToml (some c.kotlin.overrides) (some c.java.overrides)) →
      read written = .ok c) ∧
    ∀ defaults, merge defaults (some c.kotlin.overrides) (some c.java.overrides) = .ok c
  := by
  refine ⟨?_, sections?_toToml, fun c => ⟨?_, ?_⟩⟩
  · constructor
    case succeeds => exact exists_read_eq_ok_iff h
    case merged => exact fun c => (read_eq_ok_iff h).mp
    case misfitKotlin =>
      intro t ht hlength
      rw [read_eq h, merge_of_misfit_kotlin default ht hlength, Except.mapError]
    case misfitJava =>
      intro t hkotlin ht hlength
      rw [read_eq h, merge_of_misfit_java default hkotlin ht hlength, Except.mapError]
    case separate =>
      intro c text' kotlin' java' c' hread h' hread'
      exact signature_eq_of_read h hread h' hread'
    case complete =>
      rintro c rfl rfl
      exact read_of_overrides h
  · intro written hwritten
    apply read_of_overrides
    rw [sectionsOf, hwritten, Option.bind_some, sections?_toToml]
  · intro defaults
    exact (merge_eq_ok_iff defaults).mpr ⟨c.kotlin.merged_overrides _, c.java.merged_overrides _⟩

/-- A configuration that differs from the customary one in everything. -/
def unusual : Configuration where
  kotlin := {
    atSign := .never
    brackets := ⟨'(', ')'⟩
    classSuffix := ""
    ignoredVisibilities := []
    ignoredModalities := [.sealed]
    ignoredAnnotations := [
      ⟨SymbolId.ofClass "kotlin" "Suppress", [("names", .array [.literal "unused"])]⟩] }
  java := {
    atSign := .outermost
    brackets := ⟨'[', ']'⟩
    classSuffix := "::class"
    ignoredVisibilities := [.publicAccess]
    ignoredModalities := []
    ignoredAnnotations := [] }

/-- The lines of a document that gives all of it. -/
def unusualLines : List String := [
  "[kotlin]\n",
  "at_strategy = \"never\"\n",
  "list_brackets = \"()\"\n",
  "class_suffix = \"\"\n",
  "ignored_visibilities = []\n",
  "ignored_modifiers = [\"sealed\"]\n",
  "[[kotlin.ignored_annotations]]\n",
  "id = \x7b package = \"kotlin\", class_names = \"Suppress\" \x7d\n",
  "params = [[\"names\", \x7b kind = \"array\", value = [\n",
  "  \x7b kind = \"string\", value = \"unused\" \x7d] \x7d]]\n",
  "[java]\n",
  "at_strategy = \"only-once\"\n",
  "list_brackets = \"[]\"\n",
  "class_suffix = \"::class\"\n",
  "ignored_visibilities = [\"public\"]\n",
  "ignored_modifiers = []\n",
  "ignored_annotations = []\n"]

theorem read_merges_partial :
  let text := "[java]\nlist_brackets = \"[]\"\nignored_modifiers = [\"final\"]\n"
  let java : Overrides := { brackets := some "[]", ignoredModalities := some [.final] }
  sectionsOf text = some (none, some java) ∧
    (∃ c, read text = .ok c ∧ c.java.brackets.text = "[]" ∧ c.java.ignoredModalities = [.final] ∧
      c.java.classSuffix = ".class" ∧ c.kotlin.ignoredModalities = [.final]) ∧
    Toml.read (String.join unusualLines)
      = some (toToml (some unusual.kotlin.overrides) (some unusual.java.overrides)) ∧
    read (String.join unusualLines) = .ok unusual
  := by
  intro text java
  have hsections : sectionsOf text = some (none, some java) := by decide +kernel
  obtain ⟨hreads, -, hcomplete⟩ := read_merges text none (some java) hsections
  have hkotlin : (Option.getD none {} : Overrides).Fits := by
    rintro t ⟨⟩
  have hjava : java.Fits := by
    rintro t ⟨⟩
    rfl
  obtain ⟨c, hc⟩ := hreads.succeeds.mpr ⟨hkotlin, hjava⟩
  obtain ⟨hk, hj⟩ := hreads.merged c hc
  have hgiven : c.java.brackets.text = "[]" ∧ c.java.ignoredModalities = [.final] ∧
      c.java.classSuffix = ".class" ∧ c.kotlin.ignoredModalities = [.final] :=
    ⟨(isGivenOr_iff ..).mp hj.brackets, (isGivenOr_iff ..).mp hj.ignoredModalities,
      (isGivenOr_iff ..).mp hj.classSuffix, (isGivenOr_iff ..).mp hk.ignoredModalities⟩
  have hwritten : Toml.read (String.join unusualLines)
      = some (toToml (some unusual.kotlin.overrides) (some unusual.java.overrides)) := by
    rw [Toml.read_join (by decide +kernel)]
    decide +kernel
  exact ⟨hsections, ⟨c, hc, hgiven⟩, hwritten, (hcomplete unusual).1 _ hwritten⟩

end Configuration

end PlatformSignatures
