import Mathlib.Tactic.Use
import PlatformSignatures.Text.Uppercase

/-!
# Capital letters

The upper case of a character is the character itself or consists of characters that are no marks,
digits or controls: all of them come before the first capital letter, and no entry of the tables
leads there.
-/

namespace PlatformSignatures

namespace Text

/-- A number from the first capital letter on gives no character before it; a number that is no
code point gives the character 0. -/
theorem toNat_ofNat_of_le {n : Nat} (h : 65 ≤ n) :
  (Char.ofNat n).toNat = 0 ∨ 65 ≤ (Char.ofNat n).toNat
  := by
  by_cases hvalid : n.isValidChar
  · have hcode : (Char.ofNat n).toNat = n := congrArg Char.toNat (dif_pos hvalid)
    rw [hcode]
    exact Or.inr h
  · exact Or.inl (congrArg Char.toNat (dif_neg hvalid))

/-- The upper case of a character is the character itself or consists of the character 0 and of
characters from the first capital letter on. -/
theorem uppercase_cases (c : Char) :
  uppercase c = [c] ∨
    uppercase c ≠ [] ∧ ∀ b ∈ uppercase c, b.toNat = 0 ∨ 65 ≤ b.toNat
  := by
  rw [uppercase]
  split
  case h_1 image himage =>
    have htable : ∀ e ∈ expandedUppercase, e.2 ≠ [] ∧ ∀ n ∈ e.2, 65 ≤ n := by decide +kernel
    obtain ⟨front, back, hsplit, -⟩ := List.lookup_eq_some_iff.mp himage
    have hmem : (c.toNat, image) ∈ expandedUppercase := by
      rw [hsplit]
      apply List.mem_append_cons_self
    obtain ⟨hne, hlarge⟩ := htable _ hmem
    apply Or.inr
    constructor
    · rwa [ne_eq, List.map_eq_nil_iff]
    · intro b hb
      obtain ⟨n, hn, rfl⟩ := List.mem_map.mp hb
      apply toNat_ofNat_of_le (hlarge n hn)
  case h_2 =>
    split
    case h_1 run hrun =>
      have htable : ∀ r ∈ singleUppercase, 65 ≤ r.first + r.shift := by decide +kernel
      have hlarge := htable run (List.mem_of_find?_eq_some hrun)
      have hfirst : run.first ≤ c.toNat := by
        have hcontains := List.find?_some hrun
        simp only [CaseRun.contains, Bool.and_eq_true, decide_eq_true_eq] at hcontains
        exact hcontains.1.1
      apply Or.inr
      constructor
      · apply List.cons_ne_nil
      · intro b hb
        obtain rfl := List.mem_singleton.mp hb
        apply toNat_ofNat_of_le
        omega
    case h_2 => exact Or.inl rfl

end Text

end PlatformSignatures
