import Mathlib.Tactic.Use
import PlatformSignatures.Json.Printer
import PlatformSignatures.Json.Reader

/-!
# Reading written JSON

A value that is written without spaces can be read back, whatever follows it, as long as it is not
nested too deep.  Numbers are left aside: a document of the library has none.
-/

namespace PlatformSignatures

namespace Json

/-! ### Values without numbers -/

mutual

/-- There is no number in a value. -/
def NumberFree : Json → Prop
  | number _ => False
  | array values => NumberFreeList values
  | object members => NumberFreeMembers members
  | _ => True

/-- There is no number in a list of values. -/
def NumberFreeList : List Json → Prop
  | [] => True
  | v :: vs => NumberFree v ∧ NumberFreeList vs

/-- There is no number in the values of a list of members. -/
def NumberFreeMembers : List (String × Json) → Prop
  | [] => True
  | (_, v) :: ms => NumberFree v ∧ NumberFreeMembers ms

end

/-! ### Strings -/

/-- A control character is read from the digits of its code. -/
theorem escaped_code {c : Char} (h : c.toNat < 32) (cs : List Char) :
  escaped ('u' :: '0' :: '0' :: hexDigit (c.toNat / 16) :: hexDigit (c.toNat % 16) :: cs)
    = .ok (c, cs)
  := by
  have hhex : ∀ n < 32, Text.ofHex? ['0', '0', hexDigit (n / 16), hexDigit (n % 16)] = some n := by
    decide
  have htrailing : isTrailing c.toNat = false := by
    simp [isTrailing]
    omega
  have hleading : isLeading c.toNat = false := by
    simp [isLeading]
    omega
  rw [escaped, escapedCode, code]
  simp only [hhex c.toNat h, Option.map_some]
  simp only [bind, Except.bind, htrailing, hleading]
  simp [pure, Except.pure, Char.ofNat_toNat]

/-- The characters that are escaped by a letter or sign of their own. -/
def namedEscapes : List Char :=
  ['"', '\\', '\x08', '\x0c', '\n', '\r', '\t']

theorem escape_of_mem {c : Char} (h : c ∈ namedEscapes) :
  ∃ e, escape c = ['\\', e] ∧ ∀ cs, escaped (e :: cs) = .ok (c, cs)
  := by
  simp only [namedEscapes, List.mem_cons, List.not_mem_nil, or_false] at h
  obtain rfl | rfl | rfl | rfl | rfl | rfl | rfl := h <;> exact ⟨_, rfl, fun _ => rfl⟩

theorem escape_of_notMem {c : Char} (h : c ∉ namedEscapes) :
  escape c
    = if c.toNat < 32 then
        ['\\', 'u', '0', '0', hexDigit (c.toNat / 16), hexDigit (c.toNat % 16)]
      else [c]
  := by
  simp only [namedEscapes, List.mem_cons, List.not_mem_nil, or_false, not_or] at h
  obtain ⟨h₁, h₂, h₃, h₄, h₅, h₆, h₇⟩ := h
  rw [escape, if_neg h₁, if_neg h₂, if_neg h₃, if_neg h₄, if_neg h₅, if_neg h₆, if_neg h₇]

/-- A character is read as it is escaped. -/
theorem stringRest_escape (fuel : Nat) (done : List Char) (c : Char) (cs : List Char) :
  stringRest (fuel + 1) done (escape c ++ cs) = stringRest fuel (c :: done) cs
  := by
  by_cases hnamed : c ∈ namedEscapes
  · obtain ⟨e, he, hread⟩ := escape_of_mem hnamed
    rw [he]
    change (escaped (e :: cs) >>= _) = _
    rw [hread]
    rfl
  · rw [escape_of_notMem hnamed]
    split
    case isTrue hcontrol =>
      change (escaped ('u' :: '0' :: '0' :: _ :: _ :: cs) >>= _) = _
      rw [escaped_code hcontrol]
      rfl
    case isFalse hcontrol =>
      have hquote : c ≠ '"' := by
        rintro rfl
        exact hnamed (by decide)
      have hslash : c ≠ '\\' := by
        rintro rfl
        exact hnamed (by decide)
      rw [List.singleton_append, stringRest.eq_def]
      simp [hcontrol]

theorem stringRest_flatMap_escape (fuel : Nat) (done cs rest : List Char) (h : cs.length < fuel) :
  stringRest fuel done (cs.flatMap escape ++ '"' :: rest)
    = .ok (String.ofList (done.reverse ++ cs), rest)
  := by
  induction cs generalizing fuel done with
  | nil =>
      cases fuel with
      | zero => contradiction
      | succ fuel =>
          rw [List.append_nil]
          rfl
  | cons c cs ih =>
      cases fuel with
      | zero => contradiction
      | succ fuel =>
          rw [List.flatMap_cons, List.append_assoc, stringRest_escape, ih]
          · rw [List.reverse_cons, List.append_assoc, List.singleton_append]
          · simpa using h

theorem length_le_flatMap_escape (cs : List Char) :
  cs.length ≤ (cs.flatMap escape).length
  := by
  induction cs with
  | nil => apply Nat.le_refl
  | cons c cs ih =>
      have hescape : 0 < (escape c).length := by
        by_cases hnamed : c ∈ namedEscapes
        · obtain ⟨e, he, -⟩ := escape_of_mem hnamed
          simp [he]
        · rw [escape_of_notMem hnamed]
          split <;> simp
      rw [List.flatMap_cons, List.length_append, List.length_cons]
      omega

theorem toList_quote (s : String) :
  (quote s).toList = '"' :: (s.toList.flatMap escape ++ ['"'])
  := by
  simp [quote]

/-- A string is read back from its quotes. -/
theorem stringBody_escape (s : String) (rest : List Char) :
  stringBody (s.toList.flatMap escape ++ '"' :: rest) = .ok (s, rest)
  := by
  rw [stringBody, stringRest_flatMap_escape]
  · simp
  · have hlength := length_le_flatMap_escape s.toList
    rw [List.length_append, List.length_cons]
    omega

/-! ### The parts of a written value -/

theorem toList_array (values : List Json) :
  (array values).compact.toList = '[' :: ((compactList values).toList ++ [']'])
  := by
  simp [compact]

theorem toList_object (members : List (String × Json)) :
  (object members).compact.toList = '\x7b' :: ((compactMembers members).toList ++ ['\x7d'])
  := by
  simp [compact]

theorem toList_list (v w : Json) (vs : List Json) :
  (compactList (v :: w :: vs)).toList = v.compact.toList ++ ',' :: (compactList (w :: vs)).toList
  := by
  simp [compactList]

/-- A member as it is written. -/
def compactMember (m : String × Json) : List Char :=
  (quote m.1).toList ++ ':' :: m.2.compact.toList

theorem toList_members (m n : String × Json) (ms : List (String × Json)) :
  (compactMembers (m :: n :: ms)).toList
    = compactMember m ++ ',' :: (compactMembers (n :: ms)).toList
  := by
  simp [compactMembers, compactMember]

theorem toList_members_singleton (m : String × Json) :
  (compactMembers [m]).toList = compactMember m
  := by
  simp [compactMembers, compactMember]

theorem skipSpace_cons {c : Char} (h : isSpace c = false) (cs : List Char) :
  skipSpace (c :: cs) = c :: cs
  := by
  rw [skipSpace, List.dropWhile_cons, h]
  rfl

/-- A written value begins with a character that is neither space nor a closing bracket. -/
theorem exists_compact_eq_cons {j : Json} (h : j.NumberFree) :
  ∃ c cs, j.compact.toList = c :: cs ∧ isSpace c = false ∧ c ≠ ']'
  := by
  cases j with
  | null => exact ⟨'n', _, rfl, rfl, by decide⟩
  | bool b =>
      cases b with
      | false => exact ⟨'f', _, rfl, rfl, by decide⟩
      | true => exact ⟨'t', _, rfl, rfl, by decide⟩
  | number literal => contradiction
  | string s => exact ⟨'"', _, toList_quote s, rfl, by decide⟩
  | array values => exact ⟨'[', _, toList_array values, rfl, by decide⟩
  | object members => exact ⟨'\x7b', _, toList_object members, rfl, by decide⟩

/-- So does a written list of values that is not empty. -/
theorem exists_compactList_eq_cons {v : Json} (h : v.NumberFree) (vs : List Json) :
  ∃ c cs, (compactList (v :: vs)).toList = c :: cs ∧ isSpace c = false ∧ c ≠ ']'
  := by
  obtain ⟨c, cs, hcs, hspace, hclosing⟩ := exists_compact_eq_cons h
  cases vs with
  | nil => exact ⟨c, cs, hcs, hspace, hclosing⟩
  | cons w ws => exact ⟨c, _, by rw [toList_list, hcs]; rfl, hspace, hclosing⟩

theorem exists_compactMembers_eq_cons (m : String × Json) (ms : List (String × Json)) :
  ∃ cs, (compactMembers (m :: ms)).toList = '"' :: cs
  := by
  cases ms with
  | nil => exact ⟨_, by rw [toList_members_singleton, compactMember, toList_quote]; rfl⟩
  | cons n ns => exact ⟨_, by rw [toList_members, compactMember, toList_quote]; rfl⟩

/-- There are fewer commas than characters. -/
theorem length_lt_compactList (v : Json) (vs : List Json) (c : Char) (rest : List Char) :
  vs.length < ((compactList (v :: vs)).toList ++ c :: rest).length
  := by
  induction vs generalizing v with
  | nil =>
      rw [List.length_append]
      apply Nat.lt_add_left _ (Nat.zero_lt_succ _)
  | cons w ws ih =>
      have hlength := ih w
      simp only [toList_list, List.length_append, List.length_cons] at hlength ⊢
      omega

theorem length_lt_compactMembers (m : String × Json) (ms : List (String × Json)) (c : Char)
    (rest : List Char) :
  ms.length < ((compactMembers (m :: ms)).toList ++ c :: rest).length
  := by
  induction ms generalizing m with
  | nil =>
      rw [List.length_append]
      apply Nat.lt_add_left _ (Nat.zero_lt_succ _)
  | cons n ns ih =>
      have hlength := ih n
      simp only [toList_members, List.length_append, List.length_cons] at hlength ⊢
      omega

/-! ### Arrays and objects -/

section

variable {reader : List Char → Except Fault (Json × List Char)} {fuel : Nat}
  {cs next rest : List Char}

theorem elements_closing {v : Json} (h : reader cs = .ok (v, next))
    (hnext : skipSpace next = ']' :: rest) :
  elements reader (fuel + 1) cs = .ok ([v], rest)
  := by
  rw [elements, h]
  simp only [bind, Except.bind, hnext]
  rfl

theorem elements_last {v : Json} (h : reader cs = .ok (v, ']' :: rest)) :
  elements reader (fuel + 1) cs = .ok ([v], rest)
  := elements_closing h (skipSpace_cons rfl rest)

theorem elements_next {v : Json} {vs : List Json} (h : reader cs = .ok (v, ',' :: next))
    (hnext : elements reader fuel next = .ok (vs, rest)) :
  elements reader (fuel + 1) cs = .ok (v :: vs, rest)
  := by
  rw [elements, h]
  change (elements reader fuel next >>= _) = _
  rw [hnext]
  rfl

theorem arrayBody_cons {c : Char} (hspace : isSpace c = false) (hclosing : c ≠ ']')
    {vs : List Json} (h : elements reader (c :: cs).length (c :: cs) = .ok (vs, rest)) :
  arrayBody reader (c :: cs) = .ok (array vs, rest)
  := by
  rw [arrayBody, skipSpace_cons hspace]
  split
  case h_1 heq => exact absurd (List.cons.inj heq).1 hclosing
  case h_2 =>
    rw [h]
    rfl

theorem member_quote (name : String) {v : Json} (h : reader cs = .ok (v, next)) :
  member reader ((quote name).toList ++ ':' :: cs) = .ok ((name, v), next)
  := by
  have htext : (quote name).toList ++ ':' :: cs
      = '"' :: (name.toList.flatMap escape ++ '"' :: ':' :: cs) := by
    simp [toList_quote]
  rw [htext, member, skipSpace_cons rfl]
  change (stringBody _ >>= _) = _
  rw [stringBody_escape]
  change (reader _ >>= _) = _
  rw [h]
  rfl

theorem member_compactMember (name : String) {v : Json}
    (h : reader (v.compact.toList ++ next) = .ok (v, next)) :
  member reader (compactMember (name, v) ++ next) = .ok ((name, v), next)
  := by
  rw [compactMember, List.append_assoc, List.cons_append]
  apply member_quote name h

theorem members_closing {m : String × Json} (h : member reader cs = .ok (m, next))
    (hnext : skipSpace next = '\x7d' :: rest) :
  members reader (fuel + 1) cs = .ok ([m], rest)
  := by
  rw [members, h]
  simp only [bind, Except.bind, hnext]
  rfl

theorem members_last {m : String × Json} (h : member reader cs = .ok (m, '\x7d' :: rest)) :
  members reader (fuel + 1) cs = .ok ([m], rest)
  := members_closing h (skipSpace_cons rfl rest)

theorem members_next {m : String × Json} {ms : List (String × Json)}
    (h : member reader cs = .ok (m, ',' :: next))
    (hnext : members reader fuel next = .ok (ms, rest)) :
  members reader (fuel + 1) cs = .ok (m :: ms, rest)
  := by
  rw [members, h]
  change (members reader fuel next >>= _) = _
  rw [hnext]
  rfl

theorem objectBody_quote {ms : List (String × Json)}
    (h : members reader ('"' :: cs).length ('"' :: cs) = .ok (ms, rest)) :
  objectBody reader ('"' :: cs) = .ok (object ms, rest)
  := by
  rw [objectBody, skipSpace_cons rfl]
  change (members reader ('"' :: cs).length ('"' :: cs) >>= _) = _
  rw [h]
  rfl

end

/-! ### Values -/

theorem value_quote (room : Nat) (s : String) (rest : List Char) :
  value room ((quote s).toList ++ rest) = .ok (string s, rest)
  := by
  have htext : (quote s).toList ++ rest = '"' :: (s.toList.flatMap escape ++ '"' :: rest) := by
    simp [toList_quote]
  rw [htext, value, skipSpace_cons rfl]
  change (stringBody _ >>= _) = _
  rw [stringBody_escape]
  rfl

theorem value_bracket (room : Nat) (cs : List Char) :
  value (room + 1) ('[' :: cs) = arrayBody (value room) cs
  := by
  rw [value]
  rfl

theorem value_brace (room : Nat) (cs : List Char) :
  value (room + 1) ('\x7b' :: cs) = objectBody (value room) cs
  := by
  rw [value]
  rfl

mutual

/-- A written value is read back, whatever follows it. -/
theorem value_compact (j : Json) (h : j.NumberFree) {room : Nat} (hroom : j.depth ≤ room)
    (rest : List Char) :
  value room (j.compact.toList ++ rest) = .ok (j, rest)
  := by
  cases j with
  | null =>
      rw [value]
      rfl
  | bool b =>
      rw [value]
      cases b <;> rfl
  | number literal => contradiction
  | string s => apply value_quote
  | array values =>
      cases room with
      | zero => contradiction
      | succ room =>
          rw [toList_array, List.cons_append, value_bracket, List.append_assoc,
            List.singleton_append]
          cases values with
          | nil => rfl
          | cons v vs =>
              have hread := elements_compactList (v :: vs) (by simp) h
                (Nat.le_of_succ_le_succ hroom) (length_lt_compactList v vs ']' rest) rest
              obtain ⟨c, cs, hcs, hspace, hclosing⟩ := exists_compactList_eq_cons h.1 vs
              rw [hcs] at hread ⊢
              apply arrayBody_cons hspace hclosing hread
  | object ms =>
      cases room with
      | zero => contradiction
      | succ room =>
          rw [toList_object, List.cons_append, value_brace, List.append_assoc,
            List.singleton_append]
          cases ms with
          | nil => rfl
          | cons m ms =>
              have hread := members_compactMembers (m :: ms) (by simp) h
                (Nat.le_of_succ_le_succ hroom) (length_lt_compactMembers m ms '\x7d' rest) rest
              obtain ⟨cs, hcs⟩ := exists_compactMembers_eq_cons m ms
              rw [hcs] at hread ⊢
              apply objectBody_quote hread

theorem elements_compactList (vs : List Json) (hne : vs ≠ []) (h : NumberFreeList vs) {room : Nat}
    (hroom : depthOfList vs ≤ room) {fuel : Nat} (hfuel : vs.length ≤ fuel) (rest : List Char) :
  elements (value room) fuel ((compactList vs).toList ++ ']' :: rest) = .ok (vs, rest)
  := by
  cases vs with
  | nil => contradiction
  | cons v vs =>
      obtain ⟨hv, hvs⟩ := Nat.max_le.mp hroom
      cases fuel with
      | zero => contradiction
      | succ fuel =>
          cases vs with
          | nil =>
              apply elements_last
              apply value_compact v h.1 hv
          | cons w ws =>
              rw [toList_list, List.append_assoc, List.cons_append]
              apply elements_next (value_compact v h.1 hv _)
              apply elements_compactList (w :: ws) (by simp) h.2 hvs (Nat.le_of_succ_le_succ hfuel)

theorem members_compactMembers (ms : List (String × Json)) (hne : ms ≠ [])
    (h : NumberFreeMembers ms) {room : Nat} (hroom : depthOfMembers ms ≤ room)
    {fuel : Nat} (hfuel : ms.length ≤ fuel) (rest : List Char) :
  members (value room) fuel ((compactMembers ms).toList ++ '\x7d' :: rest) = .ok (ms, rest)
  := by
  match ms with
  | [] => contradiction
  | (name, v) :: ms =>
      obtain ⟨hv, hms⟩ := Nat.max_le.mp hroom
      cases fuel with
      | zero => contradiction
      | succ fuel =>
          cases ms with
          | nil =>
              apply members_last
              rw [toList_members_singleton]
              apply member_compactMember name (value_compact v h.1 hv _)
          | cons n ns =>
              rw [toList_members, List.append_assoc, List.cons_append]
              apply members_next (member_compactMember name (value_compact v h.1 hv _))
              apply members_compactMembers (n :: ns) (by simp) h.2 hms
                (Nat.le_of_succ_le_succ hfuel)

end

/-- A text that is a written value is read as that value. -/
theorem read_compact {j : Json} (h : j.NumberFree) (hdepth : j.depth ≤ maxDepth) :
  read j.compact = .ok j
  := by
  have hvalue := value_compact j h hdepth []
  rw [List.append_nil] at hvalue
  rw [read, hvalue]
  rfl

end Json

end PlatformSignatures
