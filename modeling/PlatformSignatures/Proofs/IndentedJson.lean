import PlatformSignatures.Document.Node
import PlatformSignatures.Proofs.Documents

/-!
# Reading indented JSON

A value that is written on several lines can be read back, whatever follows it: the line breaks and
the indentation stand where the reader skips space.
-/

namespace PlatformSignatures

namespace Json

/-! ### New lines -/

theorem toList_pushn (s : String) (c : Char) (n : Nat) :
  (s.pushn c n).toList = s.toList ++ List.replicate n c
  := by
  rw [String.pushn_eq_repeat_push]
  induction n with
  | zero => exact (List.append_nil _).symm
  | succ n ih => rw [Nat.repeat, String.toList_push, ih, List.append_assoc, List.replicate_succ']

theorem skipSpace_newline (level : Nat) (cs : List Char) :
  skipSpace ((newline level).toList ++ cs) = skipSpace cs
  := by
  apply List.dropWhile_append_of_pos
  rw [newline, String.toList_append, toList_pushn, List.forall_mem_append, List.forall_mem_append]
  refine ⟨List.forall_mem_singleton.mpr rfl, List.forall_mem_nil _, ?_⟩
  intro c hc
  rw [List.eq_of_mem_replicate hc]
  rfl

section

variable {reader : List Char → Except Fault (Json × List Char)} (level : Nat) (cs : List Char)

theorem value_skipSpace {room : Nat} {cs ds : List Char} (h : skipSpace cs = skipSpace ds) :
  value room cs = value room ds
  := by
  rw [value.eq_def, value.eq_def room ds]
  simp only [h]

theorem arrayBody_newline :
  arrayBody reader ((newline level).toList ++ cs) = arrayBody reader cs
  := by
  rw [arrayBody, arrayBody, skipSpace_newline]

theorem objectBody_newline :
  objectBody reader ((newline level).toList ++ cs) = objectBody reader cs
  := by
  rw [objectBody, objectBody, skipSpace_newline]

theorem elements_newline {room fuel : Nat} :
  elements (value room) fuel ((newline level).toList ++ cs) = elements (value room) fuel cs
  := by
  cases fuel with
  | zero => rfl
  | succ fuel => rw [elements, elements, value_skipSpace (skipSpace_newline level cs)]

theorem members_newline {fuel : Nat} :
  members reader fuel ((newline level).toList ++ cs) = members reader fuel cs
  := by
  cases fuel with
  | zero => rfl
  | succ fuel => rw [members, members, member, member, skipSpace_newline]

end

/-! ### The parts of a written value -/

/-- The values of an array as they are written after the first new line. -/
def indentedValues (level : Nat) : List Json → List Char
  | [] => []
  | [v] => (pretty level v).toList
  | v :: vs =>
    (pretty level v).toList ++ ',' :: ((newline level).toList ++ indentedValues level vs)

/-- A member as it is written. -/
def indentedMember (level : Nat) (m : String × Json) : List Char :=
  (quote m.1).toList ++ ':' :: ' ' :: (pretty level m.2).toList

/-- The members of an object as they are written after the first new line. -/
def indentedMembers (level : Nat) : List (String × Json) → List Char
  | [] => []
  | [m] => indentedMember level m
  | m :: ms => indentedMember level m ++ ',' :: ((newline level).toList ++ indentedMembers level ms)

theorem indentedValues_cons_cons (level : Nat) (v w : Json) (vs : List Json) :
  indentedValues level (v :: w :: vs)
    = (pretty level v).toList ++ ',' :: ((newline level).toList ++ indentedValues level (w :: vs))
  := rfl

theorem indentedMembers_cons_cons (level : Nat) (m n : String × Json)
    (ms : List (String × Json)) :
  indentedMembers level (m :: n :: ms)
    = indentedMember level m ++
        ',' :: ((newline level).toList ++ indentedMembers level (n :: ms))
  := rfl

theorem toList_prettyList (level : Nat) (v : Json) (vs : List Json) :
  (prettyList level (v :: vs)).toList
    = (newline level).toList ++ indentedValues level (v :: vs)
  := by
  induction vs generalizing v with
  | nil => simp [prettyList, indentedValues]
  | cons w ws ih => simp [prettyList, indentedValues, ih]

theorem toList_prettyMembers (level : Nat) (m : String × Json) (ms : List (String × Json)) :
  (prettyMembers level (m :: ms)).toList
    = (newline level).toList ++ indentedMembers level (m :: ms)
  := by
  induction ms generalizing m with
  | nil => simp [prettyMembers, indentedMembers, indentedMember]
  | cons n ns ih => simp [prettyMembers, indentedMembers, indentedMember, ih]

theorem toList_pretty_array (level : Nat) (v : Json) (vs : List Json) :
  (pretty level (array (v :: vs))).toList
    = '[' :: ((newline (level + 1)).toList ++ (indentedValues (level + 1) (v :: vs) ++
        ((newline level).toList ++ [']'])))
  := by
  simp [pretty, toList_prettyList]

theorem toList_pretty_object (level : Nat) (m : String × Json) (ms : List (String × Json)) :
  (pretty level (object (m :: ms))).toList
    = '\x7b' :: ((newline (level + 1)).toList ++ (indentedMembers (level + 1) (m :: ms) ++
        ((newline level).toList ++ ['\x7d'])))
  := by
  simp [pretty, toList_prettyMembers]

/-- A written value begins with a character that is neither space nor a closing bracket. -/
theorem exists_pretty_eq_cons (level : Nat) {j : Json} (h : j.NumberFree) :
  ∃ c cs, (pretty level j).toList = c :: cs ∧ isSpace c = false ∧ c ≠ ']'
  := by
  cases j with
  | array values =>
      cases values with
      | nil => exact ⟨'[', [']'], (by decide : "[]".toList = _), rfl, by decide⟩
      | cons v vs => exact ⟨'[', _, toList_pretty_array level v vs, rfl, by decide⟩
  | object members =>
      cases members with
      | nil => exact ⟨'\x7b', ['\x7d'], (by decide : "\x7b\x7d".toList = _), rfl, by decide⟩
      | cons m ms => exact ⟨'\x7b', _, toList_pretty_object level m ms, rfl, by decide⟩
  | _ => apply exists_compact_eq_cons h

theorem exists_indentedValues_eq_cons (level : Nat) {v : Json} (h : v.NumberFree)
    (vs : List Json) :
  ∃ c cs, indentedValues level (v :: vs) = c :: cs ∧ isSpace c = false ∧ c ≠ ']'
  := by
  obtain ⟨c, cs, hcs, hspace, hclosing⟩ := exists_pretty_eq_cons level h
  cases vs with
  | nil => exact ⟨c, cs, hcs, hspace, hclosing⟩
  | cons w ws => exact ⟨c, _, by rw [indentedValues_cons_cons, hcs]; rfl, hspace, hclosing⟩

theorem exists_indentedMembers_eq_cons (level : Nat) (m : String × Json)
    (ms : List (String × Json)) :
  ∃ cs, indentedMembers level (m :: ms) = '"' :: cs
  := by
  cases ms with
  | nil => exact ⟨_, by rw [indentedMembers, indentedMember, toList_quote]; rfl⟩
  | cons n ns => exact ⟨_, by rw [indentedMembers_cons_cons, indentedMember, toList_quote]; rfl⟩

/-- There are fewer commas than characters. -/
theorem length_le_indentedValues (level : Nat) (v : Json) (vs : List Json) :
  vs.length ≤ (indentedValues level (v :: vs)).length
  := by
  induction vs generalizing v with
  | nil => apply Nat.zero_le
  | cons w ws ih =>
      have hlength := ih w
      simp only [indentedValues_cons_cons, List.length_append, List.length_cons]
      omega

theorem length_le_indentedMembers (level : Nat) (m : String × Json) (ms : List (String × Json)) :
  ms.length ≤ (indentedMembers level (m :: ms)).length
  := by
  induction ms generalizing m with
  | nil => apply Nat.zero_le
  | cons n ns ih =>
      have hlength := ih n
      simp only [indentedMembers_cons_cons, List.length_append, List.length_cons]
      omega

/-! ### Values -/

mutual

/-- A written value is read back, whatever follows it. -/
theorem value_pretty (j : Json) (h : j.NumberFree) {room : Nat} (hroom : j.depth ≤ room)
    (level : Nat) (rest : List Char) :
  value room ((pretty level j).toList ++ rest) = .ok (j, rest)
  := by
  cases j with
  | array values =>
      cases values with
      | nil => apply value_compact (array []) h hroom
      | cons v vs =>
          cases room with
          | zero => contradiction
          | succ room =>
              have hfuel : (v :: vs).length ≤ (indentedValues (level + 1) (v :: vs) ++
                  ((newline level).toList ++ ']' :: rest)).length := by
                have hlength := length_le_indentedValues (level + 1) v vs
                simp only [List.length_append, List.length_cons]
                omega
              have hread := elements_indentedValues (v :: vs) (by simp) h
                (Nat.le_of_succ_le_succ hroom) hfuel (level + 1) level rest
              obtain ⟨c, cs, hcs, hspace, hclosing⟩ :=
                exists_indentedValues_eq_cons (level + 1) h.1 vs
              rw [toList_pretty_array, List.cons_append, value_bracket, List.append_assoc,
                arrayBody_newline, List.append_assoc, List.append_assoc, List.singleton_append]
              rw [hcs] at hread ⊢
              apply arrayBody_cons hspace hclosing hread
  | object ms =>
      cases ms with
      | nil => apply value_compact (object []) h hroom
      | cons m ms =>
          cases room with
          | zero => contradiction
          | succ room =>
              have hfuel : (m :: ms).length ≤ (indentedMembers (level + 1) (m :: ms) ++
                  ((newline level).toList ++ '\x7d' :: rest)).length := by
                have hlength := length_le_indentedMembers (level + 1) m ms
                simp only [List.length_append, List.length_cons]
                omega
              have hread := members_indentedMembers (m :: ms) (by simp) h
                (Nat.le_of_succ_le_succ hroom) hfuel (level + 1) level rest
              obtain ⟨cs, hcs⟩ := exists_indentedMembers_eq_cons (level + 1) m ms
              rw [toList_pretty_object, List.cons_append, value_brace, List.append_assoc,
                objectBody_newline, List.append_assoc, List.append_assoc, List.singleton_append]
              rw [hcs] at hread ⊢
              apply objectBody_quote hread
  | number literal => contradiction
  | null => apply value_compact null h hroom
  | bool b => apply value_compact (bool b) h hroom
  | string s => apply value_compact (string s) h hroom

theorem elements_indentedValues (vs : List Json) (hne : vs ≠ []) (h : NumberFreeList vs)
    {room : Nat} (hroom : depthOfList vs ≤ room) {fuel : Nat} (hfuel : vs.length ≤ fuel)
    (level outer : Nat) (rest : List Char) :
  elements (value room) fuel
      (indentedValues level vs ++ ((newline outer).toList ++ ']' :: rest))
    = .ok (vs, rest)
  := by
  cases vs with
  | nil => contradiction
  | cons v vs =>
      obtain ⟨hv, hvs⟩ := Nat.max_le.mp hroom
      cases fuel with
      | zero => contradiction
      | succ fuel =>
          cases vs with
          | nil =>
              apply elements_closing (value_pretty v h.1 hv level _)
              rw [skipSpace_newline, skipSpace_cons rfl]
          | cons w ws =>
              rw [indentedValues_cons_cons, List.append_assoc, List.cons_append,
                List.append_assoc]
              apply elements_next (value_pretty v h.1 hv level _)
              rw [elements_newline]
              apply elements_indentedValues (w :: ws) (by simp) h.2 hvs
                (Nat.le_of_succ_le_succ hfuel)

theorem members_indentedMembers (ms : List (String × Json)) (hne : ms ≠ [])
    (h : NumberFreeMembers ms) {room : Nat} (hroom : depthOfMembers ms ≤ room) {fuel : Nat}
    (hfuel : ms.length ≤ fuel) (level outer : Nat) (rest : List Char) :
  members (value room) fuel
      (indentedMembers level ms ++ ((newline outer).toList ++ '\x7d' :: rest))
    = .ok (ms, rest)
  := by
  match ms with
  | [] => contradiction
  | (name, v) :: ms =>
      obtain ⟨hv, hms⟩ := Nat.max_le.mp hroom
      have hmember : ∀ next, member (value room) (indentedMember level (name, v) ++ next)
          = .ok ((name, v), next) := by
        intro next
        rw [indentedMember, List.append_assoc, List.cons_append, List.cons_append]
        apply member_quote name
        have hspace : ∀ cs, value room (' ' :: cs) = value room cs := fun _ => value_skipSpace rfl
        rw [hspace]
        apply value_pretty v h.1 hv level next
      cases fuel with
      | zero => contradiction
      | succ fuel =>
          cases ms with
          | nil =>
              apply members_closing (hmember _)
              rw [skipSpace_newline, skipSpace_cons rfl]
          | cons n ns =>
              rw [indentedMembers_cons_cons, List.append_assoc, List.cons_append,
                List.append_assoc]
              apply members_next (hmember _)
              rw [members_newline]
              apply members_indentedMembers (n :: ns) (by simp) h.2 hms
                (Nat.le_of_succ_le_succ hfuel)

end

end Json

/-! ### Content trees -/

namespace Node

theorem numberFree_styleMembers (styles : List TextStyle) {ms : List (String × Json)}
    (h : Json.NumberFreeMembers ms) :
  Json.NumberFreeMembers (styleMembers styles ++ ms)
  := by
  rw [styleMembers]
  split
  · apply h
  · exact ⟨Json.numberFree_list Enumerated.numberFree_toJson styles, h⟩

theorem numberFree_optionalMember {α : Type} (name : String) {encode : α → Json}
    (hencode : ∀ a, (encode a).NumberFree) (o : Option α) {ms : List (String × Json)}
    (h : Json.NumberFreeMembers ms) :
  Json.NumberFreeMembers (optionalMember name encode o ++ ms)
  := by
  cases o with
  | none => apply h
  | some a => exact ⟨hencode a, h⟩

mutual

/-- There is no number in a content tree. -/
theorem numberFree_toJson (n : Node) :
  n.toJson.NumberFree
  := by
  cases n with
  | text t styles platforms =>
      have hplatforms := PlatformSet.numberFree_toJson platforms
      rw [toJson, List.append_assoc]
      exact ⟨trivial, trivial, numberFree_styleMembers styles ⟨hplatforms, trivial⟩⟩
  | link t target platforms =>
      exact ⟨trivial, trivial, target.numberFree_toJson, PlatformSet.numberFree_toJson platforms,
        trivial⟩
  | group kind owner styles platforms cs =>
      have hplatforms := PlatformSet.numberFree_toJson platforms
      have hchildren := numberFree_toJsonList cs
      rw [toJson, List.append_assoc, List.append_assoc, List.append_assoc]
      apply And.intro trivial
      apply numberFree_optionalMember "kind" Enumerated.numberFree_toJson
      apply numberFree_optionalMember "owner" SymbolId.numberFree_toJson
      apply numberFree_styleMembers
      exact ⟨hplatforms, hchildren, trivial⟩

theorem numberFree_toJsonList (ns : List Node) :
  Json.NumberFreeList (toJsonList ns)
  := by
  cases ns with
  | nil => trivial
  | cons n ns => exact ⟨numberFree_toJson n, numberFree_toJsonList ns⟩

end

end Node

end PlatformSignatures
