import PlatformSignatures.Document.Annotation
import PlatformSignatures.Document.TypeExpr

/-!
# Decoding nested values

Types and the values of annotations are decoded under a bound on how deep they are nested.  The
bound makes no difference as long as it is above the depth of the value, because each decoder only
goes on with values inside the one that it is given.  So the decoders satisfy the equations that
they would have if they were written without a bound.
-/

namespace PlatformSignatures

variable {α β : Type}

namespace Json

/-! ### Values inside values -/

theorem depth_lt_of_mem_array {v : Json} {vs : List Json} (h : v ∈ vs) :
  v.depth < (array vs).depth
  := by
  rw [depth, Nat.lt_succ_iff]
  induction vs with
  | nil => contradiction
  | cons w vs ih =>
      rw [depthOfList]
      obtain rfl | h := List.mem_cons.mp h
      · apply Nat.le_max_left
      · apply Nat.le_trans (ih h) (Nat.le_max_right _ _)

theorem depth_lt_of_mem_object {m : String × Json} {ms : List (String × Json)} (h : m ∈ ms) :
  m.2.depth < (object ms).depth
  := by
  rw [depth, Nat.lt_succ_iff]
  induction ms with
  | nil => contradiction
  | cons w ms ih =>
      rw [depthOfMembers]
      obtain rfl | h := List.mem_cons.mp h
      · apply Nat.le_max_left
      · apply Nat.le_trans (ih h) (Nat.le_max_right _ _)

theorem mem_of_lookup_eq_some {ms : List (String × Json)} {name : String} {v : Json}
    (h : ms.lookup name = some v) :
  (name, v) ∈ ms
  := by
  obtain ⟨before, after, rfl, -⟩ := List.lookup_eq_some_iff.mp h
  apply List.mem_append_right before List.mem_cons_self

/-- The values given for the fields of an object are inside it. -/
theorem depth_lt_of_objectRecord? {names : List String} {j : Json} {fields : List (String × Json)}
    (h : j.objectRecord? names = some fields) {name : String} {v : Json}
    (hv : fields.lookup name = some v) :
  v.depth < j.depth
  := by
  cases j with
  | object members =>
      obtain ⟨-, ⟨⟩⟩ := Option.ite_none_right_eq_some.mp h
      obtain ⟨hm, -⟩ := List.mem_filter.mp (mem_of_lookup_eq_some hv)
      apply depth_lt_of_mem_object hm
  | _ => contradiction

/-- The values given for the fields of a record are inside it. -/
theorem depth_lt_of_record? {rules : Rules} {names : List String} {j : Json}
    {fields : List (String × Json)} (h : j.record? rules names = some fields) {name : String}
    {v : Json} (hv : fields.lookup name = some v) :
  v.depth < j.depth
  := by
  cases j with
  | array values =>
      obtain ⟨-, ⟨⟩⟩ := Option.ite_none_right_eq_some.mp h
      apply depth_lt_of_mem_array (List.of_mem_zip (mem_of_lookup_eq_some hv)).2
  | object members => exact depth_lt_of_objectRecord? (j := object members) h hv
  | _ => contradiction

theorem depth_lt_of_pair? {rules : Rules} {first : Json → Option α} {j : Json} {a : α} {v : Json}
    (h : j.pair? rules first some = some (a, v)) :
  v.depth < j.depth
  := by
  unfold pair? at h
  split at h
  · obtain ⟨-, h⟩ := Option.ite_none_right_eq_some.mp h
    obtain ⟨_, -, ⟨⟩⟩ := Option.bind_eq_some_iff.mp h
    apply depth_lt_of_mem_array (List.mem_cons_of_mem _ List.mem_cons_self)
  · contradiction

/-- The value given with a kind is inside the value that has the kind. -/
theorem depth_lt_of_tagged? {rules r : Rules} {kinds : List String} {j : Json} {kind : String}
    {v : Json} (h : j.tagged? rules kinds = some (kind, some v, r)) :
  v.depth < j.depth
  := by
  cases j with
  | array values =>
      obtain ⟨_, hpair, ⟨⟩⟩ := Option.bind_eq_some_iff.mp h
      apply depth_lt_of_pair? hpair
  | object members =>
      obtain ⟨fields, hfields, h⟩ := Option.bind_eq_some_iff.mp h
      obtain ⟨_, -, h⟩ := Option.bind_eq_some_iff.mp h
      have hvalue : fields.lookup "value" = some v := by
        injection h with h
        injection h with _ h
        injection h
      apply depth_lt_of_objectRecord? hfields hvalue
  | _ => contradiction

/-! ### Decoders that agree on what is inside a value -/

theorem mapM_congr {f g : Json → Option α} {vs : List Json} (h : ∀ v ∈ vs, f v = g v) :
  vs.mapM f = vs.mapM g
  := by
  induction vs with
  | nil => rfl
  | cons v vs ih =>
      obtain ⟨hv, hvs⟩ := List.forall_mem_cons.mp h
      rw [List.mapM_cons, List.mapM_cons, hv, ih hvs]

section

variable {f g : Json → Option α} {j : Json}

theorem list?_congr (h : ∀ v, v.depth < j.depth → f v = g v) :
  j.list? f = j.list? g
  := by
  cases j with
  | array vs => exact mapM_congr fun v hv => h v (depth_lt_of_mem_array hv)
  | _ => rfl

theorem pair?_congr (rules : Rules) (first : Json → Option β)
    (h : ∀ v, v.depth < j.depth → f v = g v) :
  j.pair? rules first f = j.pair? rules first g
  := by
  unfold pair?
  split
  · rw [h _ (depth_lt_of_mem_array (List.mem_cons_of_mem _ List.mem_cons_self))]
  · rfl

theorem withDefault_congr (default : α) {fields : List (String × Json)} {name : String}
    (h : ∀ v, fields.lookup name = some v → f v = g v) :
  withDefault default f fields name = withDefault default g fields name
  := by
  rw [withDefault, withDefault]
  cases hname : fields.lookup name with
  | none => rfl
  | some v => exact h v hname

end

/-! ### Decoding by kinds -/

/-- A value with a kind, by a decoder for each kind that is given a decoder for the values
inside. -/
def decodeTagged (kinds : List String)
    (ofKind? : Rules → (Json → Option α) → String → Option Json → Option α)
    (inside : Rules → Json → Option α) (rules : Rules) (j : Json) : Option α :=
  (j.tagged? rules kinds).bind fun t => ofKind? t.2.2 (inside t.2.2) t.1 t.2.1

/-- The decoders for the kinds decode nothing that is nested deeper than the value they are
given. -/
def Inward (ofKind? : Rules → (Json → Option α) → String → Option Json → Option α) : Prop :=
  ∀ rules kind value, ∀ f g : Json → Option α,
    (∀ v ∈ value, ∀ i, i.depth ≤ v.depth → f i = g i) →
      ofKind? rules f kind value = ofKind? rules g kind value

section

variable {kinds : List String}
  {ofKind? : Rules → (Json → Option α) → String → Option Json → Option α}

theorem Inward.decodeTagged_congr (hinward : Inward ofKind?) {f g : Rules → Json → Option α}
    (rules : Rules) {j : Json} (h : ∀ r i, i.depth < j.depth → f r i = g r i) :
  decodeTagged kinds ofKind? f rules j = decodeTagged kinds ofKind? g rules j
  := by
  apply Option.bind_congr
  rintro ⟨kind, value, r⟩ ht
  apply hinward
  rintro v rfl i hi
  apply h r i (Nat.lt_of_le_of_lt hi (depth_lt_of_tagged? ht))

/-- A bound above the depth of a value makes no difference. -/
theorem Inward.bound_irrelevant (hinward : Inward ofKind?)
    {decode : Nat → Rules → Json → Option α}
    (hdecode : ∀ n rules j,
      decode (n + 1) rules j = decodeTagged kinds ofKind? (decode n) rules j)
    {n m : Nat} (rules : Rules) {j : Json} (hn : j.depth < n) (hm : j.depth < m) :
  decode n rules j = decode m rules j
  := by
  induction n generalizing m rules j with
  | zero => contradiction
  | succ n ih =>
      obtain _ | m := m
      · contradiction
      rw [hdecode, hdecode]
      apply hinward.decodeTagged_congr
      intro r i hi
      apply ih r
      · omega
      · omega

/-- A decoder that is given a bound above the depth of each value needs none. -/
theorem Inward.eq_decodeTagged (hinward : Inward ofKind?) {decode : Nat → Rules → Json → Option α}
    (hdecode : ∀ n rules j,
      decode (n + 1) rules j = decodeTagged kinds ofKind? (decode n) rules j)
    (rules : Rules) (j : Json) :
  decode (j.depth + 1) rules j
    = decodeTagged kinds ofKind? (fun r i => decode (i.depth + 1) r i) rules j
  := by
  rw [hdecode]
  apply hinward.decodeTagged_congr
  intro r i hi
  apply hinward.bound_irrelevant hdecode r hi (Nat.lt_succ_self _)

end

end Json

/-! ### Types -/

namespace TypeExpr

/-- The named type that a record of its parts gives, by a decoder for its arguments. -/
def namedOfJson? (rules : Json.Rules) (inside : Json → Option TypeExpr) (j : Json) :
    Option TypeExpr := do
  let fields ← j.objectRecord? ["id", "arguments", "function"]
  return named
    (← Json.required (SymbolId.ofJson? rules) fields "id")
    (← Json.withDefault [] (Json.list? inside) fields "arguments")
    (← Json.withDefault .notFunction (Json.enumeration? rules) fields "function")

/-- The type of a kind that a value gives, by a decoder for the types inside it. -/
def ofKind? (rules : Json.Rules) (inside : Json → Option TypeExpr) (kind : String)
    (value : Option Json) : Option TypeExpr :=
  match kind with
  | "named" => value.bind (namedOfJson? rules inside)
  | "variance" => do
    let (v, inner) ← value.bind (Json.pair? rules (Json.enumeration? rules) inside)
    return variance v inner
  | "nullable" => do return nullable (← value.bind inside)
  | "star" => Json.unit? star value
  | "platform-object" => Json.unit? root value
  | "primitive" => do return primitive (← value.bind Json.string?)
  | "void" => Json.unit? void value
  | "dynamic" => Json.unit? dynamic value
  | "type-parameter-ref" => do return typeParameter (← value.bind Json.string?)
  | _ => none

theorem decode_succ (depth : Nat) (rules : Json.Rules) (j : Json) :
  decode (depth + 1) rules j = Json.decodeTagged kinds ofKind? (decode depth) rules j
  := by
  rw [decode]
  apply Option.bind_congr
  rintro ⟨kind, value, r⟩ -
  -- the kind is split first on the side where it is matched alone
  symm
  unfold ofKind?
  dsimp only
  split
  case h_10 =>
    split
    all_goals simp_all only [Prod.mk.injEq, false_and, imp_false]
  all_goals
    cases value
    · rfl
    · rfl

theorem namedOfJson?_congr (rules : Json.Rules) {f g : Json → Option TypeExpr} {j : Json}
    (h : ∀ i, i.depth < j.depth → f i = g i) :
  namedOfJson? rules f j = namedOfJson? rules g j
  := by
  apply Option.bind_congr
  intro fields hfields
  apply Option.bind_congr
  intro id _
  have harguments : Json.withDefault [] (Json.list? f) fields "arguments"
      = Json.withDefault [] (Json.list? g) fields "arguments" := by
    apply Json.withDefault_congr
    intro v hv
    apply Json.list?_congr
    intro i hi
    apply h i (Nat.lt_trans hi (Json.depth_lt_of_objectRecord? hfields hv))
  exact congrArg (Option.bind · _) harguments

theorem inward_ofKind? :
  Json.Inward ofKind?
  := by
  intro rules kind value f g h
  cases value with
  | none => rfl
  | some v =>
      have hv : f v = g v := h v rfl v (Nat.le_refl _)
      have hinner (i : Json) (hi : i.depth < v.depth) : f i = g i := h v rfl i (Nat.le_of_lt hi)
      unfold ofKind?
      split
      · exact namedOfJson?_congr rules hinner
      · exact congrArg (Option.bind · _) (Json.pair?_congr rules _ hinner)
      · exact congrArg (Option.bind · _) hv
      all_goals rfl

/-- A type is what its kind and its value give. -/
theorem ofJson?_eq (rules : Json.Rules) (j : Json) :
  ofJson? rules j = Json.decodeTagged kinds ofKind? ofJson? rules j
  := inward_ofKind?.eq_decodeTagged decode_succ rules j

end TypeExpr

/-! ### Values of annotations -/

namespace AnnotationValue

/-- The value of a kind that a value in a document gives, by a decoder for the values inside it. -/
def ofKind? (rules : Json.Rules) (inside : Json → Option AnnotationValue) (kind : String)
    (value : Option Json) : Option AnnotationValue :=
  match kind with
  | "string" => do return literal (← value.bind Json.string?)
  | "enum" => do
    let (name, id) ← value.bind (decodeReference rules)
    return enumEntry name id
  | "class" => do
    let (name, id) ← value.bind (decodeReference rules)
    return classLiteral name id
  | "annotation" => do
    let (id, arguments) ← value.bind (decodeParts rules inside)
    return nested id arguments
  | "array" => do return array (← value.bind (Json.list? inside))
  | _ => none

theorem decode_succ (depth : Nat) (rules : Json.Rules) (j : Json) :
  decode (depth + 1) rules j = Json.decodeTagged kinds ofKind? (decode depth) rules j
  := by
  rw [decode]
  apply Option.bind_congr
  rintro ⟨kind, value, r⟩ -
  symm
  unfold ofKind?
  dsimp only
  split
  case h_6 =>
    split
    all_goals simp_all only [Prod.mk.injEq, false_and, imp_false]
  all_goals
    cases value
    · rfl
    · rfl

theorem decodeParts_congr (rules : Json.Rules) {f g : Json → Option AnnotationValue} {j : Json}
    (h : ∀ i, i.depth < j.depth → f i = g i) :
  decodeParts rules f j = decodeParts rules g j
  := by
  apply Option.bind_congr
  intro fields hfields
  apply Option.bind_congr
  intro id _
  have harguments : Json.withDefault [] (Json.list? (Json.pair? rules Json.string? f)) fields
      "params" = Json.withDefault [] (Json.list? (Json.pair? rules Json.string? g)) fields
      "params" := by
    apply Json.withDefault_congr
    intro v hv
    apply Json.list?_congr
    intro i hi
    apply Json.pair?_congr
    intro w hw
    apply h w (Nat.lt_trans hw (Nat.lt_trans hi (Json.depth_lt_of_record? hfields hv)))
  exact congrArg (Option.bind · _) harguments

theorem inward_ofKind? :
  Json.Inward ofKind?
  := by
  intro rules kind value f g h
  cases value with
  | none => rfl
  | some v =>
      have hinner (i : Json) (hi : i.depth < v.depth) : f i = g i := h v rfl i (Nat.le_of_lt hi)
      unfold ofKind?
      split
      case h_4 => exact congrArg (Option.bind · _) (decodeParts_congr rules hinner)
      case h_5 => exact congrArg (Option.bind · _) (Json.list?_congr hinner)
      all_goals rfl

/-- The value of an argument is what its kind and its value give. -/
theorem ofJson?_eq (rules : Json.Rules) (j : Json) :
  ofJson? rules j = Json.decodeTagged kinds ofKind? ofJson? rules j
  := inward_ofKind?.eq_decodeTagged decode_succ rules j

end AnnotationValue

end PlatformSignatures
