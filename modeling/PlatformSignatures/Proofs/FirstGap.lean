import PlatformSignatures.Proofs.Coverage

/-!
# The first gap

What a model requires, as a list: that symbols exist on some platform and that attributes have a
value on each platform.  The check of a model goes through this list in order.  It is passed exactly
if every requirement is met, and otherwise it reports the gap of the first requirement that is not.
-/

namespace PlatformSignatures

/-! ### Requirements -/

/-- What is required of a symbol. -/
inductive Requirement where
  /-- The symbol exists on some platform. -/
  | somewhere (symbol : SymbolId) (platforms : PlatformSet)
  /-- Each platform of the symbol is a key of an attribute. -/
  | everywhere (symbol : SymbolId) (aspect : Aspect) (keys platforms : PlatformSet)

namespace Requirement

/-- Whether a requirement is met. -/
def Met : Requirement → Prop
  | somewhere _ platforms => ∃ p, p ∈ platforms
  | everywhere _ _ keys platforms => ∀ p ∈ platforms, p ∈ keys

/-- The gap that an unmet requirement leaves.  Of the platforms that are no keys, it names the
least. -/
inductive Leaves : Requirement → Gap → Prop where
  | nowhere {symbol : SymbolId} {platforms : PlatformSet} (h : ∀ p, p ∉ platforms) :
    Leaves (somewhere symbol platforms) (.noPlatforms symbol)
  | missing {symbol : SymbolId} {aspect : Aspect} {keys platforms : PlatformSet} {p : Platform}
      (hp : p ∈ platforms) (hkey : p ∉ keys) (hleast : ∀ q ∈ platforms, q ∉ keys → p ≤ q) :
    Leaves (everywhere symbol aspect keys platforms) (.missing symbol aspect p)

/-- The check of a requirement. -/
def check : Requirement → Except Gap Unit
  | somewhere symbol platforms => Coverage.declared symbol platforms
  | everywhere symbol aspect keys platforms =>
    match platforms.elements.find? fun p => p ∉ keys with
    | some p => .error (.missing symbol aspect p)
    | none => .ok ()

theorem check_eq_ok_iff (r : Requirement) :
  r.check = .ok () ↔ r.Met
  := by
  cases r with
  | somewhere symbol platforms =>
      rw [check, Met, ← OrderedSet.isEmpty_eq_false_iff, Coverage.declared]
      cases platforms.isEmpty <;> simp
  | everywhere symbol aspect keys platforms =>
      rw [check, Met]
      cases h : platforms.elements.find? fun p => p ∉ keys with
      | none =>
          simp only [true_iff]
          intro p hp
          simpa using List.find?_eq_none.mp h p hp
      | some p =>
          obtain ⟨hp, hkey, -⟩ := (OrderedSet.find?_eq_some_iff platforms _ p).mp h
          simp only [reduceCtorEq, false_iff, not_forall]
          use p, hp
          simpa using hkey

theorem check_eq_error_iff (r : Requirement) (g : Gap) :
  r.check = .error g ↔ r.Leaves g
  := by
  constructor
  · intro h
    cases r with
    | somewhere symbol platforms =>
        rw [check, Coverage.declared] at h
        split at h
        case isFalse => contradiction
        case isTrue hempty =>
          cases h
          apply Leaves.nowhere ((OrderedSet.isEmpty_iff platforms).mp hempty)
    | everywhere symbol aspect keys platforms =>
        rw [check] at h
        split at h
        case h_2 => contradiction
        case h_1 p hfind =>
          cases h
          obtain ⟨hp, hkey, hleast⟩ := (OrderedSet.find?_eq_some_iff platforms _ p).mp hfind
          apply Leaves.missing hp (by simpa using hkey)
          intro q hq hqkey
          apply hleast q hq (by simpa using hqkey)
  · intro h
    cases h with
    | nowhere h => rw [check, Coverage.declared, (OrderedSet.isEmpty_iff _).mpr h, if_pos rfl]
    | @missing symbol aspect keys platforms p hp hkey hleast =>
        have hfind : platforms.elements.find? (fun p => p ∉ keys) = some p := by
          rw [OrderedSet.find?_eq_some_iff]
          use hp, by simpa using hkey
          intro q hq hqkey
          apply hleast q hq (by simpa using hqkey)
        rw [check, hfind]

end Requirement

/-! ### Checks one after the other -/

namespace Coverage

variable {α : Type}

theorem each_append (check : α → Except Gap Unit) (as bs : List α) :
  each check (as ++ bs) = (each check as >>= fun _ => each check bs)
  := by
  induction as with
  | nil => rfl
  | cons a as ih =>
      rw [List.cons_append, each, each, ih]
      cases check a <;> rfl

theorem each_singleton (check : α → Except Gap Unit) (a : α) :
  each check [a] = check a
  := by
  rw [each, each]
  cases check a <;> rfl

theorem each_flatMap {β : Type} (check : α → Except Gap Unit) (f : β → List α) (bs : List β) :
  each check (bs.flatMap f) = each (fun b => each check (f b)) bs
  := by
  induction bs with
  | nil => rfl
  | cons b bs ih => rw [List.flatMap_cons, each_append, ih, each]

/-- What is reported is the gap of the first item that does not pass, if there is one. -/
theorem each_eq_error_iff (check : α → Except Gap Unit) (as : List α) (g : Gap) :
  each check as = .error g
    ↔ ∃ before a after, as = before ++ a :: after ∧ (∀ b ∈ before, check b = .ok ()) ∧
        check a = .error g
  := by
  constructor
  · intro h
    induction as with
    | nil => contradiction
    | cons a as ih =>
        rw [each] at h
        cases ha : check a with
        | error gap =>
            rw [ha] at h
            cases h
            exact ⟨[], a, as, rfl, List.forall_mem_nil _, ha⟩
        | ok _ =>
            rw [ha] at h
            obtain ⟨before, b, after, rfl, hbefore, hb⟩ := ih h
            use a :: before, b, after
            exact ⟨rfl, List.forall_mem_cons.mpr ⟨ha, hbefore⟩, hb⟩
  · rintro ⟨before, a, after, rfl, hbefore, ha⟩
    rw [each_append, (each_eq_ok_iff check before).mpr hbefore, each]
    simp only [ha]
    rfl

end Coverage

/-! ### The requirements of a model -/

/-- The requirements of a type parameter. -/
def TypeParameter.requirements (t : TypeParameter) : List Requirement :=
  [.somewhere t.id t.platforms]

/-- The requirements of a function, a constructor or an accessor. -/
def Function.requirements (f : Function) : List Requirement :=
  .somewhere f.id f.platforms :: .everywhere f.id .visibility f.visibility.keys f.platforms ::
    f.generics.flatMap TypeParameter.requirements

namespace Declaration

/-- The visibility of a declaration, if it is of a kind that has one. -/
def visibility? : Declaration → Option (PlatformMap Visibility)
  | classlike c => some c.visibility
  | function f => some f.visibility
  | property p => some p.visibility
  | typeAlias t => some t.visibility
  | _ => none

/-- The types that a declaration stands for, if it is a type alias. -/
def underlying? : Declaration → Option (PlatformMap TypeExpr)
  | typeAlias t => some t.underlying
  | _ => none

/-- The type parameters of a declaration. -/
def generics : Declaration → List TypeParameter
  | classlike c => c.generics
  | function f => f.generics
  | property p => p.generics
  | typeAlias t => t.generics
  | _ => []

/-- The functions that belong to a declaration: the constructors of a class, or the getter and the
setter of a property. -/
def ownedFunctions : Declaration → List Function
  | classlike c => c.constructors
  | property p => p.getter.toList ++ p.setter.toList
  | _ => []

/-- The requirements of a declaration, in the order in which they are checked. -/
def requirements (d : Declaration) : List Requirement :=
  [.somewhere d.id d.platforms] ++
    (d.visibility?.toList.map fun values =>
      .everywhere d.id .visibility values.keys d.platforms) ++
    (d.underlying?.toList.map fun values =>
      .everywhere d.id .underlyingType values.keys d.platforms) ++
    d.generics.flatMap TypeParameter.requirements ++
    d.ownedFunctions.flatMap Function.requirements

end Declaration

/-- The requirements of a model, in the order in which they are checked. -/
def Model.requirements (m : Model) : List Requirement :=
  m.declarations.flatMap Declaration.requirements

namespace Coverage

theorem covers_eq_check {α : Type} (symbol : SymbolId) (aspect : Aspect) (values : PlatformMap α)
    (platforms : PlatformSet) :
  covers symbol aspect values platforms
    = (Requirement.everywhere symbol aspect values.keys platforms).check
  := by
  have htest : (fun p => !values.contains p) = fun p => decide (p ∉ values.keys) := by
    funext p
    rw [Bool.eq_iff_iff, Bool.not_eq_true', ← Bool.not_eq_true, PlatformMap.contains_iff,
      decide_eq_true_iff]
  rw [covers, htest]
  rfl

theorem typeParameter_eq_each (t : TypeParameter) :
  typeParameter t = each Requirement.check t.requirements
  := (each_singleton Requirement.check (.somewhere t.id t.platforms)).symm

theorem function_eq_each (f : Function) :
  function f = each Requirement.check f.requirements
  := by
  rw [function, covers_eq_check, funext typeParameter_eq_each, ← each_flatMap]
  rfl

/-- The check of a declaration is the check of its requirements, one after the other. -/
theorem declaration_eq_each (d : Declaration) :
  declaration d = each Requirement.check d.requirements
  := by
  cases d with
  | classlike c =>
      rw [declaration, classlike, covers_eq_check, funext typeParameter_eq_each,
        funext function_eq_each, ← each_flatMap, ← each_flatMap, ← each_append]
      rfl
  | function f =>
      change function f = each _ (f.requirements ++ [])
      rw [function_eq_each, List.append_nil]
  | property p =>
      rw [declaration, property, covers_eq_check, funext typeParameter_eq_each,
        funext function_eq_each, ← each_flatMap, ← each_flatMap, ← each_append]
      rfl
  | typeAlias t =>
      rw [declaration, typeAlias, covers_eq_check, covers_eq_check, funext typeParameter_eq_each,
        ← each_flatMap, ← List.append_nil (t.generics.flatMap _)]
      rfl
  | typeParameter t =>
      rw [declaration, typeParameter_eq_each]
      rfl
  | enumEntry e => exact (each_singleton Requirement.check (.somewhere e.id e.platforms)).symm

end Coverage

/-! ### Models that are covered -/

/-- A type parameter exists on some platform. -/
def TypeParameter.Covered (t : TypeParameter) : Prop :=
  ∃ p, p ∈ t.platforms

/-- A function, constructor or accessor exists on some platform, has a visibility on each of them,
and its type parameters exist on some platform. -/
structure Function.Covered (f : Function) : Prop where
  platforms : ∃ p, p ∈ f.platforms
  visibility : ∀ p ∈ f.platforms, p ∈ f.visibility.keys
  generics : ∀ t ∈ f.generics, t.Covered

/-- A declaration exists on some platform and has on each of them a visibility and, if it is a type
alias, a type that it stands for; its type parameters, constructors and accessors are covered. -/
structure Declaration.Covered (d : Declaration) : Prop where
  platforms : ∃ p, p ∈ d.platforms
  visibility : ∀ values ∈ d.visibility?, ∀ p ∈ d.platforms, p ∈ values.keys
  underlying : ∀ values ∈ d.underlying?, ∀ p ∈ d.platforms, p ∈ values.keys
  generics : ∀ t ∈ d.generics, t.Covered
  ownedFunctions : ∀ f ∈ d.ownedFunctions, f.Covered

/-- The declarations of a model are covered. -/
def Model.Covered (m : Model) : Prop :=
  ∀ d ∈ m.declarations, d.Covered

theorem TypeParameter.met_requirements_iff (t : TypeParameter) :
  (∀ r ∈ t.requirements, r.Met) ↔ t.Covered
  := by
  rw [requirements, List.forall_mem_singleton]
  apply Iff.rfl

theorem Function.met_requirements_iff (f : Function) :
  (∀ r ∈ f.requirements, r.Met) ↔ f.Covered
  := by
  rw [requirements, List.forall_mem_cons, List.forall_mem_cons, List.forall_mem_flatMap]
  simp only [TypeParameter.met_requirements_iff]
  constructor
  · rintro ⟨hplatforms, hvisibility, hgenerics⟩
    exact ⟨hplatforms, hvisibility, hgenerics⟩
  · rintro ⟨hplatforms, hvisibility, hgenerics⟩
    exact ⟨hplatforms, hvisibility, hgenerics⟩

theorem Declaration.met_requirements_iff (d : Declaration) :
  (∀ r ∈ d.requirements, r.Met) ↔ d.Covered
  := by
  simp only [requirements, List.forall_mem_append, List.forall_mem_singleton, List.forall_mem_map,
    List.forall_mem_flatMap, Option.mem_toList, TypeParameter.met_requirements_iff,
    Function.met_requirements_iff]
  constructor
  · rintro ⟨⟨⟨⟨hplatforms, hvisibility⟩, hunderlying⟩, hgenerics⟩, hfunctions⟩
    exact ⟨hplatforms, hvisibility, hunderlying, hgenerics, hfunctions⟩
  · rintro ⟨hplatforms, hvisibility, hunderlying, hgenerics, hfunctions⟩
    exact ⟨⟨⟨⟨hplatforms, hvisibility⟩, hunderlying⟩, hgenerics⟩, hfunctions⟩

/-- The check of a model is passed exactly if the model is covered.  What is reported otherwise is
the gap that the first unmet requirement leaves. -/
theorem Model.check_reports_first (m : Model) :
  (m.check = .ok () ↔ m.Covered) ∧
    ∀ g, m.check = .error g
      ↔ ∃ before r after, m.requirements = before ++ r :: after ∧ (∀ q ∈ before, q.Met) ∧
          r.Leaves g
  := by
  have hcheck : m.check = Coverage.each Requirement.check m.requirements := by
    rw [check, requirements, Coverage.each_flatMap, funext Coverage.declaration_eq_each]
  rw [hcheck]
  constructor
  · simp only [Coverage.each_eq_ok_iff, Requirement.check_eq_ok_iff, requirements,
      List.forall_mem_flatMap, Declaration.met_requirements_iff]
    apply Iff.rfl
  · intro g
    simp only [Coverage.each_eq_error_iff, Requirement.check_eq_ok_iff,
      Requirement.check_eq_error_iff]

end PlatformSignatures
