import PlatformSignatures.Content.Emitter
import PlatformSignatures.Proofs.Following
import PlatformSignatures.Proofs.WrittenText

/-!
# Programs

Carrying out a program is writing its emission after the nodes that are there already.
-/

namespace PlatformSignatures

variable {ν : Type}

/-! ### Steps of an emitter -/

namespace Emitter

/-- An emitter that has written an emission. -/
def write (e : Emitter ν) (written : Emission ν) : Emitter ν :=
  ⟨e.scope, e.nodes ++ written e.scope⟩

variable (e : Emitter ν)

theorem write_nothing :
  e.write .nothing = e
  := by
  rw [write, Emission.nothing, List.append_nil]

theorem write_append (first second : Emission ν) :
  e.write (first ++ second) = (e.write first).write second
  := by
  unfold write
  rw [List.append_assoc]
  rfl

theorem styledText_eq (t : String) (styles : List TextStyle) :
  e.styledText t styles = e.write (.styledText t styles)
  := by
  unfold styledText write Emission.styledText
  split
  · rw [List.append_nil]
  · rfl

theorem text_eq (t : String) :
  e.text t = e.write (.text t)
  := e.styledText_eq t []

/-- Tokens that are written one by one are the tokens that are not blank. -/
theorem foldl_tokens (groups : List (String × PlatformSet)) :
  groups.foldl
      (fun e g => if Text.isBlank g.1 then e else e.push (e.scope.factory.text g.1 [] g.2)) e
    = ⟨e.scope, e.nodes ++ (groups.filter fun g => !Text.isBlank g.1).map fun g =>
        e.scope.factory.text g.1 [] g.2⟩
  := by
  induction groups generalizing e with
  | nil => rw [List.foldl_nil, List.filter_nil, List.map_nil, List.append_nil]
  | cons g gs ih =>
      rw [List.foldl_cons, ih]
      cases hblank : Text.isBlank g.1 with
      | true => simp [hblank]
      | false => simp [hblank, push]

theorem perPlatform_eq {α : Type} (values : PlatformMap α) (token : α → String) :
  e.perPlatform values token = e.write (.perPlatform values token)
  := e.foldl_tokens _

end Emitter

/-! ### What is carried out is written -/

namespace Program

mutual

/-- To carry out a program is to write its emission. -/
theorem perform_eq (p : Program) (e : Emitter ν) :
  p.perform e = e.write p.emission
  := by
  cases p with
  | nothing =>
      rw [perform, emission, Emitter.write_nothing]
  | followedBy first second =>
      rw [perform, emission, perform_eq first e, perform_eq second, Emitter.write_append]
  | text t => rw [perform, emission, Emitter.text_eq]
  | styledText t styles => rw [perform, emission, Emitter.styledText_eq]
  | link t target => rfl
  | group styles body =>
      rw [perform, emission, perform_eq body]
      rfl
  | onPlatforms platforms body =>
      rw [perform, emission, perform_eq body]
      rfl
  | owned owner kind styles platforms body =>
      rw [perform, emission, perform_eq body]
      rfl
  | enclosed opening closing separator items =>
      cases items with
      | nil => rw [perform, emission, emissions, Emission.enclosed, Emitter.write_nothing]
      | cons item items =>
          -- The opening text is written first, so the items go on after it.
          rw [perform, emission, performItems_eq separator (item :: items), emissions,
            Emission.enclosed_cons, Emitter.write_append, Emitter.write_append, Emitter.text_eq,
            Emitter.text_eq]
  | perPlatform values token => rw [perform, emission, Emitter.perPlatform_eq]

theorem performItems_eq (separator : String) (items : List Program) (e : Emitter ν) :
  performItems separator items e = e.write (.separated separator (emissions items))
  := by
  match items with
  | [] => rw [performItems, emissions, Emission.separated, Emitter.write_nothing]
  | [item] => rw [performItems, emissions, emissions, Emission.separated, perform_eq item]
  | item :: item' :: items =>
      rw [performItems, emissions, emissions, Emission.separated_cons_cons, Emitter.write_append,
        Emitter.write_append, performItems_eq separator (item' :: items), perform_eq item,
        Emitter.text_eq, emissions]
      exact List.cons_ne_nil _ _

end

end Program

end PlatformSignatures
