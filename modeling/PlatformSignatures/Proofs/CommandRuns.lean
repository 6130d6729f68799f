import PlatformSignatures.CommandLine
import PlatformSignatures.Proofs.IndentedJson
import PlatformSignatures.Proofs.LineBreaks

/-!
# Runs of the command line

A run on two files that can be opened puts out the signatures of the model by the configuration, as
lines or as content trees, or reports the first of three faults: the model cannot be read, it is not
covered, the configuration cannot be read.
-/

namespace PlatformSignatures

/-! ### Lines of signatures -/

/-- The text of a symbol is unbroken, and so is its line. -/
theorem Node.unbroken_signatureLine {n : Node} (htext : Text.Unbroken n.plainText)
    (hplatforms : ∀ p ∈ n.platforms, Text.Unbroken p) :
  Text.Unbroken n.signatureLine
  := by
  have hlist : Text.Unbroken (", ".intercalate n.platforms.elements) :=
    Text.unbroken_intercalate (by decide) hplatforms
  rw [signatureLine, shownText]
  apply Text.unbroken_append _ (by decide)
  apply Text.unbroken_append _ hlist
  exact Text.unbroken_append (Text.unbroken_plainSpaces htext) (by decide)

/-- The lines of a signature are unbroken if the strings of its declaration and what the
conventions bring into it are. -/
theorem unbroken_symbolLines {c : Conventions} (hc : c.Unbroken) (d : Dialect)
    {declaration : Declaration} (h : ∀ s ∈ declaration.strings, Text.Unbroken s) :
  ∀ line ∈ (d.signature c declaration Node.factory).symbolLines, Text.Unbroken line
  := by
  have hshape := shape_signature d c declaration
  have htext := unbroken_signature hc d h
  rw [hshape.plainText_eq, Text.unbroken_join_iff, List.forall_mem_map] at htext
  rw [Node.symbolLines, List.forall_mem_map]
  intro n hn
  apply Node.unbroken_signatureLine (htext n hn)
  intro p hp
  apply h
  have hpart : n.platforms ∈ declaration.symbolPlatforms := by
    rw [← hshape.map_platforms]
    apply List.mem_map_of_mem hn
  apply mem_strings_of_mem_symbolPlatforms hpart hp

/-- A text of unbroken lines has as many line feeds as lines. -/
theorem count_lineFeeds {lines : List String} (h : ∀ line ∈ lines, Text.Unbroken line) :
  (String.join (lines.map (· ++ "\n"))).toList.count '\n' = lines.length
  := by
  induction lines with
  | nil => rfl
  | cons line lines ih =>
      obtain ⟨hline, hrest⟩ := List.forall_mem_cons.mp h
      have hnone : line.toList.count '\n' = 0 := List.count_eq_zero.mpr hline
      have hone : "\n".toList.count '\n' = 1 := rfl
      rw [List.map_cons, String.join_cons, String.toList_append, String.toList_append,
        List.count_append, List.count_append, ih hrest, hnone, hone, List.length_cons]
      omega

namespace CommandLine

theorem addSignature_eq (out : String) (n : Node) :
  addSignature out n = out ++ (n.signatureLine ++ "\n")
  := by
  have hclosing : "]\n" = "]" ++ "\n" := rfl
  simp only [addSignature, Node.signatureLine, Node.shownText, hclosing, String.append_assoc]

theorem foldl_addSignature (out : String) (ns : List Node) :
  ns.foldl addSignature out = out ++ String.join (ns.map fun n => n.signatureLine ++ "\n")
  := by
  induction ns generalizing out with
  | nil => exact String.append_empty.symm
  | cons n ns ih =>
      rw [List.foldl_cons, ih, addSignature_eq, List.map_cons, String.join_cons,
        String.append_assoc]

/-- The lines that are put out are those of the content trees, each with a line feed after it. -/
theorem textOutput_eq (nodes : List Node) :
  textOutput nodes = String.join ((nodes.flatMap Node.symbolLines).map (· ++ "\n"))
  := by
  have hlines : (nodes.flatMap Node.symbolLines).map (· ++ "\n")
      = (nodes.flatMap Node.symbols).map fun n => n.signatureLine ++ "\n" := by
    rw [List.map_flatMap, List.map_flatMap]
    apply List.flatMap_congr
    intro n _
    rw [Node.symbolLines, List.map_map]
    rfl
  rw [textOutput, ← List.foldl_flatMap, foldl_addSignature, hlines, String.empty_append]

/-! ### Runs -/

/-- The report of a configuration that cannot be read. -/
def configurationMessage : Configuration.ReadFault → String
  | .document => "failed to parse configuration"
  | .brackets text => Configuration.bracketsMessage text

/-- The configuration that a run goes by: the customary one unless there is a text. -/
def configurationOf : Option String → Except Configuration.ReadFault Configuration
  | none => .ok Configuration.default
  | some text => Configuration.read text

/-- The content trees of a model, one for each declaration. -/
def trees (d : Dialect) (m : Model) (c : Configuration) : List Node :=
  m.declarations.map (c.node d)

/-- A model and a configuration are what a run puts out: their texts can be read, and the model is
covered if that is asked for. -/
structure Accepted (options : Options) (source : String) (settings : Option String) (m : Model)
    (c : Configuration) : Prop where
  model : Model.read source = .ok m
  covered : options.validate = true → m.check = .ok ()
  configuration : configurationOf settings = .ok c

/-- What has to come of a run on the text of a model and perhaps that of a configuration. -/
structure Answers (options : Options) (source : String) (settings : Option String)
    (outcome : Except (List String) String) : Prop where
  /-- There is an output exactly if everything is accepted. -/
  succeeds : (∃ out, outcome = .ok out) ↔ ∃ m c, Accepted options source settings m c
  /-- A model that cannot be read is reported before anything else. -/
  unreadable fault : Model.read source = .error fault →
    outcome = .error (report "Failed to load model" options.model "failed to parse model")
  /-- A gap in what the model covers is reported next. -/
  uncovered m gap : Model.read source = .ok m → options.validate = true → m.check = .error gap →
    outcome = .error (report "Invalid model" options.model gap.message)
  /-- A configuration that cannot be read is reported last. -/
  misconfigured m path fault : Model.read source = .ok m →
    (options.validate = true → m.check = .ok ()) → options.config = some path →
    configurationOf settings = .error fault →
    outcome = .error (report "Failed to load config" path (configurationMessage fault))
  /-- The output as text has the lines of each signature, with a line feed after each line. -/
  lines m c : Accepted options source settings m c → options.format = .text →
    outcome = .ok (String.join
      (((trees options.dialect m c).flatMap Node.symbolLines).map (· ++ "\n")))
  /-- It has as many lines as the trees have symbols if there is no line feed in any string. -/
  count m c out : Accepted options source settings m c → options.format = .text →
    (∀ s ∈ m.strings ++ c.strings, Text.Unbroken s) → outcome = .ok out →
    out.toList.count '\n'
      = ((trees options.dialect m c).flatMap Node.nodes).countP fun n => n.kind = some .symbol
  /-- The output as JSON is an array of the trees and a line feed. -/
  array m c : Accepted options source settings m c → options.format = .json →
    ∃ out, outcome = .ok out ∧ ∀ room,
      (Json.list Node.toJson (trees options.dialect m c)).depth ≤ room →
        Json.value room out.toList
          = .ok (Json.list Node.toJson (trees options.dialect m c), ['\n'])

section

variable {read : String → Except FileFault String} {options : Options} {source : String}
  {settings : Option String} (hmodel : read options.model = .ok source)
  (hconfig : options.config.map read = settings.map .ok)

include hmodel in
theorem loadModel_eq :
  loadModel read options.model
    = match Model.read source with
      | .error _ =>
        .error (report "Failed to load model" options.model "failed to parse model")
      | .ok m => .ok m
  := by
  cases hread : Model.read source
  all_goals simp only [loadModel, hmodel, hread]

include hconfig in
theorem loadConfiguration_of_ok {c : Configuration} (hc : configurationOf settings = .ok c) :
  loadConfiguration read options.config = .ok c
  := by
  cases hpath : options.config with
  | none =>
      obtain rfl : settings = none := by simpa [hpath, eq_comm] using hconfig
      cases hc
      rfl
  | some path =>
      rw [hpath, Option.map_some] at hconfig
      obtain ⟨text, rfl, htext⟩ := Option.map_eq_some_iff.mp hconfig.symm
      have hread : Configuration.read text = .ok c := hc
      simp only [loadConfiguration, ← htext, hread]

include hconfig in
theorem loadConfiguration_of_error {path : String} (hpath : options.config = some path)
    {fault : Configuration.ReadFault} (hfault : configurationOf settings = .error fault) :
  loadConfiguration read options.config
    = .error (report "Failed to load config" path (configurationMessage fault))
  := by
  rw [hpath, Option.map_some] at hconfig
  obtain ⟨text, rfl, htext⟩ := Option.map_eq_some_iff.mp hconfig.symm
  have hread : Configuration.read text = .error fault := hfault
  rw [hpath]
  cases fault <;> simp only [loadConfiguration, ← htext, hread, configurationMessage]

theorem checkModel_of_ok {m : Model} (h : options.validate = true → m.check = .ok ()) :
  checkModel options m = .ok ()
  := by
  rw [checkModel]
  split
  case isTrue hvalidate => rw [h hvalidate]
  case isFalse => rfl

include hmodel hconfig

/-- What is put out for a model and a configuration that are accepted. -/
theorem execute_of_accepted {m : Model} {c : Configuration}
    (h : Accepted options source settings m c) :
  execute read options = .ok (options.format.show (trees options.dialect m c))
  := by
  rw [execute, loadModel_eq hmodel, h.model]
  change (checkModel options m >>= _) = _
  rw [checkModel_of_ok h.covered]
  change (loadConfiguration read options.config >>= _) = _
  rw [loadConfiguration_of_ok hconfig h.configuration]
  rfl

omit hconfig in
theorem execute_of_gap {m : Model} {gap : Gap} (hm : Model.read source = .ok m)
    (hvalidate : options.validate = true) (hgap : m.check = .error gap) :
  execute read options = .error (report "Invalid model" options.model gap.message)
  := by
  have hcheck : checkModel options m
      = .error (report "Invalid model" options.model gap.message) := by
    rw [checkModel, if_pos hvalidate, hgap]
  rw [execute, loadModel_eq hmodel, hm]
  change (checkModel options m >>= _) = _
  rw [hcheck]
  rfl

theorem execute_of_configurationFault {m : Model} {path : String}
    {fault : Configuration.ReadFault} (hm : Model.read source = .ok m)
    (hcheck : options.validate = true → m.check = .ok ()) (hpath : options.config = some path)
    (hfault : configurationOf settings = .error fault) :
  execute read options
    = .error (report "Failed to load config" path (configurationMessage fault))
  := by
  rw [execute, loadModel_eq hmodel, hm]
  change (checkModel options m >>= _) = _
  rw [checkModel_of_ok hcheck]
  change (loadConfiguration read options.config >>= _) = _
  rw [loadConfiguration_of_error hconfig hpath hfault]
  rfl

omit hconfig in
theorem execute_of_modelFault {fault : Model.ReadFault} (hfault : Model.read source = .error fault) :
  execute read options
    = .error (report "Failed to load model" options.model "failed to parse model")
  := by
  rw [execute, loadModel_eq hmodel, hfault]
  rfl

/-- A run that has an output goes by a model and a configuration that are accepted. -/
theorem exists_accepted {out : String} (h : execute read options = .ok out) :
  ∃ m c, Accepted options source settings m c
  := by
  cases hm : Model.read source with
  | error fault =>
      rw [execute_of_modelFault hmodel hm] at h
      cases h
  | ok m =>
      have hcheck : options.validate = true → m.check = .ok () := by
        intro hvalidate
        cases hgap : m.check with
        | error gap =>
            rw [execute_of_gap hmodel hm hvalidate hgap] at h
            cases h
        | ok => rfl
      cases hc : configurationOf settings with
      | error fault =>
          cases hpath : options.config with
          | none =>
              obtain rfl : settings = none := by simpa [hpath, eq_comm] using hconfig
              cases hc
          | some path =>
              rw [execute_of_configurationFault hmodel hconfig hm hcheck hpath hc] at h
              cases h
      | ok c => exact ⟨m, c, hm, hcheck, hc⟩

omit hmodel hconfig in
/-- The lines of the trees of a model are as many as the symbols in them. -/
theorem length_symbolLines (d : Dialect) (m : Model) (c : Configuration) :
  ((trees d m c).flatMap Node.symbolLines).length
    = ((trees d m c).flatMap Node.nodes).countP fun n => n.kind = some .symbol
  := by
  rw [List.countP_eq_length_filter, List.filter_flatMap, List.length_flatMap, List.length_flatMap]
  congr 1
  apply List.map_congr_left
  intro n hn
  obtain ⟨declaration, -, rfl⟩ := List.mem_map.mp hn
  have hshape := shape_signature d (c.conventions d) declaration
  rw [Node.symbolLines, List.length_map]
  exact congrArg List.length hshape.symbols_eq_filter

omit hmodel hconfig in
/-- The lines of the trees of a model are unbroken if the strings of the model and of the
configuration are. -/
theorem unbroken_lines (d : Dialect) {m : Model} {c : Configuration}
    (h : ∀ s ∈ m.strings ++ c.strings, Text.Unbroken s) :
  ∀ line ∈ (trees d m c).flatMap Node.symbolLines, Text.Unbroken line
  := by
  obtain ⟨hm, hc⟩ := List.forall_mem_append.mp h
  have hconventions : (c.conventions d).Unbroken := by
    obtain ⟨hkotlin, hjava⟩ := List.forall_mem_append.mp hc
    cases d with
    | kotlin => apply Conventions.unbroken_of_strings hkotlin
    | java => apply Conventions.unbroken_of_strings hjava
  rw [Model.strings, List.forall_mem_flatMap] at hm
  rw [List.forall_mem_flatMap, trees, List.forall_mem_map]
  intro declaration hdeclaration
  apply unbroken_symbolLines hconventions d (hm declaration hdeclaration)

/-- A run on files that can be opened puts out the signatures of a model by a configuration, or
reports the first fault. -/
theorem execute_answers :
  Answers options source settings (execute read options)
  where
  succeeds := by
    constructor
    · rintro ⟨out, hout⟩
      apply exists_accepted hmodel hconfig hout
    · rintro ⟨m, c, h⟩
      exact ⟨_, execute_of_accepted hmodel hconfig h⟩
  unreadable fault h := execute_of_modelFault hmodel h
  uncovered m gap hm hvalidate hgap := execute_of_gap hmodel hm hvalidate hgap
  misconfigured m path fault hm hcheck hpath hfault :=
    execute_of_configurationFault hmodel hconfig hm hcheck hpath hfault
  lines m c h hformat := by
    rw [execute_of_accepted hmodel hconfig h, hformat, ← textOutput_eq]
    rfl
  count m c out h hformat hstrings hout := by
    rw [execute_of_accepted hmodel hconfig h, hformat] at hout
    obtain rfl := Except.ok.inj hout
    rw [Format.show, textOutput_eq, count_lineFeeds (unbroken_lines _ hstrings),
      length_symbolLines]
  array m c h hformat := by
    use Format.json.show (trees options.dialect m c)
    constructor
    · rw [execute_of_accepted hmodel hconfig h, hformat]
    · intro room hroom
      rw [Format.show, String.toList_append]
      apply Json.value_pretty _ (Json.numberFree_list Node.numberFree_toJson _) hroom

end

/-- The text of a model with one class. -/
def pointSource : String :=
  "\x7b\"declarations\": [\x7b\"declaration\": \"classlike\", \"kind\": \"class\", " ++
  "\"id\": \x7b\"class_names\": \"Point\"\x7d, \"name\": null, " ++
  "\"platforms\": [\"js\", \"jvm\"], " ++
  "\"visibility\": \x7b\"js\": \"internal\", \"jvm\": \"public\"\x7d\x7d]\x7d"

/-- The class of that model. -/
def point : Classlike where
  kind := .ordinary
  id := ⟨none, some "Point", none⟩
  name := none
  platforms := OrderedSet.ofList ["js", "jvm"]
  visibility := PlatformMap.ofList [("js", .internalAccess), ("jvm", .publicAccess)]

/-- The text of a configuration by which all visibilities are shown. -/
def pointSettings : String :=
  "[kotlin]\nignored_visibilities = []\n"

/-- The conventions of that configuration. -/
def pointConfiguration : Configuration :=
  { Configuration.default with kotlin := { Conventions.kotlin with ignoredVisibilities := [] } }

/-- The options of a run on two files. -/
def pointOptions : Options where
  model := "model.json"
  config := some "sigdoc.toml"

/-- The two files of that run. -/
def pointFiles (path : String) : Except FileFault String :=
  if path = "model.json" then .ok pointSource
  else if path = "sigdoc.toml" then .ok pointSettings
  else .error .missing

theorem execute_answers_point :
  pointFiles pointOptions.model = .ok pointSource ∧
    pointOptions.config.map pointFiles = (some pointSettings).map .ok ∧
    Accepted pointOptions pointSource (some pointSettings) ⟨[.classlike point]⟩
      pointConfiguration ∧
    execute pointFiles pointOptions = .ok "internal public class Point [js, jvm]\n"
  := by
  have hmodel : pointFiles pointOptions.model = .ok pointSource := rfl
  have hconfig : pointOptions.config.map pointFiles = (some pointSettings).map .ok := rfl
  have haccepted : Accepted pointOptions pointSource (some pointSettings) ⟨[.classlike point]⟩
      pointConfiguration := by
    constructor
    · decide +kernel
    · exact fun _ => rfl
    · decide +kernel
  have hlines := (execute_answers hmodel hconfig).lines _ _ haccepted rfl
  have hout : String.join (((trees .kotlin ⟨[.classlike point]⟩ pointConfiguration).flatMap
      Node.symbolLines).map (· ++ "\n")) = "internal public class Point [js, jvm]\n" := by
    decide +kernel
  exact ⟨hmodel, hconfig, haccepted, hlines.trans (congrArg _ hout)⟩

end CommandLine

end PlatformSignatures
