import PlatformSignatures.CommandLine.Arguments
import PlatformSignatures.Document.Configuration
import PlatformSignatures.Document.Model
import PlatformSignatures.Document.Node
import PlatformSignatures.Json.Printer
import PlatformSignatures.Signature

/-!
# The command line

A run reads a model, checks it, reads a configuration and puts out the signature of every
declaration, as lines or as content trees.  The first thing that fails is reported with its cause.
How the text at a path is found is a parameter of a run.
-/

namespace PlatformSignatures

namespace CommandLine

/-- Why a file cannot be read. -/
inductive FileFault where
  | missing
  /-- The path is that of a folder. -/
  | folder
  /-- The path goes on after a file. -/
  | notFolder
  /-- The path or a name in it is too long. -/
  | tooLong
  | other (report : String)
  deriving DecidableEq

/-- The report of a fault. -/
def FileFault.message : FileFault → String
  | missing => "No such file or directory (os error 2)"
  | folder => "Is a directory (os error 21)"
  | notFolder => "Not a directory (os error 20)"
  | tooLong => "File name too long (os error 36)"
  | other report => report

/-- What comes of a command line. -/
inductive Outcome where
  | output (text : String)
  /-- The arguments are wrong. -/
  | usage
  /-- Something failed, with the lines of the report. -/
  | failure (report : List String)
  deriving DecidableEq

/-- The exit code of an outcome. -/
def Outcome.exitCode : Outcome → Nat
  | output _ => 0
  | usage => 2
  | failure _ => 1

/-- What is put out when the version is asked for. -/
def versionText : String := "sigdoc 0.3.0\n"

/-! ### Reports -/

/-- The lines of a text that are not blank, without the space around them. -/
def reportLines (text : String) : List String :=
  ((text.splitOn "\n").map Text.strip).filter (· ≠ "")

/-- The report of something that failed at a path, and of its cause. -/
def report (what path cause : String) : List String :=
  reportLines ("Error: " ++ what ++ " '" ++ path ++ "'") ++ ["Caused by:"] ++ reportLines cause

/-! ### The steps of a run -/

/-- Reads the model. -/
def loadModel (read : String → Except FileFault String) (path : String) :
    Except (List String) Model :=
  match read path with
  | .error fault => .error (report "Failed to read model" path fault.message)
  | .ok text =>
    match Model.read text with
    | .error _ => .error (report "Failed to load model" path "failed to parse model")
    | .ok m => .ok m

/-- Checks the model, if that is asked for. -/
def checkModel (options : Options) (m : Model) : Except (List String) Unit :=
  if options.validate then
    match m.check with
    | .error gap => .error (report "Invalid model" options.model gap.message)
    | .ok () => .ok ()
  else .ok ()

/-- Reads the configuration; without a path it is the customary one. -/
def loadConfiguration (read : String → Except FileFault String) :
    Option String → Except (List String) Configuration
  | none => .ok Configuration.default
  | some path =>
    match read path with
    | .error fault => .error (report "Failed to read config" path fault.message)
    | .ok text =>
      match Configuration.read text with
      | .error .document =>
        .error (report "Failed to load config" path "failed to parse configuration")
      | .error (.brackets text) =>
        .error (report "Failed to load config" path (Configuration.bracketsMessage text))
      | .ok c => .ok c

/-- A text with a line for one more signature. -/
def addSignature (out : String) (symbol : Node) : String :=
  out ++ (Text.plainSpaces symbol.plainText ++ " [" ++
    ", ".intercalate symbol.platforms.elements ++ "]\n")

/-- The signatures in content trees, one line for each. -/
def textOutput (nodes : List Node) : String :=
  nodes.foldl (fun out node => node.symbols.foldl addSignature out) ""

/-- Content trees in a format. -/
def Format.show : Format → List Node → String
  | text, nodes => textOutput nodes
  | json, nodes => Json.pretty 0 (.list Node.toJson nodes) ++ "\n"

/-- What is put out for given options. -/
def execute (read : String → Except FileFault String) (options : Options) :
    Except (List String) String := do
  let m ← loadModel read options.model
  checkModel options m
  let c ← loadConfiguration read options.config
  return options.format.show (m.declarations.map (c.node options.dialect))

/-- What comes of a command line, where files are read by the given function. -/
def run (read : String → Except FileFault String) (arguments : List String) : Outcome :=
  match parse arguments with
  | none => .usage
  | some .version => .output versionText
  | some (.run options) =>
    match execute read options with
    | .ok text => .output text
    | .error report => .failure report

end CommandLine

end PlatformSignatures
