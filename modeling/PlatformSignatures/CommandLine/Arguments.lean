import PlatformSignatures.Conventions

/-!
# Arguments of the command line

Arguments are looked at from left to right, and the first one that is wrong makes the whole line
wrong.  A line that asks for the version before that is answered with the version.  Options may
stand before and after the path, and after two dashes there are only paths.
-/

namespace PlatformSignatures

namespace CommandLine

/-- How signatures are put out. -/
inductive Format where
  /-- One line for each signature. -/
  | text
  /-- The content trees. -/
  | json
  deriving DecidableEq

instance : Enumerated Format where
  values := [.text, .json]
  name
    | .text => "text"
    | .json => "json"

/-- What a run is asked to do. -/
structure Options where
  /-- The path of the model. -/
  model : String
  dialect : Dialect := .kotlin
  /-- The path of the configuration. -/
  config : Option String := none
  format : Format := .text
  /-- Whether the coverage of the model is checked. -/
  validate : Bool := true
  deriving DecidableEq

/-- What a command line asks for. -/
inductive Request where
  | run (options : Options)
  | version
  deriving DecidableEq

/-! ### Single arguments -/

/-- The options that take a value. -/
inductive ValueOption where
  | dialect
  | config
  | format
  deriving DecidableEq

/-- What a single argument is. -/
inductive Argument where
  | path (text : String)
  | option (option : ValueOption) (value : Option String)
  | noValidate
  /-- An option that has no effect on what is put out. -/
  | verbose
  | version
  /-- Two dashes. -/
  | terminator
  | unknown

/-- A word with the value after its first equals sign, if there is one. -/
def splitValue (cs : List Char) : String × Option String :=
  match cs.span (· ≠ '=') with
  | (name, '=' :: value) => (String.ofList name, some (String.ofList value))
  | (name, _) => (String.ofList name, none)

/-- The argument that two dashes and a word are. -/
def longArgument (cs : List Char) : Argument :=
  match splitValue cs with
  | ("dialect", value) => .option .dialect value
  | ("config", value) => .option .config value
  | ("format", value) => .option .format value
  | ("no-validate", none) => .noValidate
  | ("verbose", none) => .verbose
  | ("version", none) => .version
  | _ => .unknown

/-- The argument that a dash and some letters are. -/
def shortArgument : List Char → Argument
  | ['v'] => .verbose
  | 'v' :: cs => shortArgument cs
  | 'V' :: _ => .version
  | _ => .unknown

/-- What a single argument is. -/
def Argument.ofString (s : String) : Argument :=
  match s.toList with
  | ['-'] => .path s
  | ['-', '-'] => .terminator
  | '-' :: '-' :: cs => longArgument cs
  | '-' :: cs => shortArgument cs
  | _ => .path s

/-- Whether an argument may be the value of the option before it. -/
def isValue (s : String) : Bool :=
  match s.toList with
  | '-' :: _ :: _ => false
  | _ => true

/-! ### All arguments -/

/-- What has been given so far. -/
structure Given where
  model : Option String := none
  dialect : Option Dialect := none
  config : Option String := none
  format : Option Format := none
  noValidate : Bool := false

namespace Given

/-- Adds the path of the model; there is only one, and it is not empty. -/
def withPath (g : Given) (path : String) : Option Given :=
  if g.model.isSome ∨ path = "" then none else some { g with model := some path }

/-- Adds the value of an option, which may not be given twice. -/
def withOption (g : Given) (value : String) : ValueOption → Option Given
  | .dialect => do
    let dialect ← Enumerated.ofName? value
    if g.dialect.isSome then none else some { g with dialect := some dialect }
  | .config => if g.config.isSome ∨ value = "" then none else some { g with config := some value }
  | .format => do
    let format ← Enumerated.ofName? value
    if g.format.isSome then none else some { g with format := some format }

/-- Adds that the model is not to be checked, which may not be said twice. -/
def withNoValidate (g : Given) : Option Given :=
  if g.noValidate then none else some { g with noValidate := true }

/-- What is asked for when all arguments have been looked at. -/
def finish (g : Given) : Option Request := do
  return .run {
    model := ← g.model
    dialect := g.dialect.getD .kotlin
    config := g.config
    format := g.format.getD .text
    validate := !g.noValidate }

end Given

/-- What is asked for by what has been given and the arguments that are left. -/
def parseFrom (g : Given) : List String → Option Request
  | [] => g.finish
  | s :: rest =>
    match Argument.ofString s with
    | .path path => do parseFrom (← g.withPath path) rest
    | .option o (some value) => do parseFrom (← g.withOption value o) rest
    | .option o none =>
      match rest with
      | [] => none
      | value :: rest =>
        if isValue value then do parseFrom (← g.withOption value o) rest else none
    | .noValidate => do parseFrom (← g.withNoValidate) rest
    | .verbose => parseFrom g rest
    | .version => some .version
    | .terminator => do (← rest.foldlM Given.withPath g).finish
    | .unknown => none

/-- What a command line asks for, unless it is wrong. -/
def parse (arguments : List String) : Option Request :=
  parseFrom {} arguments

end CommandLine

end PlatformSignatures
