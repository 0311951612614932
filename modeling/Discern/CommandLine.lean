import Discern.CommandLine.Arguments
import Discern.Configuration.Load
import Discern.Configuration.Record

/-!
# The command line

`CommandLine.run` is the whole program: from the arguments and the file tree to what is
printed and the exit code.  The code is 0 if every input was identified, 1 if not, and 2
if nothing could be tried.
-/

namespace Discern.CommandLine

/-- **What a run prints, and its exit code.** -/
structure Outcome where
  code : UInt32
  stdout : String := ""
  stderr : String := ""
deriving DecidableEq, Inhabited

/-- **Why nothing could be tried.** -/
inductive Failure where
  | load (error : LoadError)
  | engine (error : Error)
deriving DecidableEq, Inhabited

/-- A failure and its causes. -/
def Failure.explained : Failure → String
  | load error => error.explained
  | engine error =>
    ": ".intercalate ("preparing signatures and detectors" :: error.message :: error.causes)

/-! ## Texts -/

def versionText : String := "formatscope 0.1.0\n"

def usageText : String := "\n".intercalate [
  "Usage: formatscope [OPTIONS] <COMMAND>",
  "",
  "Commands:",
  "  identify  Classify files against the signature library",
  "  detect    Detect nested layers, decoding each one that can be unwrapped",
  "  schema    Print the JSON schema of the config file",
  "",
  "Options:",
  "  -c, --config <CONFIG>                Config file (defaults to .formatscope.toml)",
  "      --signatures <SIGNATURES>        Signature library replacing the built-in one",
  "      --modules <MODULES>              Detector module table replacing the built-in one",
  "      --max-recursion <MAX_RECURSION>  Maximum number of decode steps",
  "      --enable <TAG>                   Restrict detection to this format tag (repeatable)",
  "  -f, --format <FORMAT>                Output format: text or json",
  "  -v, --verbose                        Verbose logging on stderr",
  "  -h, --help                           Print help",
  "  -V, --version                        Print version",
  ""]

def Stop.message : Stop → String
  | help => ""
  | version => ""
  | noCommand => "a command is required"
  | unknownCommand name => s!"unrecognized subcommand '{name}'"
  | unexpected argument => s!"unexpected argument '{argument}' found"
  | repeated name => s!"the argument '{name}' cannot be used multiple times"
  | noValue name => s!"a value is required for '{name}' but none was supplied"
  | badValue name value => s!"invalid value '{value}' for '{name}'"
  | noPaths => "the following required arguments were not provided: <PATHS>..."

/-- The text of the schema. -/
def schemaText : String := Json.pretty Configuration.schema ++ "\n"

/-! ## Running -/

/-- The configuration that the options name, or the one in the working directory if there
is one, with a warning if that cannot be used. -/
def loadConfiguration (t : FileTree) (o : Options) :
    Except LoadError (Configuration × Option String) :=
  let implicit : Path := ⟨Configuration.fileName⟩
  match o.config with
  | some path => (Configuration.load t path).map fun c => (c, none)
  | none =>
    if t.isFile implicit then .ok (Configuration.loadOrDefault t (some implicit))
    else .ok (.default, none)

/-- The configuration with what the options set. -/
def Options.applyTo (o : Options) (c : Configuration) : Configuration :=
  { c with
    signatureFile := (o.signatures.map Path.text).or c.signatureFile
    modulesFile := (o.modules.map Path.text).or c.modulesFile
    maxRecursion := o.maxRecursion.getD c.maxRecursion
    enabledFormats := if o.enable.isEmpty then c.enabledFormats else o.enable }

/-- The lines that tell what was loaded before the engine was made or failed. -/
def progress (t : FileTree) (c : Configuration) : List String :=
  match c.validate, c.signatureFile with
  | .ok (), some file =>
    match t.loadLibrary ⟨file⟩ with
    | .ok _ => ["DEBUG loaded signature library"]
    | .error _ => []
  | _, _ => []

/-- A text with a line end. -/
private def line (s : String) : String := s ++ "\n"

/-- What a failure prints. -/
def failed (color : Bool) (log : List String) (f : Failure) : Outcome where
  code := 2
  stderr := String.join ((log ++ [Style.boldRed.paint color "error:" ++ " " ++ f.explained]).map line)

/-- **Make an engine and report with it.**  `report` tells what to print and whether every
input was identified. -/
def runWith (t : FileTree) (color : Bool) (o : Options) (report : Engine → String × Bool) :
    Outcome :=
  match loadConfiguration t o with
  | .error e => failed color [] (.load e)
  | .ok (loaded, warning) =>
    let c := o.applyTo loaded
    let log := (warning.toList.map (" WARN " ++ ·)) ++ if o.verbose then progress t c else []
    match Engine.make t c with
    | .error e => failed color log (.engine e)
    | .ok engine =>
      let (stdout, all) := report engine
      { code := if all then 0 else 1, stdout, stderr := String.join (log.map line) }

/-- Whether some layer was identified. -/
def hasIdentified (layers : List FormatId) : Bool := layers.any (!·.isUnknown)

/-- **Carry out a command.** -/
def perform (t : FileTree) (color : Bool) (command : Command) (o : Options) : Outcome :=
  let format := o.format.getD .text
  match command with
  | .schema => { code := 0, stdout := schemaText }
  | .identify paths => runWith t color o fun engine =>
    let reports := engine.classifyPaths .heedful t paths
    (Report.renderClassifications format color reports,
      reports.all (Report.succeeds Classification.isIdentified))
  | .detect paths => runWith t color o fun engine =>
    let reports := engine.detectPaths .heedful t paths
    (Report.renderDetections format color reports,
      reports.all (Report.succeeds hasIdentified))

/-- **Run the program.** -/
def run (t : FileTree) (color : Bool) (args : List String) : Outcome :=
  match readArguments args with
  | .ok (command, o) => perform t color command o
  | .error .help => { code := 0, stdout := usageText }
  | .error .version => { code := 0, stdout := versionText }
  | .error stop =>
    { code := 2, stderr := s!"error: {stop.message}\n\n{usageText}" }

end Discern.CommandLine
