import Discern.Files.Path
import Discern.Report.Rendering
import Discern.Word

/-!
# Command line arguments

A command is named after options and followed by paths and more options.  Options may
stand on both sides of the command; those behind it count, and the others fill in for
them.  An option is written long (`--config x`, `--config=x`) or short (`-c x`, `-cx`,
`-c=x`), and short ones may share a dash.  After `--` everything is a path.
-/

namespace Discern.CommandLine

/-- **What to do.** -/
inductive Command where
  | identify (paths : List Path)
  | detect (paths : List Path)
  | schema
deriving DecidableEq, Inhabited

/-- **Options of one side of the command.** -/
structure Options where
  config : Option Path := none
  signatures : Option Path := none
  modules : Option Path := none
  maxRecursion : Option UInt64 := none
  enable : List String := []
  format : Option OutputFormat := none
  verbose : Bool := false
deriving DecidableEq, Inhabited

/-- The options behind the command, with those before it where they are missing. -/
def Options.over (inner outer : Options) : Options where
  config := inner.config.or outer.config
  signatures := inner.signatures.or outer.signatures
  modules := inner.modules.or outer.modules
  maxRecursion := inner.maxRecursion.or outer.maxRecursion
  enable := if inner.enable.isEmpty then outer.enable else inner.enable
  format := inner.format.or outer.format
  verbose := inner.verbose || outer.verbose

/-- **Why arguments make no sense,** or what they ask for instead of a command. -/
inductive Stop where
  | help
  | version
  | noCommand
  | unknownCommand (name : String)
  | unexpected (argument : String)
  | repeated (name : String)
  | noValue (name : String)
  | badValue (name value : String)
  | noPaths
deriving DecidableEq, Inhabited

/-- **The options with a value.** -/
inductive Setting where
  | config
  | signatures
  | modules
  | maxRecursion
  | enable
  | format
deriving DecidableEq, Inhabited

/-- What an option is: a setting, or one without a value. -/
inductive Switch where
  | setting (s : Setting)
  | verbose
  | help
  | version
deriving DecidableEq, Inhabited

def Setting.name : Setting → String
  | config => "--config"
  | signatures => "--signatures"
  | modules => "--modules"
  | maxRecursion => "--max-recursion"
  | enable => "--enable"
  | format => "--format"

/-- The option of a long name.  Only before the command the version can be asked for. -/
def long? (top : Bool) : String → Option Switch
  | "config" => some (.setting .config)
  | "signatures" => some (.setting .signatures)
  | "modules" => some (.setting .modules)
  | "max-recursion" => some (.setting .maxRecursion)
  | "enable" => some (.setting .enable)
  | "format" => some (.setting .format)
  | "verbose" => some .verbose
  | "help" => some .help
  | "version" => if top then some .version else none
  | _ => none

/-- The option of a letter. -/
def short? (top : Bool) : Char → Option Switch
  | 'c' => some (.setting .config)
  | 'f' => some (.setting .format)
  | 'v' => some .verbose
  | 'h' => some .help
  | 'V' => if top then some .version else none
  | _ => none

/-- Read a value. -/
private def reads {α : Type} (setting : Setting) (value : String) (a : Option α) :
    Except Stop α :=
  match a with
  | some a => .ok a
  | none => .error (.badValue setting.name value)

/-- A path may not be empty. -/
def path? (text : String) : Option Path := if text.isEmpty then none else some ⟨text⟩

def outputFormat? : String → Option OutputFormat
  | "text" => some .text
  | "json" => some .json
  | _ => none

/-- Whether a setting that is given once at most was given. -/
def Options.has (o : Options) : Setting → Bool
  | .config => o.config.isSome
  | .signatures => o.signatures.isSome
  | .modules => o.modules.isSome
  | .maxRecursion => o.maxRecursion.isSome
  | .enable => false
  | .format => o.format.isSome

/-- **Give a value to a setting.** -/
def Options.set (o : Options) (setting : Setting) (value : String) : Except Stop Options :=
  if o.has setting then .error (.repeated setting.name)
  else
    match setting with
    | .config => do return { o with config := some (← reads setting value (path? value)) }
    | .signatures => do return { o with signatures := some (← reads setting value (path? value)) }
    | .modules => do return { o with modules := some (← reads setting value (path? value)) }
    | .maxRecursion => do
      return { o with maxRecursion := some (← reads setting value (Word.read64? value.toList)) }
    | .enable => .ok { o with enable := o.enable ++ [value] }
    | .format => do
      return { o with format := some (← reads setting value (outputFormat? value)) }

/-- Turn on an option without a value. -/
def Options.turnOn (o : Options) : Switch → Except Stop Options
  | .verbose => if o.verbose then .error (.repeated "--verbose") else .ok { o with verbose := true }
  | .help => .error .help
  | .version => .error .version
  | .setting s => .error (.noValue s.name)

/-- Whether an argument can be the value of the option before it. -/
def isValue (argument : String) : Bool :=
  match argument.toList with
  | '-' :: _ :: _ => false
  | _ => true

/-- Give the next argument to a setting.  The flag says that it was used up. -/
def Options.setNext (o : Options) (setting : Setting) (next : Option String) :
    Except Stop (Options × Bool) :=
  match next.filter isValue with
  | some value => return (← o.set setting value, true)
  | none => .error (.noValue setting.name)

/-- Read a long option, without its dashes. -/
def Options.readLong (o : Options) (top : Bool) (cs : List Char) (next : Option String) :
    Except Stop (Options × Bool) :=
  let name := String.ofList (cs.takeWhile (· != '='))
  match long? top name, cs.dropWhile (· != '=') with
  | none, _ => .error (.unexpected ("--" ++ name))
  | some (.setting s), '=' :: value => return (← o.set s (String.ofList value), false)
  | some (.setting s), _ => o.setNext s next
  | some _, '=' :: value => .error (.badValue ("--" ++ name) (String.ofList value))
  | some switch, _ => return (← o.turnOn switch, false)

/-- Read short options that share a dash. -/
def Options.readShort (o : Options) (top : Bool) (next : Option String) :
    List Char → Except Stop (Options × Bool)
  | [] => .ok (o, false)
  | c :: rest =>
    match short? top c, rest with
    | none, _ => .error (.unexpected (String.ofList ['-', c]))
    | some (.setting s), [] => o.setNext s next
    | some (.setting s), '=' :: value => return (← o.set s (String.ofList value), false)
    | some (.setting s), value => return (← o.set s (String.ofList value), false)
    | some switch, _ => do (← o.turnOn switch).readShort top next rest

/-- **Read an option,** if the argument is one. -/
def Options.readOption? (o : Options) (top : Bool) (argument : String) (next : Option String) :
    Option (Except Stop (Options × Bool)) :=
  match argument.toList with
  | '-' :: '-' :: cs => some (o.readLong top cs next)
  | '-' :: c :: cs => some (o.readShort top next (c :: cs))
  | _ => none

/-- Read a path. -/
def readPath (argument : String) : Except Stop Path :=
  match path? argument with
  | some path => .ok path
  | none => .error (.badValue "<PATHS>..." "")

/-- What stands behind a command: options and, if it takes them, paths. -/
def readBehind (takesPaths : Bool) (o : Options) (paths : List Path) :
    List String → Except Stop (Options × List Path)
  | [] => .ok (o, paths)
  | "--" :: rest =>
    match takesPaths, rest with
    | false, first :: _ => .error (.unexpected first)
    | _, _ => do return (o, paths ++ (← rest.mapM readPath))
  | argument :: rest =>
    match o.readOption? false argument rest.head? with
    | some (.error stop) => .error stop
    | some (.ok (o, false)) => readBehind takesPaths o paths rest
    | some (.ok (o, true)) => readBehind takesPaths o paths rest.tail
    | none =>
      if takesPaths then do readBehind takesPaths o (paths ++ [← readPath argument]) rest
      else .error (.unexpected argument)
termination_by args => args.length
decreasing_by
  all_goals simp only [List.length_cons, List.length_tail]
  all_goals omega

/-- A command with paths. -/
def pathCommand (make : List Path → Command) (outer : Options) (args : List String) :
    Except Stop (Command × Options) := do
  let (inner, paths) ← readBehind true {} [] args
  if paths.isEmpty then throw .noPaths else return (make paths, inner.over outer)

/-- What `help` asks for: all, or one command, which has no commands of its own. -/
def readHelp : List String → Stop
  | [] => .help
  | name :: rest =>
    if ["identify", "detect", "schema", "help"].contains name then
      match rest with
      | [] => .help
      | inner :: _ => .unknownCommand inner
    else .unknownCommand name

/-- What stands before a command, and the command. -/
def readFront (o : Options) : List String → Except Stop (Command × Options)
  | [] => .error .noCommand
  | "--" :: rest =>
    .error (match rest with
      | [] => .noCommand
      | first :: _ => .unexpected first)
  | argument :: rest =>
    match o.readOption? true argument rest.head? with
    | some (.error stop) => .error stop
    | some (.ok (o, false)) => readFront o rest
    | some (.ok (o, true)) => readFront o rest.tail
    | none =>
      match argument with
      | "identify" => pathCommand .identify o rest
      | "detect" => pathCommand .detect o rest
      | "schema" => do
        let (inner, _) ← readBehind false {} [] rest
        return (.schema, inner.over o)
      | "help" => .error (readHelp rest)
      | _ => .error (.unknownCommand argument)
termination_by args => args.length
decreasing_by
  all_goals simp only [List.length_cons, List.length_tail]
  all_goals omega

/-- **Read the arguments.** -/
def readArguments (args : List String) : Except Stop (Command × Options) := readFront {} args

end Discern.CommandLine
