import LinkBus.Config.Reader
import LinkBus.Config.Writer

/-!
# The command line

Arguments are read from left to right into a command. The first request for help or for the version
decides, unless a misuse stands before it. Each flag and each option may be given once; an option
takes its value from the rest of its argument or from the next one, which must not look like an
option itself.
-/

namespace LinkBus.CommandLine

/-- Flags, which take no value. -/
inductive Flag
  | verbose
  | session
  | printConfig
  | dumpState
  | help
  | version
  deriving DecidableEq, Repr

/-- Options, which take a value. -/
inductive ValueOption
  | config
  | logLevel
  deriving DecidableEq, Repr

/-- What a name on the command line stands for. -/
inductive Name
  | flag (f : Flag)
  | option (o : ValueOption)
  deriving DecidableEq, Repr

/-- The meaning of a long name. Names are not abbreviated. -/
def longName? (name : String) : Option Name :=
  match name with
  | "config" => some (.option .config)
  | "log-level" => some (.option .logLevel)
  | "verbose" => some (.flag .verbose)
  | "session" => some (.flag .session)
  | "print-config" => some (.flag .printConfig)
  | "dump-state" => some (.flag .dumpState)
  | "help" => some (.flag .help)
  | "version" => some (.flag .version)
  | _ => none

/-- The meaning of a short name. -/
def shortName? (name : Char) : Option Name :=
  match name with
  | 'c' => some (.option .config)
  | 'v' => some (.flag .verbose)
  | 'h' => some (.flag .help)
  | 'V' => some (.flag .version)
  | _ => none

/-- What has been given so far. -/
structure Given where
  config : Option String := none
  logLevel : Option String := none
  flags : List Flag := []
  deriving DecidableEq, Repr

/-- Where the settings are, if the command line does not say. -/
def defaultConfig : String := "/etc/nmshim/nmshim.toml"

namespace Given

/-- The file of the settings. -/
def configPath (given : Given) : String := given.config.getD defaultConfig

/-- The level of the log. -/
def level (given : Given) : String :=
  if given.flags.contains .verbose then "debug" else given.logLevel.getD "info"

/-- Takes the value of an option, unless the option was given before. A path is not empty. -/
def take? (given : Given) : ValueOption → String → Option Given
  | .config, value =>
    if given.config.isSome ∨ value = "" then none else some { given with config := some value }
  | .logLevel, value =>
    if given.logLevel.isSome then none else some { given with logLevel := some value }

end Given

/-- What a command line asks for. -/
inductive Command
  | run (given : Given)
  | help
  | version
  | misuse
  deriving DecidableEq, Repr

/-- Where reading stands after an argument: it goes on, it needs a value first, or it ends. -/
inductive Progress
  | next (given : Given)
  | value (given : Given) (option : ValueOption)
  | stop (command : Command)

/-- Takes a flag. -/
def takeFlag (given : Given) (flag : Flag) : Progress :=
  match flag with
  | .help => .stop .help
  | .version => .stop .version
  | _ =>
    if given.flags.contains flag then .stop .misuse
    else .next { given with flags := flag :: given.flags }

/-- Takes an option with its value. -/
def takeValue (given : Given) (option : ValueOption) (value : String) : Progress :=
  match given.take? option value with
  | some given => .next given
  | none => .stop .misuse

/-- Reads an argument with a long name, given without its dashes. -/
def readLong (given : Given) (argument : List Char) : Progress :=
  let name := argument.takeWhile (· ≠ '=')
  match longName? (String.ofList name), argument.drop name.length with
  | some (.flag flag), [] => takeFlag given flag
  | some (.option option), [] => .value given option
  | some (.option option), _ :: value => takeValue given option (String.ofList value)
  | _, _ => .stop .misuse

/-- Reads an argument of short names, given without its dash. An option takes all that follows it,
less an equals sign. -/
def readShort (given : Given) : List Char → Progress
  | [] => .next given
  | c :: rest =>
    match shortName? c with
    | none => .stop .misuse
    | some (.flag flag) =>
      match takeFlag given flag with
      | .next given => readShort given rest
      | progress => progress
    | some (.option option) =>
      match rest with
      | [] => .value given option
      | '=' :: value => takeValue given option (String.ofList value)
      | value => takeValue given option (String.ofList value)

/-- Reads one argument. -/
def readArgument (given : Given) (argument : String) : Progress :=
  match argument.toList with
  | '-' :: '-' :: name => readLong given name
  | '-' :: c :: names => readShort given (c :: names)
  | _ => .stop .misuse

/-- Whether an argument may be the value of the option before it. -/
def isValue (argument : String) : Bool :=
  match argument.toList with
  | '-' :: _ :: _ => false
  | _ => true

/-- Reads the arguments. Nothing may follow a lone pair of dashes. -/
def read (given : Given) : List String → Command
  | [] => .run given
  | ["--"] => .run given
  | argument :: rest =>
    match readArgument given argument with
    | .stop command => command
    | .next given => read given rest
    | .value given option =>
      match rest with
      | [] => .misuse
      | value :: rest =>
        if isValue value then
          match given.take? option value with
          | some given => read given rest
          | none => .misuse
        else .misuse

/-- The command that the arguments of the program ask for. -/
def parse (arguments : List String) : Command := read {} arguments

/-- The help text. -/
def usage : String :=
  "Expose kernel network state through the NetworkManager D-Bus API

Usage: nmshimd [OPTIONS]

Options:
  -c, --config <CONFIG>        Configuration file [default: /etc/nmshim/nmshim.toml]
  -v, --verbose                Enable verbose logging
      --log-level <LOG_LEVEL>  Log level (trace, debug, info, warn, error) [default: info]
      --session                Use the session bus instead of the system bus
      --print-config           Print the effective configuration as TOML and exit
      --dump-state             Dump the synthesized device view as JSON and exit
  -h, --help                   Print help
  -V, --version                Print version
"

/-- The version text. -/
def versionText : String := "nmshimd 0.1.0\n"

/-- What the program is to do. -/
inductive Action
  | print (text : String)
  | misuse
  | refuse (fault : ConfigFault)
  | dumpState (config : Config)
  | serve (config : Config)

namespace Given

/-- The settings that hold, given what is found at their path. -/
def settings (given : Given) (found : FileContent) : Except ConfigFault Config := do
  let config ← Config.loadOrDefault found
  let config :=
    if given.flags.contains .session then { config with bus.session := true } else config
  match config.check with
  | .error fault => .error (.refused fault)
  | .ok _ => .ok config

/-- What to do under the settings that hold. Printing the settings goes before dumping the state. -/
def action (given : Given) (found : FileContent) : Action :=
  match given.settings found with
  | .error fault => .refuse fault
  | .ok config =>
    if given.flags.contains .printConfig then .print config.render
    else if given.flags.contains .dumpState then .dumpState config
    else .serve config

end Given

/-- What a command does, given what is found at a path. -/
def Command.action (command : Command) (find : String → FileContent) : Action :=
  match command with
  | help => .print usage
  | version => .print versionText
  | misuse => .misuse
  | run given => given.action (find given.configPath)

end LinkBus.CommandLine
