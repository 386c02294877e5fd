import Courier.Config.Basic

/-! The arguments of the command. Each option may be given once; the first fault ends the reading,
and so do the wishes for help and for the version. -/
namespace Courier.Command

structure Options where
  config : Option String := none
  workers : Option Nat := none
  retries : Option Nat := none
  /-- Directory that relative paths of orders are below. -/
  root : Option String := none
  log : Option String := none
  verbose : Bool := false
  deriving DecidableEq, Repr

/-- What the arguments ask for. -/
inductive Invocation where
  | run (options : Options)
  | help
  | version
  | misuse
  deriving DecidableEq, Repr

inductive Flag where
  | config
  | workers
  | retry
  | root
  | log
  | verbose
  | help
  | version
  deriving DecidableEq, Repr

namespace Flag

def all : List Flag := [config, workers, retry, root, log, verbose, help, version]

def longName : Flag → String
  | config => "config"
  | workers => "workers"
  | retry => "retry"
  | root => "root"
  | log => "log"
  | verbose => "verbose"
  | help => "help"
  | version => "version"

def letter? : Flag → Option Char
  | config => some 'c'
  | workers => some 'w'
  | retry => some 'r'
  | verbose => some 'v'
  | help => some 'h'
  | version => some 'V'
  | root | log => none

def ofName? (name : String) : Option Flag :=
  all.find? (·.longName == name)

def ofLetter? (letter : Char) : Option Flag :=
  all.find? (·.letter? == some letter)

def takesValue : Flag → Bool
  | config | workers | retry | root | log => true
  | verbose | help | version => false

end Flag

/-- Digits alone, at least one. -/
def digits? (cs : List Char) : Option Nat :=
  if cs.isEmpty || cs.any (!·.isDigit) then none
  else some (cs.foldl (fun n c => 10 * n + (c.toNat - 48)) 0)

/-- A count that 64 bits hold, perhaps with a plus sign. -/
def count? (text : String) : Option Nat := do
  let n ← digits? (if text.startsWith "+" then text.toList.drop 1 else text.toList)
  if n < 0x10000000000000000 then some n else none

/-- A signed number of 64 bits whose value 32 bits without a sign hold. -/
def shortCount? (text : String) : Option Nat := do
  if text.startsWith "-" then
    let n ← digits? (text.toList.drop 1)
    if n = 0 then some 0 else none
  else
    let n ← count? text
    if n < 0x100000000 then some n else none

def path? (text : String) : Option String :=
  if text.isEmpty then none else some text

namespace Options

def set? (options : Options) (flag : Flag) (value : String) : Option Options :=
  match flag with
  | .config => (path? value).map fun path => { options with config := some path }
  | .workers => (count? value).map fun n => { options with workers := some n }
  | .retry => (shortCount? value).map fun n => { options with retries := some n }
  | .root => (path? value).map fun path => { options with root := some path }
  | .log => (path? value).map fun path => { options with log := some path }
  | .verbose => some { options with verbose := true }
  | .help | .version => some options

end Options

structure Given where
  options : Options
  seen : List Flag

/-- Gives an option its value, once. -/
def Given.take (given : Given) (flag : Flag) (value : String) : Except Invocation Given :=
  if given.seen.contains flag then .error .misuse
  else match flag, given.options.set? flag value with
    | .help, _ => .error .help
    | .version, _ => .error .version
    | _, some options => .ok ⟨options, flag :: given.seen⟩
    | _, none => .error .misuse

/-- What letters in one argument come to: all of them flags, or the last one an option that still
waits for its value. -/
def letters (given : Given) : List Char → Except Invocation (Given × Option Flag)
  | [] => .ok (given, none)
  | letter :: rest =>
    match Flag.ofLetter? letter with
    | none => .error .misuse
    | some flag =>
      if flag.takesValue then
        match rest with
        | [] => .ok (given, some flag)
        | '=' :: value => (given.take flag (String.ofList value)).map (·, none)
        | value => (given.take flag (String.ofList value)).map (·, none)
      else do letters (← given.take flag "") rest

/-- What an argument that begins with two hyphens comes to, given what follows them. -/
def longOption (given : Given) (body : List Char) : Except Invocation (Given × Option Flag) :=
  let name := body.takeWhile (· != '=')
  match Flag.ofName? (String.ofList name), body.drop name.length with
  | none, _ => .error .misuse
  | some flag, [] =>
    if flag.takesValue then .ok (given, some flag) else (given.take flag "").map (·, none)
  | some flag, _ :: value =>
    if flag.takesValue then (given.take flag (String.ofList value)).map (·, none)
    else .error .misuse

/-- Whether an argument is no value, but an option or the mark that none follow. -/
def looksLikeOption (arg : String) : Bool :=
  arg.startsWith "-" && arg != "-"

/-- Reads arguments one after another; `waiting` is the option whose value comes next. -/
def readArguments (given : Given) (waiting : Option Flag) : List String → Except Invocation Given
  | [] => if waiting.isSome then .error .misuse else .ok given
  | arg :: rest => do
    match waiting with
    | some flag =>
      if looksLikeOption arg then .error .misuse
      else readArguments (← given.take flag arg) none rest
    | none =>
      if arg == "--" then if rest.isEmpty then .ok given else .error .misuse
      else if arg.startsWith "--" then
        let (given, waiting) ← longOption given (arg.toList.drop 2)
        readArguments given waiting rest
      else if looksLikeOption arg then
        let (given, waiting) ← letters given (arg.toList.drop 1)
        readArguments given waiting rest
      else .error .misuse

/-- What the arguments of the command ask for. -/
def invocation (args : List String) : Invocation :=
  match readArguments ⟨{}, []⟩ none args with
  | .ok given => .run given.options
  | .error other => other

/-- A configuration with what the options put in its place. -/
def Options.apply (options : Options) (config : Config) : Config :=
  { config with
    workers := options.workers.getD config.workers
    retries := options.retries.getD config.retries
    logFile := options.log <|> config.logFile
    verbose := config.verbose || options.verbose }

def versionText : String := "courier 0.1.0"

def helpText : String :=
  "\n".intercalate ["Queue chat file transfers into configured storages", "",
    "Usage: courier [OPTIONS]", "", "Options:",
    "  -c, --config <FILE>      Configuration file (TOML)",
    "  -w, --workers <WORKERS>  Number of worker slots",
    "  -r, --retry <RETRY>      Extra save attempts after a failure",
    "      --root <DIR>         Resolve relative request paths against this directory",
    "      --log <FILE>         Write logs as JSON to this file",
    "  -v, --verbose            Verbose output",
    "  -h, --help               Print help",
    "  -V, --version            Print version"]

end Courier.Command
