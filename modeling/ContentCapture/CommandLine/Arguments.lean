namespace ContentCapture
namespace CommandLine

/-!
# Command lines

A command line names a command, which may be a command of a command, and gives
options.  Three options are global: they may be written at every level, that is
before a command as well as behind it, and the innermost level at which one is
written decides.  At one level an option with a value may be written once only,
whereas the option for more output counts how often it is written.

The value of an option is attached to it, behind an equals sign or, with the
short form, directly, or it is the next argument.  In the latter case it is
examined only when the next option comes, or at the end.  An argument that could
be an option is never taken for such a value.

The levels are worked off from the outside to the inside, and what is wrong at
an inner level is found before what is missing at an outer one.
-/

/-- Why a command line is not carried out. -/
inductive UsageError where
  | invalidCommand
  | unknownArgument
  | missingCommand
  | missingArgument
  | invalidValue
  | tooManyValues
  | argumentConflict
  /-- Help is asked for. -/
  | help
  /-- Help is given because nothing at all was written. -/
  | helpOnNothing
  /-- The version is asked for. -/
  | version
  deriving DecidableEq, Repr

/-- What a command line asks for. -/
inductive Command where
  /-- To run a session through its cycle and report on it. -/
  | simulate (disable stop : Bool) (activity : String)
  /-- To print whether the feature is on. -/
  | featureGet
  /-- To turn the feature on or off. -/
  | featureSet (enabled : Bool)
  /-- To print the component of the service. -/
  | service
  deriving DecidableEq, Repr

/-- A command with the options that are common to all. -/
structure Invocation where
  verbosity : Nat
  configuration : Option String
  packageName : String
  command : Command
  deriving DecidableEq, Repr

/-- The package that a client acts for unless it is told otherwise. -/
def standardPackage : String := "com.example.notes"

/-- The activity that is started unless another is named. -/
def standardActivity : String := ".MainActivity"

/-! ## Levels and options -/

/-- Where in a command line an argument stands: before any command, or behind
the command that was named last. -/
inductive Level where
  | top
  | simulate
  | feature
  | featureGet
  | featureSet
  | service
  deriving DecidableEq, Repr

/-- The options. -/
inductive Flag where
  | verbose
  | configuration
  | packageName
  | disable
  | stop
  | activity
  | help
  | version
  deriving DecidableEq, Repr

namespace Flag

def all : List Flag :=
  [.verbose, .configuration, .packageName, .disable, .stop, .activity, .help, .version]

/-- The long form of an option, without the dashes. -/
def long : Flag → String
  | .verbose => "verbose"
  | .configuration => "config"
  | .packageName => "package"
  | .disable => "disable"
  | .stop => "stop"
  | .activity => "activity"
  | .help => "help"
  | .version => "version"

/-- The short form of an option, if it has one. -/
def short? : Flag → Option Char
  | .verbose => some 'v'
  | .configuration => some 'c'
  | .packageName => some 'p'
  | .disable => none
  | .stop => none
  | .activity => none
  | .help => some 'h'
  | .version => some 'V'

def hasValue : Flag → Bool
  | .configuration => true
  | .packageName => true
  | .activity => true
  | _ => false

end Flag

namespace Level

/-- The commands that may be named at a level. -/
def commands : Level → List (String × Level)
  | .top => [("simulate", .simulate), ("feature", .feature), ("service", .service)]
  | .feature => [("get", .featureGet), ("set", .featureSet)]
  | _ => []

def hasCommands (level : Level) : Bool :=
  !level.commands.isEmpty

/-- Whether an argument is the name of a command at a level.  Where there are
commands, there is one for help. -/
def names (level : Level) (argument : String) : Bool :=
  level.hasCommands && (argument == "help" || (level.commands.lookup argument).isSome)

def accepts (level : Level) : Flag → Bool
  | .verbose => true
  | .configuration => true
  | .packageName => true
  | .help => true
  | .disable => level == .simulate
  | .stop => level == .simulate
  | .activity => level == .simulate
  | .version => level == .top

def long? (level : Level) (name : String) : Option Flag :=
  Flag.all.find? fun flag => level.accepts flag && flag.long == name

def short? (level : Level) (c : Char) : Option Flag :=
  Flag.all.find? fun flag => level.accepts flag && flag.short? == some c

end Level

/-! ## What is given at one level -/

/-- What the arguments of one level give. -/
structure Given where
  verbosity : Nat := 0
  configuration : Option String := none
  packageName : Option String := none
  disable : Bool := false
  stop : Bool := false
  activity : Option String := none
  enabled : Option Bool := none
  deriving DecidableEq, Repr

namespace Given

def isNothing (given : Given) : Bool :=
  given == {}

/-- One more occurrence of an option without a value. -/
def raise (given : Given) : Flag → Except UsageError Given
  | .verbose => .ok { given with verbosity := min (given.verbosity + 1) 255 }
  | .disable =>
      if given.disable then .error .argumentConflict
      else .ok { given with disable := true }
  | .stop =>
      if given.stop then .error .argumentConflict
      else .ok { given with stop := true }
  | .help => .error .help
  | .version => .error .version
  | _ => .error .invalidValue

/-- One more occurrence of an option with a value.  The name of a file is not
empty. -/
def store (given : Given) (flag : Flag) (value : String) : Except UsageError Given :=
  match flag with
  | .configuration =>
      if given.configuration.isSome then .error .argumentConflict
      else if value.isEmpty then .error .invalidValue
      else .ok { given with configuration := some value }
  | .packageName =>
      if given.packageName.isSome then .error .argumentConflict
      else .ok { given with packageName := some value }
  | .activity =>
      if given.activity.isSome then .error .argumentConflict
      else .ok { given with activity := some value }
  | _ => .error .tooManyValues

/-- The argument that says whether the feature is to be on. -/
def storeEnabled (given : Given) (value : String) : Except UsageError Given :=
  if value = "true" then .ok { given with enabled := some true }
  else if value = "false" then .ok { given with enabled := some false }
  else .error .invalidValue

/-- What is given at a level and an inner one, where the inner one decides. -/
def around (outer inner : Given) : Given :=
  { inner with
    verbosity := if inner.verbosity = 0 then outer.verbosity else inner.verbosity
    configuration := inner.configuration <|> outer.configuration
    packageName := inner.packageName <|> outer.packageName }

end Given

/-! ## Working arguments off -/

/-- What was written last, if it is not examined yet. -/
inductive Pending where
  | nothing
  /-- An option whose value is still to come. -/
  | flag (flag : Flag)
  /-- An option and its value. -/
  | value (flag : Flag) (value : String)
  /-- An argument that belongs to no option. -/
  | operand (value : String)
  deriving DecidableEq, Repr

/-- How far the arguments of a level are worked off. -/
structure Scan where
  given : Given := {}
  pending : Pending := .nothing
  /-- Whether a double dash has ended the options. -/
  ended : Bool := false
  /-- Whether an argument that belongs to no option was written. -/
  operandSeen : Bool := false
  deriving DecidableEq, Repr

namespace Scan

/-- Whether an option waits for the next argument as its value. -/
def isWaiting (scan : Scan) : Bool :=
  match scan.pending with
  | .flag _ => true
  | _ => false

/-- Examines what was written last. -/
def settled (scan : Scan) : Except UsageError Scan :=
  match scan.pending with
  | .nothing => .ok scan
  | .flag _ => .error .invalidValue
  | .value flag value => do
      let given ← scan.given.store flag value
      return { scan with given := given, pending := .nothing }
  | .operand value => do
      let given ← scan.given.storeEnabled value
      return { scan with given := given, pending := .nothing }

/-- An option without a value. -/
def raise (scan : Scan) (flag : Flag) : Except UsageError Scan := do
  let scan ← scan.settled
  let given ← scan.given.raise flag
  return { scan with given := given }

/-- An option with its value attached. -/
def attach (scan : Scan) (flag : Flag) (value : String) : Except UsageError Scan := do
  let scan ← scan.settled
  let given ← scan.given.store flag value
  return { scan with given := given }

/-- An option whose value is to come. -/
def await (scan : Scan) (flag : Flag) : Except UsageError Scan := do
  let scan ← scan.settled
  return { scan with pending := .flag flag }

/-- An option in its long form, with the value attached to it if there is one. -/
def long (scan : Scan) (level : Level) (name : String) (value : Option String) :
    Except UsageError Scan :=
  match level.long? name, value with
  | none, _ => .error .unknownArgument
  | some flag, none => if flag.hasValue then scan.await flag else scan.raise flag
  | some flag, some value => if flag.hasValue then scan.attach flag value else .error .tooManyValues

/-- Options in their short form, the last of which may have its value attached. -/
def shorts (scan : Scan) (level : Level) : List Char → Except UsageError Scan
  | [] => .ok scan
  | c :: rest =>
      match level.short? c with
      | none => .error .unknownArgument
      | some flag =>
          if flag.hasValue then
            match rest with
            | [] => scan.await flag
            | '=' :: value => scan.attach flag (String.ofList value)
            | value => scan.attach flag (String.ofList value)
          else do
            let scan ← scan.raise flag
            shorts scan level rest

/-- An argument that belongs to no option. -/
def operand (scan : Scan) (level : Level) (argument : String) : Except UsageError Scan :=
  if level = .featureSet && !scan.operandSeen then do
    let scan ← scan.settled
    return { scan with pending := .operand argument, operandSeen := true }
  else if scan.ended && level.names argument then .error .unknownArgument
  else if level.hasCommands then .error .invalidCommand
  else .error .unknownArgument

end Scan

/-- The forms of an argument. -/
inductive Shape where
  /-- Two dashes. -/
  | ending
  /-- Two dashes and a name, perhaps with a value behind an equals sign. -/
  | long (name : String) (value : Option String)
  /-- One dash and more. -/
  | shorts (letters : List Char)
  /-- Anything else. -/
  | plain
  deriving DecidableEq, Repr

namespace Shape

/-- The name and the value of an option in its long form. -/
def ofLong (text : List Char) : Shape :=
  let name := String.ofList (text.takeWhile (· != '='))
  match text.dropWhile (· != '=') with
  | [] => .long name none
  | _ :: value => .long name (some (String.ofList value))

def of (argument : String) : Shape :=
  match argument.toList with
  | ['-', '-'] => .ending
  | '-' :: '-' :: text => ofLong text
  | ['-'] => .plain
  | '-' :: letters => .shorts letters
  | _ => .plain

end Shape

/-- What a request for help on some commands ends in. -/
def helpOn (level : Level) : List String → UsageError
  | [] => .help
  | name :: rest =>
      match level.commands.lookup name with
      | some inner => helpOn inner rest
      | none => if level.names name && rest.isEmpty then .help else .invalidCommand

/-- One more argument that names no command. -/
def Scan.step (scan : Scan) (level : Level) (argument : String) : Except UsageError Scan :=
  if scan.ended then scan.operand level argument
  else
    match Shape.of argument with
    | .ending => .ok { scan with ended := true }
    | .long name value => scan.long level name value
    | .shorts letters => scan.shorts level letters
    | .plain =>
        match scan.pending with
        | .flag flag => .ok { scan with pending := .value flag argument }
        | _ => scan.operand level argument

/-- The command that a level stands for, given what is written at it. -/
def Level.command (level : Level) (given : Given) : Except UsageError Command :=
  match level with
  | .simulate =>
      .ok (.simulate given.disable given.stop (given.activity.getD standardActivity))
  | .featureGet => .ok .featureGet
  | .featureSet =>
      match given.enabled with
      | none => .error .missingArgument
      | some enabled => .ok (.featureSet enabled)
  | .service => .ok .service
  | .top => if given.isNothing then .error .helpOnNothing else .error .missingCommand
  | .feature => if given.isNothing then .error .helpOnNothing else .error .missingCommand

/-- Works the arguments of a level and of those inside it off. -/
def scanLevel (level : Level) (scan : Scan) : List String → Except UsageError (Given × Command)
  | [] => do
      let scan ← scan.settled
      let command ← level.command scan.given
      return (scan.given, command)
  | argument :: rest =>
      if !scan.ended && !scan.isWaiting && level.names argument then
        match level.commands.lookup argument with
        | none => .error (helpOn level rest)
        | some inner => do
            let (given, command) ← scanLevel inner {} rest
            let scan ← scan.settled
            return (scan.given.around given, command)
      else do
        let scan ← scan.step level argument
        scanLevel level scan rest

/-- What a command line asks for. -/
def parse (arguments : List String) : Except UsageError Invocation := do
  let (given, command) ← scanLevel .top {} arguments
  return {
    verbosity := given.verbosity
    configuration := given.configuration
    packageName := given.packageName.getD standardPackage
    command := command }

end CommandLine
end ContentCapture
