import ContentCapture.CommandLine.Commands

/-!
# The command line program

Arguments, the configuration file and the environment are read here, and the
output is written.  All else is decided by `CommandLine.parse` and
`CommandLine.carryOut`.
-/

open ContentCapture
open ContentCapture.CommandLine

def usage : String :=
  "Drive a content capture manager against an in-process capture service\n\n" ++
  "Usage: capturectl [OPTIONS] <COMMAND>\n\n" ++
  "Commands:\n" ++
  "  simulate  Run a start/flush/stop cycle and print the manager dump\n" ++
  "  feature   Read or toggle the per-user capture feature (service owner only)\n" ++
  "  service   Print the component of the capture service\n" ++
  "  help      Print this message or the help of the given subcommand(s)\n\n" ++
  "Options:\n" ++
  "  -v, --verbose            Increase verbosity (-v info, -vv debug, -vvv trace)\n" ++
  "  -c, --config <FILE>      Manager configuration file (JSON)\n" ++
  "  -p, --package <PACKAGE>  Package the client acts as [default: com.example.notes]\n" ++
  "  -h, --help               Print help\n" ++
  "  -V, --version            Print version\n"

/-- What a command line that is not carried out is answered with, and the exit
code. -/
def usageAnswer : UsageError → String × UInt32
  | .help => (usage, 0)
  | .version => ("capturectl 0.3.0\n", 0)
  | .helpOnNothing => (usage, 2)
  | .invalidCommand => ("error: unrecognized subcommand\n", 2)
  | .unknownArgument => ("error: unexpected argument\n", 2)
  | .missingCommand => ("error: a subcommand is required\n", 2)
  | .missingArgument => ("error: a required argument is missing\n", 2)
  | .invalidValue => ("error: invalid or missing value\n", 2)
  | .tooManyValues => ("error: unexpected value\n", 2)
  | .argumentConflict => ("error: an option is given more than once\n", 2)

/-- Why a file could not be read. -/
def fileFault : IO.Error → FileFault
  | .noFileOrDirectory .. => .notFound
  | .inappropriateType .. => .isDirectory
  | error => .other (toString error)

/-- The bytes of a file, if one is named. -/
def contentOf : Option String → IO (Except FileFault ByteArray)
  | none => return .error .notFound
  | some path => do
      try
        let bytes ← IO.FS.readBinFile path
        return .ok bytes
      catch error => return .error (fileFault error)

def main (arguments : List String) : IO UInt32 := do
  match parse arguments with
  | .error error =>
      let (text, code) := usageAnswer error
      if code = 0 then IO.print text else IO.eprint text
      return code
  | .ok invocation =>
      let content ← contentOf invocation.configuration
      let setting ← IO.getEnv timeoutVariable
      let (result, written) :=
        carryOut Deployment.settle invocation (fun _ => content) (setting.map String.toUTF8)
      IO.print written
      match result with
      | .ok () => return 0
      | .error failure =>
          IO.eprintln ("command failed: " ++ failure.message)
          return 1
