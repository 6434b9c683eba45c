import ContentCapture.Reply.Outcome
import ContentCapture.Wire.Names

namespace ContentCapture

/-!
# Failures

A failure is kept as its cause.  The wording is given by the `message` of each
type, and only there.
-/

/-- The service cannot be reached at all. -/
structure Unreachable where
  reason : String
  deriving DecidableEq, Repr

namespace Unreachable

def message (failure : Unreachable) : String :=
  "capture service unreachable: " ++ failure.reason

def diagnostic (failure : Unreachable) : String :=
  Text.tagged "Unreachable" (Text.quote failure.reason)

end Unreachable

/-- What is wrong with an argument. -/
inductive ArgumentFault where
  | emptyToken
  | invalidComponent (component : ComponentName)
  | nothingToRemove
  /-- Any other fault, in words. -/
  | stated (words : String)
  deriving DecidableEq, Repr

namespace ArgumentFault

def message : ArgumentFault → String
  | .emptyToken => "activity token cannot be empty"
  | .invalidComponent component => "invalid component name: " ++ component.diagnostic
  | .nothingToRemove => "removal request names no data"
  | .stated words => words

end ArgumentFault

/-- What is wrong with a configuration. -/
inductive ConfigurationFault where
  /-- The text is not the form of a configuration. -/
  | undecodable
  | zeroTimeout
  /-- The text of the override is not a number. -/
  | malformedOverride (text : String)
  /-- Any other fault, in words. -/
  | stated (words : String)
  deriving DecidableEq, Repr

/-- The environment variable that overrides the timeout. -/
def timeoutVariable : String := "CAPTURE_SYNC_TIMEOUT_MS"

namespace ConfigurationFault

def message : ConfigurationFault → String
  | .undecodable => "not the form of a configuration"
  | .zeroTimeout => "sync_calls_timeout_ms must be greater than zero"
  | .malformedOverride text =>
      timeoutVariable ++ " must be a number of milliseconds, got " ++ Text.quote text
  | .stated words => words

end ConfigurationFault

/-- Why a file cannot be read. -/
inductive FileFault where
  | notFound
  | isDirectory
  /-- No file can have that name. -/
  | invalidName
  /-- Its bytes are not UTF-8. -/
  | notText
  /-- Any other fault, in words. -/
  | other (words : String)
  deriving DecidableEq, Repr

namespace FileFault

def message : FileFault → String
  | .notFound => "no such file"
  | .isDirectory => "is a directory"
  | .invalidName => "file name contained an unexpected NUL byte"
  | .notText => "not valid UTF-8"
  | .other words => words

end FileFault

/-- Why an operation on a manager, or the loading of its configuration, failed. -/
inductive Failure where
  | unreachable (failure : Unreachable)
  /-- The caller does not own the service. -/
  | notService
  | timeout (span : Span)
  /-- The service answered with a number that has no meaning. -/
  | invalidResult (code : Int32)
  | remote (message : String)
  | invalidArgument (fault : ArgumentFault)
  | undecodable
  | configuration (fault : ConfigurationFault)
  | file (fault : FileFault)
  deriving DecidableEq, Repr

namespace Failure

/-- The failure that a wait for a reply ends in. -/
def ofReplyError : ReplyError → Failure
  | .timeout span => .timeout span
  | .remote message => .remote message
  | .undecodable => .undecodable

def message : Failure → String
  | .unreachable failure => failure.message
  | .notService => "caller is not user's capture service"
  | .timeout span => (ReplyError.timeout span).message
  | .invalidResult code => "received invalid result: " ++ Text.ofInt code.toInt
  | .remote message => (ReplyError.remote message).message
  | .invalidArgument fault => "invalid argument: " ++ fault.message
  | .undecodable => "failed to decode reply"
  | .configuration fault => "configuration error: " ++ fault.message
  | .file fault => fault.message

/-- Whether the client should stop talking to the service. -/
def isFatal : Failure → Bool
  | .unreachable _ => true
  | .invalidResult _ => true
  | _ => false

def isTimeout : Failure → Bool
  | .timeout _ => true
  | _ => false

/-- Whether the caller was not entitled to the request. -/
def isSecurity : Failure → Bool
  | .notService => true
  | _ => false

/-- Whether the failure was caused by another error that it keeps. -/
def hasCause : Failure → Bool
  | .undecodable => true
  | _ => false

end Failure
end ContentCapture
