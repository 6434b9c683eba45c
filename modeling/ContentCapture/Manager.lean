import ContentCapture.Session

namespace ContentCapture

/-!
# Managers

A manager stands for one app context at one service.  It merges the flags of all
starts, remembers whether the app wants capture, and has one session, which is
made when it is first needed and never replaced.
-/

/-- Whom a manager acts for. -/
structure CaptureContext where
  packageName : String
  userId : UInt32
  deriving DecidableEq, Repr

namespace CaptureContext

def text (context : CaptureContext) : String :=
  "CaptureContext(" ++ context.packageName ++ ", user=" ++
    Text.ofNat context.userId.toNat ++ ")"

def diagnostic (context : CaptureContext) : String :=
  Text.record "CaptureContext"
    [("package_name", Text.quote context.packageName),
     ("user_id", Text.ofNat context.userId.toNat)]

end CaptureContext

/-- A manager. -/
structure Manager where
  context : CaptureContext
  /-- The package that the service takes it for. -/
  caller : String
  /-- How long a blocking question may take. -/
  timeout : Span
  /-- The dispatcher that runs the jobs of its session. -/
  dispatcher : Nat
  flags : CaptureFlags := .empty
  session : Option Session := none
  deriving DecidableEq, Repr

namespace Manager

/-- The manager after something happened to its session. -/
def withSession (manager : Manager) (change : Session → Session) : Manager :=
  { manager with session := manager.session.map change }

/-- Whether capture is on, as far as the session knows.  It is presumed to be on
while there is no session. -/
def isEnabled (manager : Manager) : Bool :=
  match manager.session with
  | none => true
  | some session => !session.disabled

/-- The manager after the app said whether it wants capture. -/
def wanting (manager : Manager) (enabled : Bool) : Manager :=
  { manager with
    flags := if enabled then manager.flags.remove .disabledByApp
      else manager.flags.merge .disabledByApp }

/-- What a report says of the manager, line by line, given the identity of its
connection.  The lines of the session stand under a line of their own. -/
def report (manager : Manager) (identity : String) : List String :=
  ["CaptureManager",
   "  isEnabled(): " ++ Text.ofBool manager.isEnabled,
   "  Context: " ++ manager.context.text,
   "  User: " ++ Text.ofNat manager.context.userId.toNat,
   "  Service: " ++ identity,
   "  Flags: " ++ manager.flags.text] ++
  match manager.session with
  | none => ["  No sessions"]
  | some session => "  Main session:" :: session.report.map fun line => "    " ++ line

/-- The diagnostic text, given that of the dispatcher. -/
def diagnostic (manager : Manager) (dispatcher : String) : String :=
  Text.openRecord "CaptureManager"
    [("context", manager.context.diagnostic), ("sync_timeout", manager.timeout.text),
     ("dispatcher", dispatcher)]

def sessionDiagnostic (manager : Manager) (session : Session) : String :=
  Text.openRecord "MainSession"
    [("id", session.id.diagnostic), ("context", manager.context.diagnostic),
     ("disabled", Text.ofBool session.disabled)]

end Manager
end ContentCapture
