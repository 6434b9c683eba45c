import ContentCapture.CommandLine.Arguments
import ContentCapture.Configuration
import ContentCapture.Text.Report
import ContentCapture.Deployment.Local

namespace ContentCapture
namespace CommandLine

/-!
# Carrying commands out

A command is carried out with a service of its own, in the same process, and one
manager that is connected to it.  What happens in the deployment whenever the
command waits is the argument `meanwhile`.  Unless another is given, dispatcher
and service come to rest.

A command writes to its output as it goes, and it may fail at any step.  What it
has written by then stays written.
-/

/-- Why a command fails. -/
inductive CommandFailure where
  | capture (failure : Failure)
  /-- The service does not accept the connection. -/
  | connection (failure : Unreachable)
  /-- The service did not see the session in time. -/
  | unobserved
  deriving DecidableEq, Repr

namespace CommandFailure

def message : CommandFailure → String
  | .capture failure => failure.message
  | .connection failure => failure.message
  | .unobserved => "capture service did not observe the session within 2s"

end CommandFailure

/-- The deployment of a command: one queue, and a service that obeys the kill switch. -/
def newDeployment (configuration : Configuration) : Deployment LocalService :=
  { service := .new { explicitlyEnabled := configuration.explicitlyEnabled }
    dispatchers := [{ mode := .queued }] }

/-! ## Steps -/

/-- The steps of a command, which write to its output and may fail. -/
abbrev Steps := ExceptT CommandFailure (StateM String)

namespace Steps

/-- Whether the steps fail, and the output after them, given that before them. -/
def after {α : Type} (steps : Steps α) (written : String) : Except CommandFailure α × String :=
  StateT.run (ExceptT.run steps) written

/-- Goes on with a result, or fails with it. -/
def require {α : Type} (result : Except CommandFailure α) : Steps α :=
  ExceptT.mk (pure result)

def write (text : String) : Steps Unit :=
  modify fun written => written ++ text

def writeLine (text : String) : Steps Unit :=
  write (text ++ "\n")

variable {α β : Type} (written : String)

@[simp] theorem after_require (result : Except CommandFailure α) :
    (require result).after written = (result, written) := rfl

@[simp] theorem after_write (text : String) :
    (write text).after written = (.ok (), written ++ text) := rfl

@[simp] theorem after_writeLine (text : String) :
    (writeLine text).after written = (.ok (), written ++ (text ++ "\n")) := rfl

/-- What fails is not gone on with, and leaves what was written. -/
theorem after_bind (steps : Steps α) (next : α → Steps β) :
    (steps >>= next).after written =
      match steps.after written with
      | (.ok value, written) => (next value).after written
      | (.error failure, written) => (.error failure, written) := by
  unfold after ExceptT.run StateT.run
  simp only [bind, ExceptT.bind, ExceptT.mk, StateT.bind, ExceptT.bindCont]
  cases steps written with
  | mk result later => cases result <;> rfl

/-- Lines are written one after another. -/
theorem after_forM_writeLine (lines : List String) :
    (lines.forM writeLine).after written = (.ok (), written ++ Text.indented "" lines) := by
  induction lines generalizing written with
  | nil => exact Prod.ext rfl (String.append_empty).symm
  | cons line rest inductionHypothesis =>
      have first : (line :: rest).forM writeLine =
          writeLine line >>= fun _ => rest.forM writeLine := rfl
      rw [first, after_bind, after_writeLine]
      change (rest.forM writeLine).after _ = _
      rw [inductionHypothesis, Text.indented_cons, String.empty_append, String.append_assoc]

end Steps

open Steps

section

variable (meanwhile : Deployment LocalService → Deployment LocalService)

/-! ## The feature and the service -/

/-- Prints whether the feature is on. -/
def getFeature (deployment : Deployment LocalService) : Steps Unit := do
  let (enabled, _) := deployment.isFeatureEnabled 0 meanwhile
  let enabled ← require (enabled.mapError .capture)
  writeLine (Json.Value.compact (.object [("enabled", .bool enabled)]))

/-- Turns the feature on or off and prints whether the service acknowledged it. -/
def setFeature (deployment : Deployment LocalService) (enabled : Bool) : Steps Unit := do
  let (acknowledged, _) := deployment.setFeatureEnabled 0 enabled meanwhile
  let acknowledged ← require (acknowledged.mapError .capture)
  writeLine (Json.Value.compact
    (.object [("acknowledged", .bool acknowledged), ("enabled", .bool enabled)]))

/-- Prints the component of the service, and whether capture is on. -/
def showService (deployment : Deployment LocalService) : Steps Unit := do
  let (component, deployment) := deployment.serviceComponentName 0 meanwhile
  let component ← require (component.mapError .capture)
  let (enabled, _) := deployment.isEnabled 0
  writeLine (Json.Value.compact
    (.object [("component", .ofOption (fun name => .text name.text) component),
      ("enabled", .bool enabled)]))

/-! ## Simulation -/

/-- The component that is started: the name of the activity is completed by the
package if it begins with a point. -/
def startedComponent (packageName activity : String) : ComponentName :=
  match activity.toList with
  | '.' :: _ => ⟨packageName, packageName ++ activity⟩
  | _ => ⟨packageName, activity⟩

/-- The token of the window that is started. -/
def startedToken (component : ComponentName) : ActivityToken :=
  ⟨component.shortText ++ "@1"⟩

/-- Waits until the service has seen what it should, unless it has already, or the
session is disabled and there is nothing to see. -/
def observed (deployment : Deployment LocalService) (done : SessionRecord → Bool) :
    Except CommandFailure (Deployment LocalService) :=
  match deployment.observeSession 0 with
  | (none, deployment) => .ok deployment
  | (some session, deployment) =>
      let seen (deployment : Deployment LocalService) : Bool :=
        (deployment.service.session? session.id).any done
      if session.disabled || seen deployment then .ok deployment
      else if seen (meanwhile deployment) then .ok (meanwhile deployment)
      else .error .unobserved

/-- What the service knows of a session, on a line. -/
def recordLine (record : SessionRecord) : String :=
  "  Session " ++ record.start.session.text ++ ": caller=" ++ record.caller ++ " state=" ++
    record.state.text ++ " finished=" ++ Text.ofBool record.finished

/-- What the service knows, line by line. -/
def serviceReport (service : LocalService) : List String :=
  ["LocalService", "  Feature enabled: " ++ Text.ofBool service.featureEnabled] ++
    service.sessions.map recordLine ++
    ["  Event batches: " ++ Text.ofNat service.batches.length]

/-- The deployment after the simulated cycle, as far as it goes. -/
def simulated (deployment : Deployment LocalService) (packageName : String) (disable stop : Bool)
    (activity : String) : Except CommandFailure (Deployment LocalService) := do
  let component := startedComponent packageName activity
  let deployment := if disable then deployment.setEnabled 0 false else deployment
  let (started, deployment) := deployment.onStart 0 (startedToken component) component .empty
  started.mapError .capture
  let deployment := (deployment.flush 0 .viewRootEntered).ensureSession 0
  let deployment ← observed meanwhile deployment fun _ => true
  if stop then observed meanwhile (deployment.onStop 0) fun record => record.finished
  else return deployment

/-- Runs a session through its cycle and reports on manager and service. -/
def simulate (deployment : Deployment LocalService) (packageName : String) (disable stop : Bool)
    (activity : String) : Steps Unit := do
  let deployment ← require (simulated meanwhile deployment packageName disable stop activity)
  let (lines, deployment) := deployment.report 0
  write (Text.indented "" lines)
  (serviceReport deployment.service).forM writeLine

/-! ## Commands -/

/-- Carries a command out under a configuration. -/
def execute (configuration : Configuration) (packageName : String) (command : Command) :
    Steps Unit := do
  let (connected, deployment) := (newDeployment configuration).connectManager ⟨packageName, 0⟩
    configuration.timeoutSpan 0
  require (connected.mapError .connection)
  match command with
  | .simulate disable stop activity =>
      simulate meanwhile deployment packageName disable stop activity
  | .featureGet => getFeature meanwhile deployment
  | .featureSet enabled => setFeature meanwhile deployment enabled
  | .service => showService meanwhile deployment

/-- What reading a file gives.  A name with a NUL in it is not looked up. -/
def readNamed (read : String → Except FileFault ByteArray) (path : String) :
    Except FileFault ByteArray :=
  if path.toList.contains '\x00' then .error .invalidName else read path

/-- The configuration of an invocation, given what reading a file gives and the
value of the environment variable. -/
def loadConfiguration (invocation : Invocation)
    (read : String → Except FileFault ByteArray) (setting : Option ByteArray) :
    Except Failure Configuration := do
  let configuration ←
    match invocation.configuration with
    | none => pure ({} : Configuration)
    | some path => Configuration.ofFile (readNamed read path)
  configuration.inEnvironment setting

def steps (invocation : Invocation) (read : String → Except FileFault ByteArray)
    (setting : Option ByteArray) : Steps Unit := do
  let configuration ← require ((loadConfiguration invocation read setting).mapError .capture)
  execute meanwhile configuration invocation.packageName invocation.command

/-- Carries an invocation out: whether it fails, and its output. -/
def carryOut (invocation : Invocation) (read : String → Except FileFault ByteArray)
    (setting : Option ByteArray) : Except CommandFailure Unit × String :=
  (steps meanwhile invocation read setting).after ""

end

/-- The output of an invocation that does not fail. -/
def run (invocation : Invocation) (read : String → Except FileFault ByteArray)
    (setting : Option ByteArray) : Except CommandFailure String :=
  let (result, written) := carryOut Deployment.settle invocation read setting
  result.map fun _ => written

end CommandLine
end ContentCapture
