import ContentCapture.CommandLine.Commands
import ContentCapture.Proofs.Rejections
import ContentCapture.Proofs.Reports
import ContentCapture.Proofs.Settling

namespace ContentCapture
namespace CommandLine

/-!
# The simulated cycle

A command has a deployment of its own, with one manager, one queue and a service that runs.  All
that happens there besides the steps of the command is work, and the command waits for it.  So
every stage of the deployment is known, whatever the names of the package and the activity are,
and with it what is reported in the end.
-/

open Deployment Steps

/-- While a command waits, all the work that there is gets done, in whatever order. -/
def Thorough (meanwhile : Deployment LocalService → Deployment LocalService) : Prop :=
  ∀ deployment : Deployment LocalService, deployment.Tandem →
    deployment.ComesToRest (meanwhile deployment)

variable {meanwhile : Deployment LocalService → Deployment LocalService}

theorem Thorough.eq_settle (thorough : Thorough meanwhile) {deployment : Deployment LocalService}
    (tandem : deployment.Tandem) : meanwhile deployment = deployment.settle :=
  (thorough deployment tandem).eq_settle tandem

theorem thorough_settle : Thorough Deployment.settle :=
  fun _ tandem => tandem.comesToRest_settle

/-! ## Stages -/

/-- The deployment of a command at some stage. -/
def stage (manager : Manager) (jobs : List Job) (service : LocalService) (exchange : Exchange)
    (next : SessionId) (journal : List Entry) : Deployment LocalService :=
  { service := service, exchange := exchange, dispatchers := [⟨.queued, jobs⟩],
    managers := [manager], nextSession := next, journal := journal }

section

variable {manager : Manager} {jobs : List Job} {service : LocalService} {exchange : Exchange}
  {next : SessionId} {journal : List Entry} (running : service.running = true)

include running

theorem tandem_stage : (stage manager jobs service exchange next journal).Tandem :=
  ⟨⟨_, rfl⟩, running⟩

theorem settle_stage_nil (idle : service.inbox = []) :
    (stage manager [] service exchange next journal).settle =
      stage manager [] service exchange next journal :=
  AtRest.settle_eq_self ⟨by simp [stage], idle⟩ (tandem_stage running)

omit running in
/-- The service works the only request off that it has. -/
theorem serve_stage (idle : service.inbox = []) (envelope : Envelope) :
    (stage manager jobs (service.joinedBy envelope) exchange next journal).serve =
      stage manager jobs (service.workOff envelope).1
        ((service.workOff envelope).2.elim exchange fun (channel, outcome) =>
          exchange.answer channel (.complete outcome)) next journal := by
  have inbox : (service.joinedBy envelope).inbox = [envelope] := by
    rw [LocalService.joinedBy, idle, List.nil_append]
  have alone : { service.joinedBy envelope with inbox := [] } = service := by
    rw [← idle]
    rfl
  simp only [serve, stage, inbox, alone]
  cases (service.workOff envelope).2 <;> rfl

/-- The request of a job may be worked off before the next job is run. -/
theorem settle_stage_cons (idle : service.inbox = []) (job : Job) :
    (stage manager (job :: jobs) service exchange next journal).settle =
      (stage manager jobs (service.workOff ⟨job.caller, job.request⟩).1
        ((service.workOff ⟨job.caller, job.request⟩).2.elim exchange fun (channel, outcome) =>
          exchange.answer channel (.complete outcome)) next
        (journal ++ [.asked (some job.owner) ⟨job.caller, job.request⟩ (.ok ())])).settle := by
  have tandem : (stage manager (job :: jobs) service exchange next journal).Tandem :=
    tandem_stage running
  have inTurn : ((stage manager (job :: jobs) service exchange next journal).after (.work 0)).after
      (.act LocalAct.serve) =
        ((stage manager (job :: jobs) service exchange next journal).work 0).serve := acted_serve _
  -- To run the job and to work its request off are two pieces of work, and settling absorbs both.
  rw [← tandem.settle_after (.job 0), ← (tandem.after (.job 0)).settle_after .request, inTurn,
    work_eq_joinedBy rfl running, ← serve_stage idle]
  rfl

end

/-! ## The connection -/

def client (configuration : Configuration) (packageName : String) (flags : CaptureFlags)
    (session : Option Session) : Manager :=
  { context := ⟨packageName, 0⟩, caller := packageName, timeout := configuration.timeoutSpan,
    dispatcher := 0, flags := flags, session := session }

def newService (configuration : Configuration) : LocalService :=
  .new { explicitlyEnabled := configuration.explicitlyEnabled }

/-- The deployment of a command once its manager is connected. -/
def connected (configuration : Configuration) (packageName : String) : Deployment LocalService :=
  stage (client configuration packageName .empty none) [] (newService configuration) {} ⟨1⟩ []

section

variable (configuration : Configuration) (packageName : String)

theorem endpoint_newService :
    (newService configuration).endpoint = "com.example.capture/.CaptureService" := by
  have short : (⟨"com.example.capture", "com.example.capture.CaptureService"⟩ :
      ComponentName).shortText = "com.example.capture/.CaptureService" := by decide +kernel
  exact short

/-- The kill switch is the only thing that prevents a connection. -/
theorem connectManager_newDeployment :
    (newDeployment configuration).connectManager ⟨packageName, 0⟩ configuration.timeoutSpan 0 =
      if configuration.explicitlyEnabled = some false then
        (.error ⟨"com.example.capture/.CaptureService disabled by service_explicitly_enabled"⟩,
          newDeployment configuration)
      else (.ok (), connected configuration packageName) := by
  have made : (newDeployment configuration).service = newService configuration := rfl
  have running : (newService configuration).running = true := rfl
  have switch : (newService configuration).configuration.explicitlyEnabled =
      configuration.explicitlyEnabled := rfl
  rw [connectManager, made, LocalService.connect, endpoint_newService, running, switch]
  by_cases off : configuration.explicitlyEnabled = some false
  · rw [if_pos off, if_pos off]
    rfl
  · rw [if_neg off, if_neg off]
    rfl

end

/-! ## Steps of a cycle -/

/-- The deployment of a command that has a session. -/
def attended (configuration : Configuration) (packageName : String) (flags : CaptureFlags)
    (session : Session) (jobs : List Job) (service : LocalService) (exchange : Exchange)
    (journal : List Entry) : Deployment LocalService :=
  stage (client configuration packageName flags (some session)) jobs service exchange ⟨2⟩ journal

section

variable {configuration : Configuration} {packageName : String} {flags : CaptureFlags}
  {session : Session} {jobs : List Job} {service : LocalService} {exchange : Exchange}
  {journal : List Entry}

theorem poll_attended :
    (attended configuration packageName flags session jobs service exchange journal).poll 0 =
      attended configuration packageName flags (session.polled exchange) jobs service exchange
        journal := by
  simp [attended, stage, client, poll, updateSession, updateManager, Manager.withSession]

theorem observeSession_attended (looked : session.polled exchange = session) :
    (attended configuration packageName flags session jobs service exchange
        journal).observeSession 0 =
      (some session,
        attended configuration packageName flags session jobs service exchange journal) := by
  rw [observeSession, poll_attended, looked]
  rfl

/-- A flush does nothing to a session without events that has looked. -/
theorem flush_attended (looked : session.polled exchange = session) (empty : session.buffer = [])
    (reason : FlushReason) :
    ((attended configuration packageName flags session jobs service exchange journal).flush 0
        reason).ensureSession 0 =
      attended configuration packageName flags session jobs service exchange journal := by
  have emptied : session.emptied = session := by
    rw [Session.emptied, ← empty]
  by_cases started : session.lifecycle = .started
  · by_cases disabled : session.disabled = true <;>
      simp [attended, stage, client, flush, ensureSession, flushSession, sendBuffer, poll,
        updateSession, updateManager, session?, Manager.withSession, looked, empty, emptied,
        started, disabled]
  · simp [attended, stage, client, flush, ensureSession, flushSession, session?, started]

end

section

variable {deployment later : Deployment LocalService} {session : Session}
  {done : SessionRecord → Bool}
  (looked : deployment.observeSession 0 = (some session, deployment))

include looked

/-- What is there once all the work is done is not missed. -/
theorem observed_of_enabled (enabled : session.disabled = false)
    (unseen : (deployment.service.session? session.id).any done = false)
    (waited : meanwhile deployment = later)
    (seen : (later.service.session? session.id).any done = true) :
    observed meanwhile deployment done = .ok later := by
  simp [observed, looked, enabled, unseen, waited, seen]

/-- Nothing is waited for while the session is disabled. -/
theorem observed_of_disabled (disabled : session.disabled = true) :
    observed meanwhile deployment done = .ok deployment := by
  simp [observed, looked, disabled]

end

theorem startedComponent_eq (packageName activity : String) :
    startedComponent packageName activity =
      ⟨packageName,
        if activity.toList.head? = some '.' then packageName ++ activity else activity⟩ := by
  unfold startedComponent
  split
  · next rest point => simp [point]
  · next other =>
      have absent : ¬ activity.toList.head? = some '.' := by
        intro point
        cases letters : activity.toList with
        | nil => simp [letters] at point
        | cons first rest =>
            rw [letters] at point
            cases point
            exact other rest letters
      rw [if_neg absent]

/-- A start that is rejected is the end of the command. -/
theorem simulated_of_fault (deployment : Deployment LocalService) {packageName activity : String}
    {component : ComponentName} (named : startedComponent packageName activity = component)
    {fault : ArgumentFault} (faulty : startFault? (startedToken component) component = some fault)
    (disable stop : Bool) :
    simulated meanwhile deployment packageName disable stop activity =
      .error (.capture (.invalidArgument fault)) := by
  simp only [simulated, named, onStart_of_startFault? _ _ faulty]
  rfl

/-- Otherwise the command goes on to wait. -/
theorem simulated_of_started {deployment started begun : Deployment LocalService}
    {packageName activity : String} {component : ComponentName}
    (named : startedComponent packageName activity = component) (disable : Bool)
    (start : (if disable then deployment.setEnabled 0 false else deployment).onStart 0
      (startedToken component) component .empty = (.ok (), started))
    (flushed : (started.flush 0 .viewRootEntered).ensureSession 0 = begun) (stop : Bool) :
    simulated meanwhile deployment packageName disable stop activity =
      (observed meanwhile begun fun _ => true).bind fun now =>
        if stop then observed meanwhile (now.onStop 0) fun record => record.finished
        else .ok now := by
  simp only [simulated, named, start, flushed]
  rfl

/-! ## A cycle that is announced -/

section

variable (configuration : Configuration) (packageName : String) (token : ActivityToken)
  (component : ComponentName)

/-- The start of the only session. -/
def firstStart : SessionStart :=
  ⟨⟨1⟩, token, component, .empty⟩

/-- The session while it waits for the answer to its start. -/
def waitingSession : Session :=
  Session.opened { id := ⟨1⟩ } token component .empty 0

/-- The session once it has the answer, which may be ended. -/
def activeSession (ended : Bool) : Session :=
  let session := (waitingSession token component).informed (.ok 2)
  if ended then session.closed else session

/-- What is posted at the start, -/
def startJobs : List Job :=
  [⟨0, packageName, .startSession (firstStart token component) 0⟩,
    ⟨0, packageName, .sendEvents ⟨1⟩ [⟨⟨1⟩, 0, .started token component⟩] .sessionStarted⟩]

/-- and what is posted at the end. -/
def stopJobs : List Job :=
  [⟨0, packageName, .sendEvents ⟨1⟩ [⟨⟨1⟩, 0, .finished⟩] .sessionFinished⟩,
    ⟨0, packageName, .finishSession ⟨1⟩⟩]

/-- The service once it knows of the session, which may be finished. -/
def informedService (finished : Bool) : LocalService :=
  { newService configuration with
    sessions := [⟨packageName, firstStart token component, .active, finished⟩]
    batches := ⟨⟨1⟩, .sessionStarted, [⟨⟨1⟩, 0, .started token component⟩]⟩ ::
      if finished then [⟨⟨1⟩, .sessionFinished, [⟨⟨1⟩, 0, .finished⟩]⟩] else [] }

/-- The channel of the start, which the service may have answered. -/
def startChannel (outcome : Option Outcome) : Exchange :=
  { channels := [{ timeout := configuration.timeoutSpan, outcome := outcome }] }

theorem merge_empty_empty : CaptureFlags.empty.merge .empty = .empty := by decide

theorem isDisabling_empty : CaptureFlags.empty.isDisabling = false := by decide

theorem milliseconds_zero : (⟨0⟩ : Span).milliseconds = 0 := by decide

/-- What becomes of a session that is started. -/
theorem onStart_connected (proper : startFault? token component = none) :
    ∃ journal, (connected configuration packageName).onStart 0 token component .empty =
      (.ok (), attended configuration packageName .empty (waitingSession token component)
        (startJobs packageName token component) (newService configuration)
        (startChannel configuration none) journal) := by
  rw [onStart, proper]
  simp [connected, attended, stage, client, updateManager, ensureSession, startSession,
    merge_empty_empty, isDisabling_empty, announce, newChannel, Exchange.newChannel,
    updateSession, Manager.withSession, Session.opened, postRequest, post, noted, Dispatcher.push,
    sendEvent, milliseconds_zero, Session.recorded, sendBuffer, poll, Session.polled,
    Exchange.peek, Exchange.channel?, Channel.peek, session?, Session.emptied, waitingSession,
    startJobs, firstStart, startChannel]

theorem workOff_firstStart :
    (newService configuration).workOff ⟨packageName, .startSession (firstStart token component) 0⟩ =
      ({ newService configuration with
          sessions := [⟨packageName, firstStart token component, .active, false⟩] },
        some (0, .ofCode 2)) := by
  have byApp : CaptureFlags.empty.isDisabledByApp = false := by decide
  have secure : CaptureFlags.empty.isDisabledByFlagSecure = false := by decide
  have code : SessionState.active.bits.toInt32 = 2 := by decide
  simp [newService, LocalService.new, LocalService.workOff, LocalService.handle,
    LocalService.stateOf, SessionRecord.find?, SessionRecord.insert, firstStart, byApp, secure,
    code, Request.channel?]

/-- The service learns of the session and answers, -/
theorem settle_startJobs (journal : List Entry) :
    ∃ later, (attended configuration packageName .empty (waitingSession token component)
        (startJobs packageName token component) (newService configuration)
        (startChannel configuration none) journal).settle =
      attended configuration packageName .empty (waitingSession token component) []
        (informedService configuration packageName token component false)
        (startChannel configuration (some (.ofCode 2))) later := by
  rw [attended, startJobs, settle_stage_cons rfl rfl, workOff_firstStart,
    settle_stage_cons rfl rfl, settle_stage_nil rfl rfl]
  exact ⟨_, rfl⟩

/-- and that is what is waited for. -/
theorem observed_startJobs (thorough : Thorough meanwhile) (journal : List Entry) :
    ∃ later, observed meanwhile
        (attended configuration packageName .empty (waitingSession token component)
          (startJobs packageName token component) (newService configuration)
          (startChannel configuration none) journal) (fun _ => true) =
      .ok (attended configuration packageName .empty (waitingSession token component) []
        (informedService configuration packageName token component false)
        (startChannel configuration (some (.ofCode 2))) later) := by
  rcases settle_startJobs configuration packageName token component journal with ⟨later, settled⟩
  have waited := (thorough.eq_settle (tandem_stage rfl)).trans settled
  exact ⟨later, observed_of_enabled (observeSession_attended rfl) rfl rfl waited rfl⟩

/-- What becomes of a session that is stopped. -/
theorem onStop_attended (journal : List Entry) :
    ∃ later, (attended configuration packageName .empty (waitingSession token component) []
        (informedService configuration packageName token component false)
        (startChannel configuration (some (.ofCode 2))) journal).onStop 0 =
      attended configuration packageName .empty (activeSession token component true)
        (stopJobs packageName) (informedService configuration packageName token component false)
        (startChannel configuration (some (.ofCode 2))) later := by
  have enabled : (⟨(2 : Int32).toUInt32⟩ : SessionState).isDisabled = false := by decide
  simp [attended, stage, client, onStop, ensureSession, destroySession, closeSession, session?,
    poll, updateSession, updateManager, Manager.withSession, waitingSession, Session.opened,
    Session.polled, Session.informed, startChannel, Exchange.peek, Exchange.channel?,
    Channel.peek, Outcome.ofCode, Outcome.resolve, Except.map, sendEvent, milliseconds_zero,
    Session.recorded, sendBuffer, Session.emptied, postRequest, post, noted, Dispatcher.push,
    stopJobs, Session.closed, activeSession, enabled]

/-- The service learns that the session is finished, -/
theorem settle_stopJobs (session : Session) (exchange : Exchange) (journal : List Entry) :
    ∃ later, (attended configuration packageName .empty session (stopJobs packageName)
        (informedService configuration packageName token component false) exchange
        journal).settle =
      attended configuration packageName .empty session []
        (informedService configuration packageName token component true) exchange later := by
  rw [attended, stopJobs, settle_stage_cons rfl rfl, settle_stage_cons rfl rfl,
    settle_stage_nil rfl rfl]
  exact ⟨_, rfl⟩

/-- and that is what is waited for. -/
theorem observed_stopJobs (thorough : Thorough meanwhile) (journal : List Entry) :
    ∃ later, observed meanwhile
        (attended configuration packageName .empty (activeSession token component true)
          (stopJobs packageName) (informedService configuration packageName token component false)
          (startChannel configuration (some (.ofCode 2))) journal)
        (fun record => record.finished) =
      .ok (attended configuration packageName .empty (activeSession token component true) []
        (informedService configuration packageName token component true)
        (startChannel configuration (some (.ofCode 2))) later) := by
  rcases settle_stopJobs configuration packageName token component
    (activeSession token component true) (startChannel configuration (some (.ofCode 2))) journal
    with ⟨later, settled⟩
  have waited := (thorough.eq_settle (tandem_stage rfl)).trans settled
  exact ⟨later, observed_of_enabled (observeSession_attended rfl) rfl rfl waited rfl⟩

end

/-- A session that the app wants is started, and the service is told all about it. -/
theorem simulated_enabled (thorough : Thorough meanwhile) (configuration : Configuration)
    {packageName activity : String} {component : ComponentName}
    (named : startedComponent packageName activity = component)
    (proper : startFault? (startedToken component) component = none) (stop : Bool) :
    ∃ now journal,
      simulated meanwhile (connected configuration packageName) packageName false stop activity =
        .ok now ∧
      now.poll 0 = attended configuration packageName .empty
        (activeSession (startedToken component) component stop) []
        (informedService configuration packageName (startedToken component) component stop)
        (startChannel configuration (some (.ofCode 2))) journal := by
  rcases onStart_connected configuration packageName _ _ proper with ⟨first, start⟩
  rcases observed_startJobs configuration packageName (startedToken component) component thorough
    first with ⟨second, begun⟩
  have goesOn : simulated meanwhile (connected configuration packageName) packageName false stop
      activity = _ := simulated_of_started named false start (flush_attended rfl rfl _) stop
  rw [goesOn, begun, Except.bind]
  cases stop with
  | false => exact ⟨_, second, rfl, poll_attended⟩
  | true =>
      rcases onStop_attended configuration packageName (startedToken component) component second
        with ⟨third, stopped⟩
      rcases observed_stopJobs configuration packageName (startedToken component) component thorough
        third with ⟨fourth, finished⟩
      rw [if_pos rfl, stopped]
      exact ⟨_, fourth, finished, poll_attended⟩

/-! ## A cycle that the app does not want -/

section

variable (configuration : Configuration) (packageName : String) (token : ActivityToken)
  (component : ComponentName)

/-- The session of which the service is not told, and which may be ended. -/
def offSession (ended : Bool) : Session :=
  let session := Session.openedOff { id := ⟨1⟩ } token component .disabledByApp
  if ended then session.closed else session

theorem onStart_unwanted (proper : startFault? token component = none) :
    ((connected configuration packageName).setEnabled 0 false).onStart 0 token component .empty =
      (.ok (), attended configuration packageName .disabledByApp
        (offSession token component false) [] (newService configuration) {} []) := by
  have unwanted : CaptureFlags.empty.merge .disabledByApp = .disabledByApp := by decide
  have still : CaptureFlags.disabledByApp.merge .empty = .disabledByApp := by decide
  have disabling : CaptureFlags.disabledByApp.isDisabling = true := by decide
  rw [onStart, proper]
  simp [connected, attended, stage, client, setEnabled, Manager.wanting, updateManager,
    ensureSession, startSession, unwanted, still, disabling, updateSession, Manager.withSession,
    Session.openedOff, offSession]

theorem onStop_unwanted :
    (attended configuration packageName .disabledByApp (offSession token component false) []
        (newService configuration) {} []).onStop 0 =
      attended configuration packageName .disabledByApp (offSession token component true) []
        (newService configuration) {} [] := by
  simp [attended, stage, client, onStop, ensureSession, destroySession, closeSession, session?,
    poll, updateSession, updateManager, Manager.withSession, Session.polled, Session.openedOff,
    Session.closed, offSession]

theorem observed_unwanted (ended : Bool) (done : SessionRecord → Bool) :
    observed meanwhile
        (attended configuration packageName .disabledByApp (offSession token component ended) []
          (newService configuration) {} []) done =
      .ok (attended configuration packageName .disabledByApp (offSession token component ended) []
        (newService configuration) {} []) := by
  apply observed_of_disabled
  · exact observeSession_attended (by cases ended <;> rfl)
  · cases ended <;> rfl

end

/-- Of a session that the app does not want the service is not told at all. -/
theorem simulated_disabled (configuration : Configuration) {packageName activity : String}
    {component : ComponentName} (named : startedComponent packageName activity = component)
    (proper : startFault? (startedToken component) component = none) (stop : Bool) :
    ∃ now,
      simulated meanwhile (connected configuration packageName) packageName true stop activity =
        .ok now ∧
      now.poll 0 = attended configuration packageName .disabledByApp
        (offSession (startedToken component) component stop) [] (newService configuration)
        {} [] := by
  have goesOn : simulated meanwhile (connected configuration packageName) packageName true stop
      activity = _ := simulated_of_started named true
        (onStart_unwanted configuration packageName _ _ proper) (flush_attended rfl rfl _) stop
  rw [goesOn, observed_unwanted, Except.bind]
  cases stop with
  | false => exact ⟨_, rfl, poll_attended⟩
  | true =>
      rw [if_pos rfl, onStop_unwanted, observed_unwanted]
      exact ⟨_, rfl, poll_attended⟩

/-! ## What is reported -/

def sessionLines (component : ComponentName) (disable stop : Bool) : List String :=
  ["id: 1",
   "lifecycle: " ++ (if stop then "destroyed" else "started"),
   "state: " ++ (if disable then "DISABLED|BY_APP (68)" else "ACTIVE (2)"),
   "disabled: " ++ Text.ofBool disable,
   "flags: " ++ (if disable then "1 [DISABLED_BY_APP]" else "0"),
   "token: " ++ (component.shortText ++ "@1"),
   "component: " ++ component.shortText,
   "buffered events: 0"]

/-- What is reported of the manager, and of the session under it. -/
def managerLines (packageName : String) (component : ComponentName) (disable stop : Bool) :
    List String :=
  ["CaptureManager",
   "  isEnabled(): " ++ Text.ofBool (!disable),
   "  Context: CaptureContext(" ++ packageName ++ ", user=0)",
   "  User: 0",
   "  Service: ChannelServiceClient(endpoint=com.example.capture/.CaptureService, caller=" ++
     packageName ++ ")",
   "  Flags: " ++ (if disable then "1 [DISABLED_BY_APP]" else "0"),
   "  Main session:"] ++
  (sessionLines component disable stop).map fun line => "    " ++ line

def serviceLines (packageName : String) (disable stop : Bool) : List String :=
  ["LocalService", "  Feature enabled: true"] ++
  (if disable then []
    else ["  Session 1: caller=" ++ packageName ++ " state=ACTIVE (2) finished=" ++
      Text.ofBool stop]) ++
  ["  Event batches: " ++ Text.ofNat (if disable then 0 else if stop then 2 else 1)]

theorem ofNat_zero : Text.ofNat 0 = "0" := by decide +kernel

theorem text_firstSession : (⟨1⟩ : SessionId).text = "1" := by decide +kernel

theorem text_active : SessionState.active.text = "ACTIVE (2)" := by decide +kernel

theorem text_empty : CaptureFlags.empty.text = "0" := by decide +kernel

theorem text_disabledByApp : CaptureFlags.disabledByApp.text = "1 [DISABLED_BY_APP]" := by
  decide +kernel

theorem report_activeSession (component : ComponentName) (stop : Bool) :
    (activeSession (startedToken component) component stop).report =
      sessionLines component false stop := by
  have composed : (activeSession (startedToken component) component stop).report =
      ["id: " ++ (⟨1⟩ : SessionId).text, "lifecycle: " ++ (if stop then "destroyed" else "started"),
        "state: " ++ SessionState.active.text, "disabled: " ++ Text.ofBool false,
        "flags: " ++ CaptureFlags.empty.text, "token: " ++ (component.shortText ++ "@1"),
        "component: " ++ component.shortText, "buffered events: " ++ Text.ofNat 0] := by
    cases stop <;> rfl
  rw [composed, text_firstSession, text_active, text_empty, ofNat_zero]
  rfl

theorem report_offSession (component : ComponentName) (stop : Bool) :
    (offSession (startedToken component) component stop).report =
      sessionLines component true stop := by
  have state : (Session.turnedOff .disabledByApp).text = "DISABLED|BY_APP (68)" := by
    decide +kernel
  have composed : (offSession (startedToken component) component stop).report =
      ["id: " ++ (⟨1⟩ : SessionId).text, "lifecycle: " ++ (if stop then "destroyed" else "started"),
        "state: " ++ (Session.turnedOff .disabledByApp).text, "disabled: " ++ Text.ofBool true,
        "flags: " ++ CaptureFlags.disabledByApp.text, "token: " ++ (component.shortText ++ "@1"),
        "component: " ++ component.shortText, "buffered events: " ++ Text.ofNat 0] := by
    cases stop <;> rfl
  rw [composed, text_firstSession, state, text_disabledByApp, ofNat_zero]
  rfl

section

variable (configuration : Configuration) (packageName : String)

theorem text_context :
    "  Context: " ++ (⟨packageName, 0⟩ : CaptureContext).text =
      "  Context: CaptureContext(" ++ packageName ++ ", user=0)" := by
  have told : (⟨packageName, 0⟩ : CaptureContext).text =
      "CaptureContext(" ++ packageName ++ ", user=" ++ "0" ++ ")" := by
    rw [← ofNat_zero]
    rfl
  rw [told]
  simp [← String.toList_inj]

theorem text_identity :
    "  Service: " ++ (newService configuration).identity packageName =
      "  Service: ChannelServiceClient(endpoint=com.example.capture/.CaptureService, caller=" ++
        packageName ++ ")" := by
  have told : (newService configuration).identity packageName =
      "ChannelServiceClient(endpoint=" ++ (newService configuration).endpoint ++ ", caller=" ++
        packageName ++ ")" := rfl
  simp only [told, endpoint_newService, ← String.append_assoc, String.reduceAppend]

theorem report_client (flags : CaptureFlags) (session : Session) :
    (client configuration packageName flags (some session)).report
        ((newService configuration).identity packageName) =
      ["CaptureManager",
       "  isEnabled(): " ++ Text.ofBool (!session.disabled),
       "  Context: CaptureContext(" ++ packageName ++ ", user=0)",
       "  User: 0",
       "  Service: ChannelServiceClient(endpoint=com.example.capture/.CaptureService, caller=" ++
         packageName ++ ")",
       "  Flags: " ++ flags.text,
       "  Main session:"] ++
      session.report.map fun line => "    " ++ line := by
  have composed : (client configuration packageName flags (some session)).report
        ((newService configuration).identity packageName) =
      ["CaptureManager", "  isEnabled(): " ++ Text.ofBool (!session.disabled),
        "  Context: " ++ (⟨packageName, 0⟩ : CaptureContext).text, "  User: " ++ Text.ofNat 0,
        "  Service: " ++ (newService configuration).identity packageName,
        "  Flags: " ++ flags.text, "  Main session:"] ++
      session.report.map fun line => "    " ++ line := rfl
  simp only [composed, text_context, text_identity, ofNat_zero, String.reduceAppend]

theorem report_client_active (component : ComponentName) (stop : Bool) :
    (client configuration packageName .empty
        (some (activeSession (startedToken component) component stop))).report
          ((newService configuration).identity packageName) =
      managerLines packageName component false stop := by
  have enabled : (activeSession (startedToken component) component stop).disabled = false := by
    cases stop <;> rfl
  rw [report_client, report_activeSession, enabled]
  simp only [managerLines, text_empty, Bool.false_eq_true, if_false]

theorem report_client_off (component : ComponentName) (stop : Bool) :
    (client configuration packageName .disabledByApp
        (some (offSession (startedToken component) component stop))).report
          ((newService configuration).identity packageName) =
      managerLines packageName component true stop := by
  have disabled : (offSession (startedToken component) component stop).disabled = true := by
    cases stop <;> rfl
  rw [report_client, report_offSession, disabled]
  simp only [managerLines, text_disabledByApp, if_true]

theorem serviceReport_informedService (token : ActivityToken) (component : ComponentName)
    (stop : Bool) :
    serviceReport (informedService configuration packageName token component stop) =
      serviceLines packageName false stop := by
  have record : recordLine ⟨packageName, firstStart token component, .active, stop⟩ =
      "  Session 1: caller=" ++ packageName ++ " state=ACTIVE (2) finished=" ++
        Text.ofBool stop := by
    have told : recordLine ⟨packageName, firstStart token component, .active, stop⟩ =
        "  Session " ++ (⟨1⟩ : SessionId).text ++ ": caller=" ++ packageName ++ " state=" ++
          SessionState.active.text ++ " finished=" ++ Text.ofBool stop := rfl
    simp only [told, text_firstSession, text_active]
    simp [← String.toList_inj]
  rw [serviceLines, ← record]
  cases stop <;> rfl

theorem serviceReport_newService (stop : Bool) :
    serviceReport (newService configuration) = serviceLines packageName true stop := rfl

end

/-! ## The command -/

section

variable (meanwhile) (read : String → Except FileFault ByteArray) (setting : Option ByteArray)
  {invocation : Invocation}

/-- A command without a configuration is not begun. -/
theorem carryOut_of_unloaded {failure : Failure}
    (refused : loadConfiguration invocation read setting = .error failure) :
    carryOut meanwhile invocation read setting = (.error (.capture failure), "") := by
  rw [carryOut, steps, refused, after_bind, Except.mapError, after_require]

variable {configuration : Configuration}
  (loaded : loadConfiguration invocation read setting = .ok configuration)

include loaded

/-- Nor is one without a connection. -/
theorem carryOut_of_off (off : configuration.explicitlyEnabled = some false) :
    carryOut meanwhile invocation read setting =
      (.error (.connection
        ⟨"com.example.capture/.CaptureService disabled by service_explicitly_enabled"⟩), "") := by
  rw [carryOut, steps, loaded, after_bind, Except.mapError, after_require]
  simp only [execute, connectManager_newDeployment, off, if_true]
  rw [after_bind, Except.mapError, after_require]

/-- Otherwise the command has a manager that is connected. -/
theorem carryOut_of_on (on : configuration.explicitlyEnabled ≠ some false) :
    carryOut meanwhile invocation read setting =
      Steps.after (
        let deployment := connected configuration invocation.packageName
        match invocation.command with
        | .simulate disable stop activity =>
            simulate meanwhile deployment invocation.packageName disable stop activity
        | .featureGet => getFeature meanwhile deployment
        | .featureSet enabled => setFeature meanwhile deployment enabled
        | .service => showService meanwhile deployment) "" := by
  rw [carryOut, steps, loaded, after_bind, Except.mapError, after_require]
  simp only [execute, connectManager_newDeployment, if_neg on]
  exact after_bind _ _ _

end

/-- The report comes after everything that may fail. -/
theorem after_simulate {deployment now : Deployment LocalService} {packageName activity : String}
    {disable stop : Bool}
    (done : simulated meanwhile deployment packageName disable stop activity = .ok now) :
    (simulate meanwhile deployment packageName disable stop activity).after "" =
      (.ok (), Text.indented "" ((now.report 0).1 ++ serviceReport (now.report 0).2.service)) := by
  rw [simulate, done, after_bind, after_require]
  simp only [after_bind, after_write, after_forM_writeLine, String.empty_append,
    Text.indented_append]

theorem after_simulate_of_error {deployment : Deployment LocalService}
    {packageName activity : String} {disable stop : Bool} {failure : CommandFailure}
    (failed : simulated meanwhile deployment packageName disable stop activity = .error failure) :
    (simulate meanwhile deployment packageName disable stop activity).after "" =
      (.error failure, "") := by
  rw [simulate, failed, after_bind, after_require]

/-- What is reported is known from a look at the deployment. -/
theorem report_of_poll {now : Deployment LocalService} {configuration : Configuration}
    {packageName : String} {flags : CaptureFlags} {session : Session} {service : LocalService}
    {exchange : Exchange} {journal : List Entry}
    (looked : now.poll 0 =
      attended configuration packageName flags session [] service exchange journal) :
    now.report 0 =
      ((client configuration packageName flags (some session)).report
          (service.identity packageName),
        attended configuration packageName flags session [] service exchange journal) := by
  rw [report, looked]
  rfl

/-- The class that is started: that of the activity, completed by the package if it begins with
a point. -/
def startedClass (packageName activity : String) : String :=
  if activity.toList.head? = some '.' then packageName ++ activity else activity

def IsBlank (text : String) : Prop :=
  ∀ c ∈ text.toList, Text.isBlank c = true

instance (text : String) : Decidable (IsBlank text) :=
  decidable_of_iff (text.toList.all Text.isBlank = true) List.all_eq_true

theorem text_startedToken_ne (component : ComponentName) : (startedToken component).text ≠ "" := by
  intro empty
  have letters := congrArg String.toList empty
  simp [startedToken] at letters

theorem startFault?_of_isBlank {component : ComponentName}
    (blank : IsBlank component.packageName ∨ IsBlank component.className) :
    startFault? (startedToken component) component = some (.invalidComponent component) := by
  apply startFault?_of_blank (text_startedToken_ne component)
  rw [component.isValid_eq_false_iff, Text.trim_eq_nil_iff, Text.trim_eq_nil_iff]
  exact blank

theorem startFault?_of_not_isBlank {component : ComponentName}
    (packaged : ¬ IsBlank component.packageName) (classed : ¬ IsBlank component.className) :
    startFault? (startedToken component) component = none := by
  rw [startFault?_eq_none_iff, IsFaultyStart, Text.trim_eq_nil_iff, Text.trim_eq_nil_iff]
  rintro (empty | blank | blank)
  · exact text_startedToken_ne component empty
  · exact packaged blank
  · exact classed blank

/-- No line says that anything is waited for. -/
theorem not_mem_managerLines (packageName : String) (component : ComponentName)
    (disable stop : Bool) :
    "    waiting for service state" ∉ managerLines packageName component disable stop := by
  simp [managerLines, sessionLines, ← String.toList_inj]

/-- What has happened in the end. -/
theorem simulated_connected (thorough : Thorough meanwhile) (configuration : Configuration)
    {packageName activity : String} {component : ComponentName}
    (named : startedComponent packageName activity = component)
    (proper : startFault? (startedToken component) component = none) (disable stop : Bool) :
    ∃ now, simulated meanwhile (connected configuration packageName) packageName disable stop
        activity = .ok now ∧
      now.service = (if disable then newService configuration
        else informedService configuration packageName (startedToken component) component stop) ∧
      (now.isEnabled 0).1 = !disable ∧
      (now.report 0).1 = managerLines packageName component disable stop ∧
      serviceReport (now.report 0).2.service = serviceLines packageName disable stop := by
  cases disable with
  | false =>
      rcases simulated_enabled thorough configuration named proper stop with
        ⟨now, journal, done, looked⟩
      refine ⟨now, done, congrArg Deployment.service looked, ?_, ?_, ?_⟩
      · rw [isEnabled, looked]
        cases stop <;> rfl
      · rw [report_of_poll looked]
        exact report_client_active configuration packageName component stop
      · rw [report_of_poll looked]
        exact serviceReport_informedService configuration packageName _ component stop
  | true =>
      rcases simulated_disabled configuration named proper stop with ⟨now, done, looked⟩
      refine ⟨now, done, congrArg Deployment.service looked, ?_, ?_, ?_⟩
      · rw [isEnabled, looked]
        cases stop <;> rfl
      · rw [report_of_poll looked]
        exact report_client_off configuration packageName component stop
      · rw [report_of_poll looked]
        exact serviceReport_newService configuration packageName stop

/-- A simulation reports what has happened.  If the app wants capture, the service has one session
of the package, which is active, and finished if it was stopped, and as many batches of events as
there were ends of a cycle; the manager says that it is enabled.  Otherwise the service has
neither session nor events, and the manager says that the app has turned capture off.  Nothing
waits for anything, and the token is that of the component that was started. -/
theorem carryOut_simulate (thorough : Thorough meanwhile) {invocation : Invocation}
    {read : String → Except FileFault ByteArray} {setting : Option ByteArray}
    {configuration : Configuration}
    (loaded : loadConfiguration invocation read setting = .ok configuration)
    (on : configuration.explicitlyEnabled ≠ some false) {disable stop : Bool} {activity : String}
    (command : invocation.command = .simulate disable stop activity) {component : ComponentName}
    (named : component =
      ⟨invocation.packageName, startedClass invocation.packageName activity⟩)
    (packaged : ¬ IsBlank component.packageName) (classed : ¬ IsBlank component.className) :
    ∃ now,
      simulated meanwhile (connected configuration invocation.packageName)
        invocation.packageName disable stop activity = .ok now ∧
      now.service.sessions = (if disable then []
        else [⟨invocation.packageName, ⟨⟨1⟩, ⟨component.shortText ++ "@1"⟩, component, .empty⟩,
          .active, stop⟩]) ∧
      now.service.batches.length = (if disable then 0 else if stop then 2 else 1) ∧
      (now.isEnabled 0).1 = !disable ∧
      "    waiting for service state" ∉
        managerLines invocation.packageName component disable stop ∧
      carryOut meanwhile invocation read setting =
        (.ok (), Text.indented ""
          (managerLines invocation.packageName component disable stop ++
            serviceLines invocation.packageName disable stop)) := by
  have started : startedComponent invocation.packageName activity = component := by
    rw [startedComponent_eq, named, startedClass]
  rcases simulated_connected thorough configuration started
    (startFault?_of_not_isBlank packaged classed) disable stop with
      ⟨now, done, service, enabled, managed, served⟩
  refine ⟨now, done, ?_, ?_, enabled, not_mem_managerLines _ component disable stop, ?_⟩
  · rw [service]
    cases disable <;> rfl
  · rw [service]
    cases disable <;> cases stop <;> rfl
  · rw [carryOut_of_on meanwhile read setting loaded on, command]
    exact (after_simulate done).trans (by rw [managed, served])

/-- A cycle that is stopped, of an activity with a line break in its name. -/
def brokenActivity : Invocation :=
  ⟨0, some "capture.json", "org.example", .simulate false true ".Ma\nin"⟩

theorem carryOut_simulate_brokenActivity :
    ∃ now,
      simulated Deployment.settle (connected ⟨7, some true⟩ "org.example") "org.example" false true
        ".Ma\nin" = .ok now ∧
      now.service.batches.length = 2 ∧ (now.isEnabled 0).1 = true ∧
      carryOut Deployment.settle brokenActivity (fun _ => .ok "[7,true]".toUTF8) none =
        (.ok (),
          "CaptureManager\n" ++
          "  isEnabled(): true\n" ++
          "  Context: CaptureContext(org.example, user=0)\n" ++
          "  User: 0\n" ++
          "  Service: ChannelServiceClient(endpoint=com.example.capture/.CaptureService, " ++
            "caller=org.example)\n" ++
          "  Flags: 0\n" ++
          "  Main session:\n" ++
          "    id: 1\n" ++
          "    lifecycle: destroyed\n" ++
          "    state: ACTIVE (2)\n" ++
          "    disabled: false\n" ++
          "    flags: 0\n" ++
          "    token: org.example/.Ma\nin@1\n" ++
          "    component: org.example/.Ma\nin\n" ++
          "    buffered events: 0\n" ++
          "LocalService\n" ++
          "  Feature enabled: true\n" ++
          "  Session 1: caller=org.example state=ACTIVE (2) finished=true\n" ++
          "  Event batches: 2\n") := by
  have loaded : loadConfiguration brokenActivity (fun _ => .ok "[7,true]".toUTF8) none =
      .ok ⟨7, some true⟩ := by decide +kernel
  rcases carryOut_simulate thorough_settle loaded (by decide) rfl rfl (by decide +kernel)
    (by decide +kernel) with ⟨now, done, -, batches, enabled, -, output⟩
  refine ⟨now, done, batches, enabled, output.trans ?_⟩
  decide +kernel

end CommandLine
end ContentCapture
