import ContentCapture.Deployment.Local
import ContentCapture.Deployment.Scripted

namespace ContentCapture

/-!
# Runs

A run is a sequence of events, each of which is one atomic step of a deployment:
an operation on a manager or its session, a dispatcher running its next job,
something that the service does on its own, or the passing of time.  Nothing is
said about their order.

A blocking question is no single event.  It is asked, then anything may happen,
and then its channel is waited for, which takes time and changes nothing else.

What a service does on its own is described by a class, as what it does with a
request is.  A service that may do anything whatsoever is an instance of it, and
so are the local service with its loop and the scripted service.
-/

/-! ## Operations -/

/-- What a manager asks the service and waits for. -/
inductive Question where
  | serviceComponentName
  | featureEnabled
  | setFeatureEnabled (enabled : Bool)
  deriving DecidableEq, Repr

/-- The request that puts a question, with the channel for the answer. -/
def Question.request : Question → ChannelId → Request
  | .serviceComponentName => .serviceComponentName
  | .featureEnabled => .featureEnabled
  | .setFeatureEnabled enabled => .setFeatureEnabled enabled

/-- What can be done to a manager and its session. -/
inductive Operation where
  /-- A manager is made, with a connection of its own. -/
  | join (context : CaptureContext) (caller : String) (timeout : Span) (dispatcher : Nat)
  | ensureSession (owner : Nat)
  | onStart (owner : Nat) (token : ActivityToken) (component : ComponentName)
      (flags : CaptureFlags)
  | onStop (owner : Nat)
  | flush (owner : Nat) (reason : FlushReason)
  | setEnabled (owner : Nat) (enabled : Bool)
  | removeUserData (owner : Nat) (removal : RemovalRequest)
  | ask (owner : Nat) (question : Question)
  | isEnabled (owner : Nat)
  | report (owner : Nat)
  | observeSession (owner : Nat)
  | sessionReport (owner : Nat)
  | startSession (owner : Nat) (token : ActivityToken) (component : ComponentName)
      (flags : CaptureFlags)
  | flushSession (owner : Nat) (reason : FlushReason)
  | destroySession (owner : Nat)
  deriving DecidableEq, Repr

namespace Deployment

variable {σ : Type} [Service σ]

/-- Puts a question to the service, with a channel of its own. -/
def put (deployment : Deployment σ) (owner : Nat) (question : Question) : Deployment σ :=
  match deployment.managers[owner]? with
  | none => deployment
  | some manager => (deployment.issue owner manager question.request).2

/-- Asks a question.  The component is not asked for while capture is off. -/
def asking (deployment : Deployment σ) (owner : Nat) : Question → Deployment σ
  | .serviceComponentName =>
      let (enabled, deployment) := deployment.isEnabled owner
      if enabled then deployment.put owner .serviceComponentName else deployment
  | question => deployment.put owner question

def perform (deployment : Deployment σ) : Operation → Deployment σ
  | .join context caller timeout dispatcher =>
      deployment.addManager
        { context := context, caller := caller, timeout := timeout, dispatcher := dispatcher }
  | .ensureSession owner => deployment.ensureSession owner
  | .onStart owner token component flags => (deployment.onStart owner token component flags).2
  | .onStop owner => deployment.onStop owner
  | .flush owner reason => deployment.flush owner reason
  | .setEnabled owner enabled => deployment.setEnabled owner enabled
  | .removeUserData owner removal => (deployment.removeUserData owner removal).2
  | .ask owner question => deployment.asking owner question
  | .isEnabled owner => (deployment.isEnabled owner).2
  | .report owner => (deployment.report owner).2
  | .observeSession owner => (deployment.observeSession owner).2
  | .sessionReport owner => (deployment.sessionReport owner).2
  | .startSession owner token component flags =>
      deployment.startSession owner token component flags
  | .flushSession owner reason => deployment.flushSession owner reason
  | .destroySession owner => deployment.destroySession owner

end Deployment

/-! ## What a service does on its own -/

/-- What a service in a state of type `σ` may do on its own. -/
class Autonomous (σ : Type) where
  /-- The things that it may do. -/
  Act : Type
  /-- The service afterwards, and what it has done with reply channels. -/
  act : σ → Act → σ × List (ChannelId × Answer)

/-- What the loop of a local service does. -/
inductive LocalAct where
  /-- It works off its next request. -/
  | serve
  /-- It stops. -/
  | stop
  deriving DecidableEq, Repr

instance : Autonomous LocalService where
  Act := LocalAct
  act service
    | .serve =>
        match service.inbox with
        | [] => (service, [])
        | envelope :: rest =>
            let (service, decided) := { service with inbox := rest }.workOff envelope
            (service, decided.toList.map fun (channel, outcome) => (channel, .complete outcome))
    | .stop =>
        (service.stopped, service.held.map fun channel => (channel, .complete .abandoned))

/-- What happens to a scripted service from outside. -/
inductive ScriptedAct where
  /-- Its script is changed. -/
  | cue (method : Method) (cue : Cue)
  /-- A parked channel is used. -/
  | answer (index : Nat) (answer : Answer)

instance : Autonomous ScriptedService where
  Act := ScriptedAct
  act service
    | .cue method cue => (service.cued method cue, [])
    | .answer index answer =>
        match service.release? index with
        | none => (service, [])
        | some (channel, released) =>
            match answer with
            | .keep =>
                ({ released with parked := released.parked ++ [some channel] }, [(channel, .keep)])
            | answer => (released, [(channel, answer)])

/-! ## Events -/

/-- One step of a run. -/
inductive Event (σ : Type) [Autonomous σ] where
  | operation (operation : Operation)
  /-- A dispatcher runs its next job. -/
  | work (dispatcher : Nat)
  /-- The service does something on its own. -/
  | act (act : Autonomous.Act σ)
  /-- The time is another one. -/
  | elapse (now : Span)

namespace Deployment

/-- A deployment in which nothing has happened yet.  The managers have no session,
and the dispatchers no jobs. -/
structure Fresh {σ : Type} (deployment : Deployment σ) : Prop where
  sessions : ∀ manager ∈ deployment.managers, manager.session = none
  jobs : ∀ dispatcher ∈ deployment.dispatchers, dispatcher.jobs = []
  channels : deployment.exchange.channels = []
  journal : deployment.journal = []

theorem Fresh.session?_eq_none {σ : Type} {deployment : Deployment σ} (fresh : deployment.Fresh)
    (owner : Nat) : deployment.session? owner = none := by
  cases hmanager : deployment.managers[owner]? with
  | none => simp [session?, hmanager]
  | some manager =>
      have none := fresh.sessions manager (List.mem_of_getElem? hmanager)
      simp [session?, hmanager, none]

variable {σ : Type} [Autonomous σ]

/-- The deployment after its service did something on its own. -/
def acted (deployment : Deployment σ) (act : Autonomous.Act σ) : Deployment σ :=
  let (service, answers) := Autonomous.act deployment.service act
  { deployment with service := service }.answerAll answers

variable [Service σ]

def after (deployment : Deployment σ) : Event σ → Deployment σ
  | .operation operation => deployment.perform operation
  | .work dispatcher => deployment.work dispatcher
  | .act act => deployment.acted act
  | .elapse now => { deployment with exchange := deployment.exchange.reached now }

def follow (deployment : Deployment σ) (events : List (Event σ)) : Deployment σ :=
  events.foldl after deployment

@[simp] theorem follow_nil (deployment : Deployment σ) : deployment.follow [] = deployment := rfl

theorem follow_append (deployment : Deployment σ) (first second : List (Event σ)) :
    deployment.follow (first ++ second) = (deployment.follow first).follow second :=
  List.foldl_append

theorem follow_concat (deployment : Deployment σ) (events : List (Event σ)) (event : Event σ) :
    deployment.follow (events ++ [event]) = (deployment.follow events).after event := by
  rw [follow_append]
  rfl

/-- What every event keeps is kept by a run. -/
theorem follow_keeps {property : Deployment σ → Prop}
    (after : ∀ deployment event, property deployment → property (deployment.after event))
    {deployment : Deployment σ} (holds : property deployment) (events : List (Event σ)) :
    property (deployment.follow events) := by
  induction events generalizing deployment with
  | nil => exact holds
  | cons event rest inductionHypothesis => exact inductionHypothesis (after deployment event holds)

/-! ## The steps of the two kinds of services -/

@[simp] theorem answerAll_nil {σ : Type} (deployment : Deployment σ) :
    deployment.answerAll [] = deployment := rfl

theorem answerAll_cons {σ : Type} (deployment : Deployment σ) (channel : ChannelId)
    (answer : Answer) (answers : List (ChannelId × Answer)) :
    deployment.answerAll ((channel, answer) :: answers) =
      (deployment.answer channel answer).answerAll answers := rfl

omit [Autonomous σ] [Service σ] in
theorem foldl_complete (deployment : Deployment σ) (outcome : Outcome)
    (channels : List ChannelId) :
    channels.foldl (fun deployment channel => deployment.complete channel outcome) deployment =
      deployment.answerAll (channels.map fun channel => (channel, .complete outcome)) := by
  induction channels generalizing deployment with
  | nil => rfl
  | cons channel rest inductionHypothesis =>
      rw [List.foldl_cons, List.map_cons, answerAll_cons]
      exact inductionHypothesis (deployment.complete channel outcome)

/-- The loop of a local service that works off a request is an act of it. -/
theorem acted_serve (deployment : Deployment LocalService) :
    deployment.acted LocalAct.serve = deployment.serve := by
  cases hinbox : deployment.service.inbox with
  | nil => simp [acted, Autonomous.act, serve, hinbox]
  | cons envelope rest =>
      cases hdecided : ({ deployment.service with inbox := rest }.workOff envelope).2 with
      | none => simp [acted, Autonomous.act, serve, hinbox, hdecided]
      | some decided =>
          simp [acted, Autonomous.act, serve, hinbox, hdecided, answerAll_cons, complete]

/-- So is the end of the loop. -/
theorem acted_stop (deployment : Deployment LocalService) :
    deployment.acted LocalAct.stop = deployment.stop := by
  rw [stop, foldl_complete]
  rfl

/-- Another cue for a scripted service is an act of it. -/
theorem acted_cue (deployment : Deployment ScriptedService) (method : Method) (cue : Cue) :
    deployment.acted (ScriptedAct.cue method cue) = deployment.cue method cue := rfl

/-- So is the use of a channel that it has parked. -/
theorem acted_answer {deployment used : Deployment ScriptedService} {index : Nat} {answer : Answer}
    (h : deployment.answerParked? index answer = some used) :
    deployment.acted (ScriptedAct.answer index answer) = used := by
  cases hreleased : deployment.service.release? index with
  | none => simp [answerParked?, hreleased] at h
  | some released =>
      cases answer <;> simp [answerParked?, hreleased] at h <;> subst h <;>
        simp [acted, Autonomous.act, hreleased, answerAll_cons]

/-! ## Blocking questions are runs -/

/-- The wait for a channel is the passing of time. -/
theorem await_eq (deployment : Deployment σ) (channel : ChannelId) :
    ∃ events : List (Event σ), deployment.await channel = deployment.follow events := by
  cases hchannel : deployment.exchange.channel? channel with
  | none => exact ⟨[], by simp [await, Exchange.await, hchannel]⟩
  | some awaited =>
      refine ⟨[.elapse (awaited.waitEnd deployment.exchange.now)], ?_⟩
      simp [await, Exchange.await, hchannel, follow, after]

/-- A question that is asked and waited for is a run, if what happens meanwhile
is. -/
theorem inquire_eq {α : Type} (deployment : Deployment σ) (owner : Nat) {manager : Manager}
    (hmanager : deployment.managers[owner]? = some manager) (question : Question)
    (meanwhile : List (Event σ)) (read : Deployment σ → ChannelId → Except Failure α) :
    ∃ events : List (Event σ),
      (deployment.inquire owner manager question.request (·.follow meanwhile) read).2 =
        (deployment.put owner question).follow events := by
  have hput : deployment.put owner question =
      (deployment.issue owner manager question.request).2 := by simp [put, hmanager]
  rw [hput, inquire]
  cases hissued : deployment.issue owner manager question.request with
  | mk result issued =>
      cases result with
      | error failure => exact ⟨[], rfl⟩
      | ok channel =>
          rcases (issued.follow meanwhile).await_eq channel with ⟨events, hevents⟩
          exact ⟨meanwhile ++ events, by rw [follow_append, ← hevents]⟩

theorem isFeatureEnabled_eq (deployment : Deployment σ) (owner : Nat)
    (meanwhile : List (Event σ)) :
    ∃ events : List (Event σ),
      (deployment.isFeatureEnabled owner (·.follow meanwhile)).2 = deployment.follow events := by
  cases hmanager : deployment.managers[owner]? with
  | none => exact ⟨[], by simp [isFeatureEnabled, hmanager]⟩
  | some manager =>
      obtain ⟨events, hevents⟩ :=
        deployment.inquire_eq owner hmanager .featureEnabled meanwhile answerOf
      refine ⟨.operation (.ask owner .featureEnabled) :: events, ?_⟩
      simp only [isFeatureEnabled, hmanager]
      exact hevents

theorem setFeatureEnabled_eq (deployment : Deployment σ) (owner : Nat) (enabled : Bool)
    (meanwhile : List (Event σ)) :
    ∃ events : List (Event σ),
      (deployment.setFeatureEnabled owner enabled (·.follow meanwhile)).2 =
        deployment.follow events := by
  cases hmanager : deployment.managers[owner]? with
  | none => exact ⟨[], by simp [setFeatureEnabled, hmanager]⟩
  | some manager =>
      obtain ⟨events, hevents⟩ :=
        deployment.inquire_eq owner hmanager (.setFeatureEnabled enabled) meanwhile answerOf
      refine ⟨.operation (.ask owner (.setFeatureEnabled enabled)) :: events, ?_⟩
      simp only [setFeatureEnabled, hmanager]
      exact hevents

theorem serviceComponentName_eq (deployment : Deployment σ) (owner : Nat)
    (meanwhile : List (Event σ)) :
    ∃ events : List (Event σ),
      (deployment.serviceComponentName owner (·.follow meanwhile)).2 =
        deployment.follow events := by
  cases hobserved : deployment.isEnabled owner with
  | mk enabled observed =>
      have hask : deployment.perform (.ask owner .serviceComponentName) =
          if enabled then observed.put owner .serviceComponentName else observed := by
        simp [perform, asking, hobserved]
      cases hmanager : observed.managers[owner]? with
      | none =>
          refine ⟨[.operation (.ask owner .serviceComponentName)], ?_⟩
          simp [serviceComponentName, hobserved, hmanager, follow, after, hask, put]
      | some manager =>
          cases enabled with
          | false =>
              refine ⟨[.operation (.ask owner .serviceComponentName)], ?_⟩
              simp [serviceComponentName, hobserved, hmanager, follow, after, hask]
          | true =>
              obtain ⟨events, hevents⟩ :=
                observed.inquire_eq owner hmanager .serviceComponentName meanwhile payloadOf
              refine ⟨.operation (.ask owner .serviceComponentName) :: events, ?_⟩
              simp only [serviceComponentName, hobserved, hmanager, follow, List.foldl_cons, after,
                hask]
              exact hevents

end Deployment
end ContentCapture
