import ContentCapture.Proofs.Flushes
import ContentCapture.Proofs.Handling
import ContentCapture.Proofs.Lockstep

namespace ContentCapture

/-!
# What a question comes to

A manager that asks the service a question and waits for the answer learns one of a few
things.  Either the service cannot be reached, and then it does not matter what was done
with the reply channel; or the channel has an outcome before the time is up; or it has
none.  What the manager tells the app is decided by that alone.

The manager itself and its session are not touched by a question.  It adds a channel and a
line of the journal, changes the service as the request does, and lets the time pass.  Only
the question for the component looks at the answer to the start first, because a manager
for which capture is off does not ask it.

Between the request and the wait anything may happen.  The channel outlasts it, with the
time that its receiver has.
-/

namespace Channel

/-- The outcome that is there, or comes in time for one who begins to wait now. -/
def inTime? (channel : Channel) (now : Span) : Option Outcome :=
  match channel.outcome, channel.underway with
  | some outcome, _ => some outcome
  | none, none => none
  | none, some (arrival, outcome) =>
      if arrival.nanoseconds ≤ (now.followedBy channel.timeout).nanoseconds then some outcome
      else none

theorem timeout_complete (channel : Channel) (outcome : Outcome) :
    (channel.complete outcome).timeout = channel.timeout := by
  cases decided : channel.outcome <;> simp [complete, decided]

theorem timeout_answered (channel : Channel) (now : Span) (answer : Answer) :
    (channel.answered now answer).timeout = channel.timeout := by
  cases answer with
  | complete outcome => exact channel.timeout_complete outcome
  | later delay outcome => rfl
  | keep => rfl

theorem timeout_reached (channel : Channel) (now : Span) :
    (channel.reached now).timeout = channel.timeout := by
  unfold reached
  split
  · rfl
  · split
    · exact timeout_complete _ _
    · rfl

/-- At the end of a wait the outcome is there that comes in time. -/
theorem outcome_waitEnd (channel : Channel) (now : Span) :
    (channel.reached (channel.waitEnd now)).outcome = channel.inTime? now := by
  cases houtcome : channel.outcome with
  | some outcome => simp [outcome_reached _ houtcome, inTime?, houtcome]
  | none =>
      cases hunderway : channel.underway with
      | none => simp [reached, inTime?, hunderway, houtcome]
      | some arriving =>
          rcases arriving with ⟨arrival, outcome⟩
          have later : now.nanoseconds ≤ (now.followedBy channel.timeout).nanoseconds :=
            Nat.le_add_right _ _
          simp only [waitEnd, inTime?, houtcome, hunderway]
          split
          · next arrived =>
              have inTime := Nat.le_trans arrived later
              simp [reached, hunderway, arrived, inTime, complete, houtcome]
          · split
            · next before =>
                have inTime := Nat.le_of_lt before
                simp [reached, hunderway, inTime, complete, houtcome]
            · by_cases inTime :
                  arrival.nanoseconds ≤ (now.followedBy channel.timeout).nanoseconds
              · simp [reached, hunderway, inTime, complete, houtcome]
              · simp [reached, hunderway, inTime, houtcome]

/-- What a receiver with some time goes away with, given the outcome that came in time. -/
def concluded (timeout : Span) : Option Outcome → Except ReplyError Reply
  | some outcome => outcome.resolve
  | none => .error (.timeout timeout)

theorem conclude_waitEnd (channel : Channel) (now : Span) :
    (channel.reached (channel.waitEnd now)).conclude =
      concluded channel.timeout (channel.inTime? now) := by
  rw [conclude, outcome_waitEnd, timeout_reached]
  cases channel.inTime? now <;> rfl

end Channel

namespace Exchange

/-- The channel that has a number gives its receiver so much time. -/
def Grants (exchange : Exchange) (id : ChannelId) (timeout : Span) : Prop :=
  ∃ channel, exchange.channel? id = some channel ∧ channel.timeout = timeout

variable {exchange : Exchange} {id : ChannelId} {timeout : Span}

theorem Grants.newChannel (grants : exchange.Grants id timeout) (other : Span) :
    (exchange.newChannel other).2.Grants id timeout := by
  rcases grants with ⟨channel, there, own⟩
  exact ⟨channel, channel?_newChannel other there, own⟩

theorem Grants.answerAll (grants : exchange.Grants id timeout)
    (answers : List (ChannelId × Answer)) : (exchange.answerAll answers).Grants id timeout := by
  induction answers generalizing exchange with
  | nil => exact grants
  | cons first rest inductionHypothesis =>
      refine @inductionHypothesis (exchange.answer first.1 first.2) ?_
      rcases grants with ⟨channel, there, own⟩
      rw [Grants, channel?_answer, there]
      refine ⟨_, rfl, ?_⟩
      split
      · exact (channel.timeout_answered exchange.now first.2).trans own
      · exact own

theorem Grants.reached (grants : exchange.Grants id timeout) (now : Span) :
    (exchange.reached now).Grants id timeout := by
  rcases grants with ⟨channel, there, own⟩
  rw [Grants, channel?_reached, there]
  exact ⟨_, rfl, (channel.timeout_reached now).trans own⟩

/-- A new channel has the time that it was made with. -/
theorem grants_newChannel (exchange : Exchange) (timeout : Span) :
    (exchange.newChannel timeout).2.Grants (exchange.newChannel timeout).1 timeout :=
  ⟨{ timeout := timeout }, by simp [channel?, Exchange.newChannel], rfl⟩

end Exchange

namespace Deployment

variable {σ : Type} [Service σ]

/-! ## The channel of a question -/

theorem Handling.grants {hand after : List ChannelId} {first second : Deployment σ}
    {id : ChannelId} {timeout : Span} (step : Handling hand first after second)
    (grants : first.exchange.Grants id timeout) : second.exchange.Grants id timeout := by
  cases step with
  | quiet _ service exchange dispatchers journal =>
      rw [exchange]
      exact grants
  | channel _ other => exact grants.newChannel other
  | ask _ asker envelope => exact grants.answerAll _
  | discard _ request => exact grants.answerAll _
  | enqueue hqueue job => exact grants
  | take hqueue popped => exact grants

/-- A channel outlasts everything that happens. -/
theorem grants_follow [Autonomous σ] {deployment : Deployment σ} {id : ChannelId} {timeout : Span}
    (grants : deployment.exchange.Grants id timeout) (events : List (Event σ)) :
    (deployment.follow events).exchange.Grants id timeout := by
  induction events generalizing deployment with
  | nil => exact grants
  | cons event rest inductionHypothesis =>
      let granting (_ : List ChannelId) (deployment : Deployment σ) : Prop :=
        deployment.exchange.Grants id timeout
      have after : granting [] (deployment.after event) :=
        after_keeps_handling Handling.grants (fun _ _ holds => holds.answerAll _)
          (fun _ now holds => holds.reached now) event grants
      exact inductionHypothesis after

/-- The request that puts a question on behalf of a caller, with the next channel. -/
def questions (deployment : Deployment σ) (caller : String) (question : Question) : Envelope :=
  ⟨caller, question.request deployment.exchange.channels.length⟩

/-- Whether the service can be reached with a question. -/
def reception (deployment : Deployment σ) (caller : String) (question : Question) :
    Except Unreachable Unit :=
  (Service.receive deployment.service (deployment.questions caller question)).result

section

variable {deployment : Deployment σ} {owner : Nat} {manager : Manager}
  (hmanager : deployment.managers[owner]? = some manager) (question : Question)

include hmanager

theorem grants_put :
    (deployment.put owner question).exchange.Grants deployment.exchange.channels.length
      manager.timeout := by
  rw [put_eq hmanager]
  exact (deployment.exchange.grants_newChannel manager.timeout).answerAll _

theorem journal_put :
    (deployment.put owner question).journal =
      deployment.journal ++
        [.asked (some owner) (deployment.questions manager.caller question)
          (deployment.reception manager.caller question)] := by
  rw [put_eq hmanager]
  rfl

theorem issue_eq_put :
    deployment.issue owner manager question.request =
      (((deployment.reception manager.caller question).map
          fun _ => deployment.exchange.channels.length).mapError Failure.unreachable,
        deployment.put owner question) := by
  rw [put_eq hmanager, issue_eq]
  rfl

end

/-! ## What a question changes -/

/-- Between two moments nothing happens to the managers, their sessions and the jobs. -/
structure Untouched (first second : Deployment σ) : Prop where
  managers : second.managers = first.managers
  dispatchers : second.dispatchers = first.dispatchers
  nextSession : second.nextSession = first.nextSession

theorem untouched_put (deployment : Deployment σ) (owner : Nat) (question : Question) :
    Untouched deployment (deployment.put owner question) := by
  cases hmanager : deployment.managers[owner]? with
  | none =>
      rw [put_eq_self hmanager]
      exact ⟨rfl, rfl, rfl⟩
  | some manager =>
      rw [put_eq hmanager]
      exact ⟨rfl, rfl, rfl⟩

variable [Autonomous σ]

/-- What becomes of a question whose answer is waited for after some progress: the service
cannot be reached, or the outcome is found that comes in time, if any. -/
def fate (deployment : Deployment σ) (owner : Nat) (caller : String) (question : Question)
    (progress : List (Event σ)) : Except Unreachable (Option Outcome) :=
  let waiting := ((deployment.put owner question).follow progress).exchange
  (deployment.reception caller question).map fun _ =>
    (waiting.channel? deployment.exchange.channels.length).bind fun channel =>
      channel.inTime? waiting.now

/-- A question, asked at one moment and over at another one, has touched nothing.  If the
service cannot be reached nothing happens besides; otherwise there is some progress, and
the time passes. -/
structure Discreet (owner : Nat) (caller : String) (question : Question)
    (progress : List (Event σ)) (before after : Deployment σ) : Prop where
  asked : Untouched before (before.put owner question)
  journal : (before.put owner question).journal =
    before.journal ++
      [.asked (some owner) (before.questions caller question) (before.reception caller question)]
  refused : ∀ failure, before.reception caller question = .error failure →
    after = before.put owner question
  waited : before.reception caller question = .ok () →
    ∃ now, after =
      { (before.put owner question).follow progress with
        exchange := ((before.put owner question).follow progress).exchange.reached now }

/-- The answer to a question, by its fate and the use that is made of a reply. -/
def learned {α : Type} (timeout : Span) (use : Except ReplyError Reply → Except Failure α)
    (fate : Except Unreachable (Option Outcome)) : Except Failure α :=
  (fate.mapError Failure.unreachable).bind fun outcome => use (Channel.concluded timeout outcome)

/-- The answer to a question and the deployment afterwards, for whatever is made of the
reply. -/
theorem inquire_of_fate {α : Type} {deployment : Deployment σ} {owner : Nat} {manager : Manager}
    (hmanager : deployment.managers[owner]? = some manager) (question : Question)
    (progress : List (Event σ)) {read : Deployment σ → ChannelId → Except Failure α}
    {use : Except ReplyError Reply → Except Failure α}
    (hread : ∀ (deployment : Deployment σ) id channel,
      deployment.exchange.channel? id = some channel → read deployment id = use channel.conclude) :
    let inquiry := deployment.inquire owner manager question.request (·.follow progress) read
    inquiry.1 =
        learned manager.timeout use (deployment.fate owner manager.caller question progress) ∧
      Discreet owner manager.caller question progress deployment inquiry.2 := by
  intro inquiry
  have journal := journal_put hmanager question
  have asked := deployment.untouched_put owner question
  let waiting := (deployment.put owner question).follow progress
  let id := deployment.exchange.channels.length
  cases hreception : deployment.reception manager.caller question with
  | error failure =>
      have hinquiry : inquiry =
          (.error (.unreachable failure), deployment.put owner question) := by
        simp only [inquiry, inquire, issue_eq_put hmanager, hreception]
        rfl
      rw [hinquiry]
      refine ⟨?_, asked, journal, fun _ _ => rfl, fun reached => ?_⟩
      · rw [fate, hreception]
        rfl
      · rw [hreception] at reached
        cases reached
  | ok _ =>
      have hinquiry : inquiry = (read (waiting.await id) id, waiting.await id) := by
        simp only [inquiry, inquire, issue_eq_put hmanager, hreception]
        rfl
      rcases grants_follow (grants_put hmanager question) progress with ⟨channel, there, granted⟩
      have hwaiting : waiting.exchange.channel? id = some channel := there
      have hawait : waiting.exchange.await id =
          waiting.exchange.reached (channel.waitEnd waiting.exchange.now) := by
        rw [Exchange.await, hwaiting]
      have hend : (waiting.await id).exchange.channel? id =
          some (channel.reached (channel.waitEnd waiting.exchange.now)) := by
        rw [await, hawait, Exchange.channel?_reached, hwaiting]
        rfl
      have hfate : deployment.fate owner manager.caller question progress =
          .ok (channel.inTime? waiting.exchange.now) := by
        have found := congrArg
          (fun found : Option Channel => found.bind fun channel =>
            channel.inTime? waiting.exchange.now) hwaiting
        rw [fate, hreception]
        exact congrArg Except.ok found
      rw [hinquiry]
      refine ⟨?_, asked, journal, fun failure refused => ?_, fun _ => ?_⟩
      · rw [hread _ _ _ hend, Channel.conclude_waitEnd, granted, hfate]
        rfl
      · rw [hreception] at refused
        cases refused
      · exact ⟨_, congrArg (fun exchange => { waiting with exchange := exchange }) hawait⟩

theorem Discreet.untouched {owner : Nat} {caller : String} {question : Question}
    {before after : Deployment σ} (discreet : Discreet owner caller question [] before after) :
    Untouched before after := by
  cases hreception : before.reception caller question with
  | error failure =>
      rw [discreet.refused failure hreception]
      exact discreet.asked
  | ok _ =>
      rcases discreet.waited hreception with ⟨now, same⟩
      rw [same]
      exact ⟨discreet.asked.managers, discreet.asked.dispatchers, discreet.asked.nextSession⟩

/-! ## What a question comes to -/

/-- How a question ends that gets no reply: the service cannot be reached, it fails, it
cannot write its reply, it drops the channel, or the time is up. -/
structure Missed {α : Type} (timeout : Span) (fate : Except Unreachable (Option Outcome))
    (answer : Except Failure α) : Prop where
  unreachable : ∀ failure, fate = .error failure → answer = .error (.unreachable failure)
  failed : ∀ message, fate = .ok (some (.failed message)) → answer = .error (.remote message)
  unencodable : ∀ complaint, fate = .ok (some (.unencodable complaint)) →
    answer = .error (.remote ("failed to encode reply: " ++ complaint.message))
  abandoned : fate = .ok (some .abandoned) →
    answer = .error (.remote "reply sink dropped without a result")
  late : fate = .ok none → answer = .error (.timeout timeout)

/-- How a question about the feature ends.  Of a reply the number counts, whatever comes
with it. -/
structure Judged (timeout : Span) (fate : Except Unreachable (Option Outcome))
    (answer : Except Failure Bool) : Prop extends Missed timeout fate answer where
  affirmed : ∀ payload, fate = .ok (some (.reply ⟨1, payload⟩)) → answer = .ok true
  denied : ∀ payload, fate = .ok (some (.reply ⟨2, payload⟩)) → answer = .ok false
  notService : ∀ payload, fate = .ok (some (.reply ⟨-1, payload⟩)) → answer = .error .notService
  invalid : ∀ code payload, code ≠ 1 → code ≠ 2 → code ≠ -1 →
    fate = .ok (some (.reply ⟨code, payload⟩)) → answer = .error (.invalidResult code)

/-- How the question for the component ends.  Of a reply the payload counts, whatever the
number. -/
structure Named (timeout : Span) (fate : Except Unreachable (Option Outcome))
    (answer : Except Failure (Option ComponentName)) : Prop extends
    Missed timeout fate answer where
  bare : ∀ code, fate = .ok (some (.reply ⟨code, none⟩)) → answer = .ok none
  null : ∀ code, fate = .ok (some (.reply ⟨code, some .null⟩)) → answer = .ok none
  named : ∀ code payload component, payload.isNull = false →
    WireForm.decode? payload = some component →
      fate = .ok (some (.reply ⟨code, some payload⟩)) → answer = .ok (some component)
  undecodable : ∀ code payload, payload.isNull = false →
    (WireForm.decode? payload : Option ComponentName) = none →
      fate = .ok (some (.reply ⟨code, some payload⟩)) → answer = .error .undecodable

omit [Autonomous σ] [Service σ] in
/-- Without a reply it does not matter what would be made of it. -/
theorem missed_learned {α : Type} {use : Except ReplyError Reply → Except Failure α}
    (huse : ∀ failure, use (.error failure) = .error (.ofReplyError failure)) (timeout : Span)
    (fate : Except Unreachable (Option Outcome)) :
    Missed timeout fate (learned timeout use fate) where
  unreachable := by
    rintro failure rfl
    rfl
  failed := by
    rintro message rfl
    exact huse (.remote message)
  unencodable := by
    rintro complaint rfl
    exact huse (.remote ("failed to encode reply: " ++ complaint.message))
  abandoned := by
    rintro rfl
    exact huse (.remote "reply sink dropped without a result")
  late := by
    rintro rfl
    exact huse (.timeout timeout)

/-- What is made of a reply to a question about the feature. -/
def useCode (reply : Except ReplyError Reply) : Except Failure Bool :=
  ((reply.map Reply.code).mapError Failure.ofReplyError).bind verdict

/-- What is made of a reply to the question for the component. -/
def usePayload (reply : Except ReplyError Reply) : Except Failure (Option ComponentName) :=
  (reply.bind fun reply => reply.payloadAs ComponentName).mapError Failure.ofReplyError

theorem judged_learned (timeout : Span) (fate : Except Unreachable (Option Outcome)) :
    Judged timeout fate (learned timeout useCode fate) where
  toMissed := missed_learned (fun _ => rfl) timeout fate
  affirmed := by
    rintro payload rfl
    rfl
  denied := by
    rintro payload rfl
    rfl
  notService := by
    rintro payload rfl
    rfl
  invalid := by
    rintro code payload affirmed denied notService rfl
    change verdict code = _
    simp [verdict, ResultCode.ofCode, affirmed, denied, notService]

theorem named_learned (timeout : Span) (fate : Except Unreachable (Option Outcome)) :
    Named timeout fate (learned timeout usePayload fate) where
  toMissed := missed_learned (fun _ => rfl) timeout fate
  bare := by
    rintro code rfl
    rfl
  null := by
    rintro code rfl
    rfl
  named := by
    rintro code payload component written decoded rfl
    change Except.mapError Failure.ofReplyError (Reply.payloadAs ComponentName ⟨code, payload⟩) = _
    simp [Reply.payloadAs, written, decoded, Except.mapError]
  undecodable := by
    rintro code payload written undecoded rfl
    change Except.mapError Failure.ofReplyError (Reply.payloadAs ComponentName ⟨code, payload⟩) = _
    simp [Reply.payloadAs, written, undecoded, Except.mapError, Failure.ofReplyError]

theorem judged_inquire {deployment : Deployment σ} {owner : Nat} {manager : Manager}
    (hmanager : deployment.managers[owner]? = some manager) (question : Question)
    (progress : List (Event σ)) :
    let inquiry :=
      deployment.inquire owner manager question.request (·.follow progress) answerOf
    Judged manager.timeout (deployment.fate owner manager.caller question progress) inquiry.1 ∧
      Discreet owner manager.caller question progress deployment inquiry.2 := by
  have hcode : ∀ (deployment : Deployment σ) id channel,
      deployment.exchange.channel? id = some channel →
        answerOf deployment id = useCode channel.conclude := by
    intro deployment id channel there
    rw [answerOf, there]
    rfl
  rcases inquire_of_fate hmanager question progress hcode with ⟨same, discreet⟩
  refine ⟨?_, discreet⟩
  rw [same]
  exact judged_learned _ _

theorem named_inquire {deployment : Deployment σ} {owner : Nat} {manager : Manager}
    (hmanager : deployment.managers[owner]? = some manager) (question : Question)
    (progress : List (Event σ)) :
    let inquiry :=
      deployment.inquire owner manager question.request (·.follow progress) payloadOf
    Named manager.timeout (deployment.fate owner manager.caller question progress) inquiry.1 ∧
      Discreet owner manager.caller question progress deployment inquiry.2 := by
  have hpayload : ∀ (deployment : Deployment σ) id channel,
      deployment.exchange.channel? id = some channel →
        payloadOf deployment id = usePayload channel.conclude := by
    intro deployment id channel there
    rw [payloadOf, there]
    rfl
  rcases inquire_of_fate hmanager question progress hpayload with ⟨same, discreet⟩
  refine ⟨?_, discreet⟩
  rw [same]
  exact named_learned _ _

omit [Autonomous σ] [Service σ] in
/-- A look leaves the manager as it was but for its session. -/
theorem exists_looker {deployment : Deployment σ} {owner : Nat} {manager : Manager}
    (hmanager : deployment.managers[owner]? = some manager) :
    ∃ looker, (deployment.poll owner).managers[owner]? = some looker ∧
      looker.caller = manager.caller ∧ looker.timeout = manager.timeout := by
  refine ⟨manager.withSession fun session => session.polled deployment.exchange, ?_, rfl, rfl⟩
  simp [poll, updateSession, updateManager, hmanager]

/-- Whatever state a deployment is in and whatever the service does, what a manager tells the
app that asks a question is decided by whether the service can be reached, and then by what
becomes of the reply channel in time.  No question touches the manager.  Before it is asked
for the component the manager looks at the answer to the start, and if capture is off it
asks nothing. -/
theorem answers_of_fate {deployment : Deployment σ} {owner : Nat} {manager : Manager}
    (hmanager : deployment.managers[owner]? = some manager) (progress : List (Event σ)) :
    (let answer := deployment.isFeatureEnabled owner (·.follow progress)
     Judged manager.timeout
         (deployment.fate owner manager.caller .featureEnabled progress) answer.1 ∧
       Discreet owner manager.caller .featureEnabled progress deployment answer.2) ∧
      (∀ enabled,
        let answer := deployment.setFeatureEnabled owner enabled (·.follow progress)
        Judged manager.timeout
            (deployment.fate owner manager.caller (.setFeatureEnabled enabled) progress) answer.1 ∧
          Discreet owner manager.caller (.setFeatureEnabled enabled) progress deployment
            answer.2) ∧
      (let looked := deployment.informed owner
       let answer := deployment.serviceComponentName owner (·.follow progress)
       Unheard deployment looked ∧
         ((deployment.isEnabled owner).1 = false → answer = (.ok none, looked)) ∧
         ((deployment.isEnabled owner).1 = true →
           Named manager.timeout
               (looked.fate owner manager.caller .serviceComponentName progress) answer.1 ∧
             Discreet owner manager.caller .serviceComponentName progress looked answer.2)) := by
  refine ⟨?_, fun enabled => ?_, ?_⟩
  · simp only [isFeatureEnabled, hmanager]
    exact judged_inquire hmanager .featureEnabled progress
  · simp only [setFeatureEnabled, hmanager]
    exact judged_inquire hmanager (.setFeatureEnabled enabled) progress
  · rcases exists_looker hmanager with ⟨looker, hlooker, caller, timeout⟩
    have inquired := named_inquire hlooker .serviceComponentName progress
    have hlooked : (deployment.isEnabled owner).2 = deployment.poll owner := rfl
    have unheard := deployment.unheard_informed owner
    rw [caller, timeout] at inquired
    rw [← poll_eq_informed] at unheard ⊢
    refine ⟨unheard, fun off => ?_, fun enabled => ?_⟩
    · simp only [serviceComponentName, hlooked, hlooker, off]
      rfl
    · simp only [serviceComponentName, hlooked, hlooker, enabled, if_true]
      exact inquired

/-- A manager that gives the service ten nanoseconds to answer. -/
def tenNanoseconds : Deployment ScriptedService :=
  { solitary ScriptedService.standard with
    managers := [⟨⟨"com.example.notes", 0⟩, "com.example.notes", ⟨10⟩, 0, .empty, none⟩] }

/-- A service that answers one question at the last moment, keeps the channel of another
one, and names something that is no component. -/
def quirks : List (Event ScriptedService) :=
  [.act (ScriptedAct.cue .featureEnabled ⟨.later ⟨10⟩ (.reply ⟨7, some .null⟩), none⟩),
    .act (ScriptedAct.cue .setFeatureEnabled ⟨.keep, none⟩),
    .act (ScriptedAct.cue .serviceComponentName ⟨.complete (.ofPayload (.bool true)), none⟩)]

theorem answers_of_fate_quirks :
    let now := tenNanoseconds.follow quirks
    (now.isFeatureEnabled 0 id).1 = .error (.invalidResult 7) ∧
      (now.setFeatureEnabled 0 true id).1 = .error (.timeout ⟨10⟩) ∧
      (now.setFeatureEnabled 0 true (·.acted (ScriptedAct.answer 0 (.complete .abandoned)))).1 =
        .error (.remote "reply sink dropped without a result") ∧
      (now.serviceComponentName 0 id).1 = .error .undecodable ∧
      (now.setFeatureEnabled 0 true id).2.managers = now.managers := by
  intro now
  have hmanager : now.managers[0]? = tenNanoseconds.managers[0]? := rfl
  rcases answers_of_fate hmanager [] with ⟨⟨asked, -⟩, set, component⟩
  rcases answers_of_fate hmanager [.act (ScriptedAct.answer 0 (.complete .abandoned))] with
    ⟨-, dropped, -⟩
  refine ⟨?_, ?_, ?_, ?_, ?_⟩
  · exact asked.invalid 7 (some .null) (by decide) (by decide) (by decide) (by rfl)
  · exact (set true).1.late (by rfl)
  · exact (dropped true).1.abandoned (by rfl)
  · have enabled : (now.isEnabled 0).1 = true := by rfl
    exact (component.2.2 enabled).1.undecodable 1 (.bool true) (by rfl) (by rfl) (by rfl)
  · exact (set true).2.untouched.managers

end Deployment
end ContentCapture
