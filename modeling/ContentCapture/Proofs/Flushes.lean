import ContentCapture.Proofs.Accounts

namespace ContentCapture

/-!
# Flushes find nothing to send

A session sends an event in the same step that records it, or drops it.  Between
operations its buffer is empty, so that a flush which is asked for by anyone has
nothing to send.  All that is left of it is a look at the answer to the start, and
the look changes something only if the answer is there and was not looked at.

That a session is announced or waits for an answer only while it is started is told
by where it stands.
-/

namespace Session

/-- Nothing of an earlier operation lingers in a session. -/
structure Tidy (session : Session) : Prop where
  buffer : session.buffer = []
  started_of_announced : session.announced = true → session.lifecycle = .started
  started_of_waiting : session.startReply.isSome = true → session.lifecycle = .started
  announced_of_waiting : session.startReply.isSome = true → session.announced = true

theorem Account.tidy {exchange : Exchange} {severed : Bool} {session : Session}
    {cycles : List Cycle} {requests : List Request}
    (account : session.Account exchange severed cycles requests) : session.Tidy := by
  cases account.standing with
  | resting idle unannounced deaf told =>
      exact ⟨account.buffer, by simp [unannounced], by simp [deaf], by simp [deaf]⟩
  | off started unannounced deaf state told off unended =>
      exact ⟨account.buffer, fun _ => started, fun _ => started, by simp [deaf]⟩
  | on started announced told on unended hbody silent informed =>
      exact ⟨account.buffer, fun _ => started, fun _ => started, fun _ => announced⟩

/-- A tidy session that is not started waits for no answer. -/
theorem Tidy.deaf {session : Session} (tidy : session.Tidy) (idle : session.lifecycle ≠ .started) :
    session.startReply = none := by
  rw [← Option.not_isSome_iff_eq_none]
  exact fun waiting => idle (tidy.started_of_waiting waiting)

/-- The answer to the start that has come and was not looked at. -/
def news? (exchange : Exchange) (session : Session) : Option (Except ReplyError Int32) :=
  session.startReply.bind exchange.peek

theorem polled_of_news?_eq_none {exchange : Exchange} {session : Session}
    (none : session.news? exchange = none) : session.polled exchange = session := by
  cases hreply : session.startReply with
  | none => exact polled_of_startReply hreply
  | some channel =>
      have unanswered : exchange.peek channel = .none := by
        simpa [news?, hreply] using none
      simp [polled, hreply, unanswered]

theorem polled_of_news? {exchange : Exchange} {session : Session}
    {answer : Except ReplyError Int32} (news : session.news? exchange = some answer) :
    session.polled exchange = session.informed answer := by
  rcases Option.bind_eq_some_iff.mp news with ⟨channel, reply, found⟩
  exact polled_of_peek reply found

end Session

namespace Deployment

variable {σ : Type}

/-! ## What cannot be heard -/

/-- Nothing happens between two moments but to the managers: nothing is posted, nobody is
asked, no reply channel changes and no time passes. -/
structure Unheard (first second : Deployment σ) : Prop where
  service : second.service = first.service
  exchange : second.exchange = first.exchange
  dispatchers : second.dispatchers = first.dispatchers
  journal : second.journal = first.journal

theorem Unheard.trans {first second third : Deployment σ} (earlier : Unheard first second)
    (later : Unheard second third) : Unheard first third where
  service := later.service.trans earlier.service
  exchange := later.exchange.trans earlier.exchange
  dispatchers := later.dispatchers.trans earlier.dispatchers
  journal := later.journal.trans earlier.journal

theorem unheard_updateSession (deployment : Deployment σ) (owner : Nat)
    (change : Session → Session) : Unheard deployment (deployment.updateSession owner change) :=
  ⟨rfl, rfl, rfl, rfl⟩

theorem unheard_ensureSession (deployment : Deployment σ) (owner : Nat) :
    Unheard deployment (deployment.ensureSession owner) where
  service := service_ensureSession deployment owner
  exchange := exchange_ensureSession deployment owner
  dispatchers := dispatchers_ensureSession deployment owner
  journal := journal_ensureSession deployment owner

/-! ## Looks at the answer to a start -/

def news? (deployment : Deployment σ) (owner : Nat) : Option (Except ReplyError Int32) :=
  (deployment.session? owner).bind fun session => session.news? deployment.exchange

/-- What a look makes of a deployment: nothing new, unless there is news. -/
def informed (deployment : Deployment σ) (owner : Nat) : Deployment σ :=
  match deployment.news? owner with
  | none => deployment
  | some answer => deployment.updateSession owner fun session => session.informed answer

theorem unheard_informed (deployment : Deployment σ) (owner : Nat) :
    Unheard deployment (deployment.informed owner) := by
  unfold informed
  split
  · exact ⟨rfl, rfl, rfl, rfl⟩
  · exact unheard_updateSession deployment owner _

/-- A look changes nothing but what the answer is about, if there is one. -/
theorem poll_eq_informed (deployment : Deployment σ) (owner : Nat) :
    deployment.poll owner = deployment.informed owner := by
  cases hsession : deployment.session? owner with
  | none =>
      rw [informed, news?, hsession]
      exact updateSession_of_absent hsession _
  | some session =>
      have hnews : deployment.news? owner = session.news? deployment.exchange := by
        rw [news?, hsession, Option.bind_some]
      unfold informed
      split
      · next none =>
          exact updateSession_eq_self hsession (Session.polled_of_news?_eq_none (hnews ▸ none))
      · next answer news =>
          exact updateSession_congr hsession (Session.polled_of_news? (hnews ▸ news))

def IsTidy (deployment : Deployment σ) : Prop :=
  ∀ owner session, deployment.session? owner = some session → session.Tidy

theorem IsTidy.ensureSession {deployment : Deployment σ} (tidy : deployment.IsTidy) (owner : Nat) :
    (deployment.ensureSession owner).IsTidy := by
  intro other session hsession
  by_cases own : owner = other
  · subst own
    rcases manager_of_session? hsession with ⟨manager, hmanager, _⟩
    cases hfound : deployment.session? owner with
    | some found =>
        rw [ensureSession_of_session? hfound] at hsession
        exact tidy owner session hsession
    | none =>
        cases hbefore : deployment.managers[owner]? with
        | none =>
            rw [ensureSession_eq_self hbefore] at hsession
            exact tidy owner session hsession
        | some before =>
            have fresh : before.session = none := (session?_of_manager hbefore).symm.trans hfound
            rw [session?_ensureSession hbefore fresh, Option.some_inj] at hsession
            subst hsession
            exact ⟨rfl, by simp, by simp, by simp⟩
  · rw [session?_ensureSession_of_ne deployment own] at hsession
    exact tidy other session hsession

variable [Service σ]

/-! ## Flushes and destructions -/

/-- A flush of a tidy session is a look at the answer to its start. -/
theorem IsTidy.flushSession_eq {deployment : Deployment σ} (tidy : deployment.IsTidy) (owner : Nat)
    (reason : FlushReason) : deployment.flushSession owner reason = deployment.informed owner := by
  unfold flushSession
  split
  · next absent => simp [informed, news?, absent]
  · next session hsession =>
      have own := tidy owner session hsession
      split
      · rw [sendBuffer_eq hsession own.buffer, poll_eq_informed]
      · next idle => simp [informed, news?, hsession, Session.news?, own.deaf idle]

/-- So is a flush of a manager, once its session is made. -/
theorem IsTidy.flush_eq {deployment : Deployment σ} (tidy : deployment.IsTidy) (owner : Nat)
    (reason : FlushReason) :
    deployment.flush owner reason = (deployment.ensureSession owner).informed owner :=
  (tidy.ensureSession owner).flushSession_eq owner reason

/-- The destruction of a session that is not started is a change of its lifecycle. -/
theorem destroySession_eq_of_idle {deployment : Deployment σ} {owner : Nat} {session : Session}
    (hsession : deployment.session? owner = some session) (idle : session.lifecycle ≠ .started) :
    deployment.destroySession owner = deployment.updateSession owner Session.retired := by
  simp [destroySession, hsession, idle]

/-- A session that is made in order to be destroyed is not started. -/
theorem onStop_eq_of_absent {deployment : Deployment σ} {owner : Nat} {manager : Manager}
    (hmanager : deployment.managers[owner]? = some manager) (fresh : manager.session = none) :
    deployment.onStop owner =
      (deployment.ensureSession owner).updateSession owner Session.retired :=
  destroySession_eq_of_idle (session?_ensureSession hmanager fresh) (by simp)

variable [Autonomous σ]

theorem isTidy_follow {deployment : Deployment σ} (fresh : deployment.Fresh)
    (events : List (Event σ)) : (deployment.follow events).IsTidy := by
  intro owner session hsession
  exact ((accounted_follow fresh events owner).present session hsession).tidy

/-- Whatever the service does and however the steps are interleaved, all sessions are tidy
between operations.  A flush with whatever reason is therefore a look at the answer to the
start, which nobody hears, and so is the destruction of a session that is not started. -/
theorem flush_of_follow {deployment : Deployment σ} (fresh : deployment.Fresh)
    (events : List (Event σ)) (owner : Nat) :
    let now := deployment.follow events
    now.IsTidy ∧
      (∀ reason,
        now.flushSession owner reason = now.informed owner ∧
          Unheard now (now.flushSession owner reason) ∧
          now.flush owner reason = (now.ensureSession owner).informed owner ∧
          Unheard now (now.flush owner reason)) ∧
      (∀ session, now.session? owner = some session → session.lifecycle ≠ .started →
        now.destroySession owner = now.updateSession owner Session.retired ∧
          Unheard now (now.destroySession owner) ∧
          now.onStop owner = now.updateSession owner Session.retired ∧
          Unheard now (now.onStop owner)) ∧
      (∀ manager, now.managers[owner]? = some manager → manager.session = none →
        now.onStop owner = (now.ensureSession owner).updateSession owner Session.retired ∧
          Unheard now (now.onStop owner)) := by
  intro now
  have tidy : now.IsTidy := isTidy_follow fresh events
  have ensured := unheard_ensureSession now owner
  refine ⟨tidy, fun reason => ?_, fun session hsession idle => ?_, fun manager hmanager none => ?_⟩
  · rw [tidy.flushSession_eq, tidy.flush_eq]
    exact ⟨rfl, unheard_informed now owner, rfl, ensured.trans (unheard_informed _ owner)⟩
  · rw [onStop, ensureSession_of_session? hsession, destroySession_eq_of_idle hsession idle]
    have unheard := unheard_updateSession now owner Session.retired
    exact ⟨rfl, unheard, rfl, unheard⟩
  · rw [onStop_eq_of_absent hmanager none]
    exact ⟨rfl, ensured.trans (unheard_updateSession _ owner Session.retired)⟩

/-- A session whose start was answered, but which nobody has asked since. -/
def unreadAnswer : List (Event ScriptedService) :=
  [.act (ScriptedAct.cue .startSession ⟨.complete (.ofCode 4), none⟩),
    .operation (.ensureSession 0), .operation (.startSession 0 ⟨"a"⟩ ⟨"p", "A"⟩ .empty),
    .work 0, .work 0]

/-- A session that was made and never started. -/
def idleSession : List (Event ScriptedService) :=
  [.operation (.ensureSession 0)]

theorem flush_of_follow_unreadAnswer :
    let before := solitary ScriptedService.standard
    let waiting := before.follow unreadAnswer
    let idle := before.follow idleSession
    (waiting.news? 0 = some (.ok 4) ∧
      ∀ reason, waiting.flush 0 reason =
        waiting.updateSession 0 (fun session => session.informed (.ok 4)) ∧
          Unheard waiting (waiting.flush 0 reason)) ∧
      Unheard idle (idle.onStop 0) := by
  intro before waiting idle
  have fresh : before.Fresh := fresh_solitary ScriptedService.standard
  have news : waiting.news? 0 = some (.ok 4) := by decide +kernel
  have there : (waiting.session? 0).isSome = true := by decide +kernel
  rcases Option.isSome_iff_exists.mp there with ⟨session, hsession⟩
  have flushed := (flush_of_follow fresh unreadAnswer 0).2.1
  have unstarted : (idle.session? 0).map Session.lifecycle = some .created := by decide +kernel
  rcases Option.map_eq_some_iff.mp unstarted with ⟨made, hmade, created⟩
  have stopped := (flush_of_follow fresh idleSession 0).2.2.1 made hmade (by simp [created])
  refine ⟨⟨news, fun reason => ⟨?_, (flushed reason).2.2.2⟩⟩, stopped.2.2.2⟩
  have looked : waiting.flush 0 reason = (waiting.ensureSession 0).informed 0 :=
    (flushed reason).2.2.1
  rw [looked, ensureSession_of_session? hsession, informed, news]

end Deployment
end ContentCapture
