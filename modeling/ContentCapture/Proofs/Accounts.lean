import ContentCapture.Proofs.Turns

namespace ContentCapture

/-!
# Sessions keep their accounts

Between operations every session of a deployment accounts for its cycles and for
what it has posted.  An event concerns one session, and what that session does is
told here by what it makes of itself and what it posts.  To all others it is a
sequel in which they post nothing.
-/

namespace Deployment

variable {σ : Type}

/-! ## Accounts -/

/-- The session of a manager, if there is one, accounts for some cycles. -/
structure Accounted (deployment : Deployment σ) (owner : Nat) (cycles : List Cycle) : Prop where
  absent : deployment.session? owner = none → cycles = []
  present : ∀ session, deployment.session? owner = some session →
    session.Account deployment.exchange (deployment.isSevered owner) cycles
      (deployment.posts owner)

namespace Accounted

variable {deployment later : Deployment σ} {owner : Nat} {cycles : List Cycle}

theorem of_session? {session : Session} (h : deployment.session? owner = some session)
    (account : session.Account deployment.exchange (deployment.isSevered owner) cycles
      (deployment.posts owner)) : Accounted deployment owner cycles where
  absent := by simp [h]
  present := by
    intro other hother
    rw [h] at hother
    cases hother
    exact account

theorem sequel (accounted : Accounted deployment owner cycles)
    (sequel : Sequel owner [] deployment later) : Accounted later owner cycles := by
  rcases sequel.session with ⟨cut, hcut, hsevered⟩
  have posts := sequel.posts
  rw [List.append_nil] at posts
  cases hsession : deployment.session? owner with
  | none =>
      rw [hsession] at hcut
      exact ⟨fun _ => accounted.absent hsession, by simp [hcut]⟩
  | some session =>
      rw [hsession] at hcut
      apply of_session? hcut
      rw [hsevered, posts]
      exact ((accounted.present session hsession).cutOffIf cut).precedes sequel.precedes

theorem poll (accounted : Accounted deployment owner cycles) :
    Accounted (deployment.poll owner) owner cycles := by
  have hpolled := session?_poll deployment owner
  cases hsession : deployment.session? owner with
  | none =>
      rw [hsession] at hpolled
      exact ⟨fun _ => accounted.absent hsession, by simp [hpolled]⟩
  | some session =>
      rw [hsession] at hpolled
      exact of_session? hpolled (accounted.present session hsession).polled

end Accounted

variable [Service σ]

/-! ## Turns -/

namespace Accounted

variable {deployment : Deployment σ} {owner : Nat} {cycles : List Cycle}

/-- A cycle begins for which the service is asked. -/
theorem announce (accounted : Accounted deployment owner cycles) {manager : Manager}
    {session : Session} (hmanager : deployment.managers[owner]? = some manager)
    (hsession : manager.session = some session) (idle : session.lifecycle ≠ .started)
    (token : ActivityToken) (component : ComponentName) {flags : CaptureFlags}
    (enabling : flags.isDisabling = false) :
    Accounted (deployment.announce owner manager session token component flags) owner
      (cycles ++ [⟨token, component, flags, none⟩]) := by
  have account := accounted.present session ((session?_of_manager hmanager).trans hsession)
  let channel := (deployment.newChannel manager.timeout).1
  let start : SessionStart := ⟨session.id, token, component, flags⟩
  let began := deployment.began owner manager session token component flags
  obtain ⟨cut, hnow, severed, posts⟩ := exists_began hmanager hsession token component flags
  let now := (session.opened token component flags channel).cutOffIf cut
  change began.session? owner = some now at hnow
  change began.isSevered owner = cut at severed
  change began.posts owner = deployment.posts owner ++ [.startSession start channel] at posts
  have hpolled : (began.poll owner).session? owner = some (now.polled began.exchange) :=
    (session?_poll began owner).trans (congrArg (Option.map _) hnow)
  rw [announce_eq, sendEvent_eq hnow rfl]
  split
  · next disabled =>
      apply of_session? hpolled
      change Session.Account began.exchange (began.isSevered owner) _ _ (began.posts owner)
      rw [severed, posts]
      exact account.begun idle token component enabling channel cut .silent fun _ => disabled
  · -- The session speaks, and is where it would be had it spoken before it looked.
    let request := start.startedRequest began.exchange.now.milliseconds
    have spoken : Session.Account began.exchange cut (now.polled began.exchange)
        (cycles ++ [⟨token, component, flags, none⟩])
        (deployment.posts owner ++ [.startSession start channel, request]) :=
      account.begun idle token component enabling channel cut (.started _) (by simp)
    have sequel : Sequel owner [request] (began.poll owner)
        ((began.poll owner).postRequest owner request) := sequel_postRequest hpolled rfl
    rcases sequel.session with ⟨again, hagain, severedAgain⟩
    change _ = (began.isSevered owner || again) at severedAgain
    have posted : ((began.poll owner).postRequest owner request).posts owner =
        began.posts owner ++ [request] := sequel.posts
    rw [hpolled] at hagain
    change Accounted ((began.poll owner).postRequest owner request) owner _
    apply of_session? hagain
    rw [severedAgain, posted, severed, posts, List.append_assoc]
    exact (spoken.cutOffIf again).precedes sequel.precedes

theorem closeSession (accounted : Accounted deployment owner cycles) {session : Session}
    (hsession : deployment.session? owner = some session) (started : session.lifecycle = .started) :
    Accounted (deployment.closeSession owner session) owner
      (cycles.map (Cycle.endedBy (deployment.isDisabled owner))) := by
  let now := session.polled deployment.exchange
  have account := accounted.present session hsession
  obtain ⟨told, closing, hclosed⟩ := exists_closing hsession account.buffer
  rcases closing.session with ⟨cut, hcut, severed⟩
  have posts := closing.posts
  change _ = (deployment.isSevered owner || cut) at severed
  change _ = deployment.posts owner ++ _ at posts
  have closed : (told.updateSession owner Session.closed).session? owner =
      some (now.cutOffIf cut).closed := by
    rw [session?_updateSession_self, hcut, session?_poll, hsession]
    rfl
  have disabled : deployment.isDisabled owner = now.disabled := isDisabled_of_session? hsession
  have still : now.lifecycle = .started := (Session.lifecycle_polled _ session).trans started
  rw [hclosed]
  apply of_session? closed
  change Session.Account told.exchange (told.isSevered owner) _ _ (told.posts owner)
  rw [severed, posts, disabled]
  exact account.polled.closed still cut _

theorem turn {first second : Deployment σ × List Cycle} (turn : Turn owner first second)
    (accounted : Accounted first.1 owner first.2) : Accounted second.1 owner second.2 := by
  cases turn with
  | aside cycles chain sequel => exact accounted.sequel sequel
  | look deployment cycles => exact accounted.poll
  | @make deployment cycles manager hmanager fresh silent unsevered =>
      have journal := journal_ensureSession deployment owner
      have posts : (deployment.ensureSession owner).posts owner = [] := by
        rw [Deployment.posts, journal]
        exact silent
      have severed : (deployment.ensureSession owner).isSevered owner = false := by
        rw [isSevered, journal]
        exact unsevered
      have none : cycles = [] := accounted.absent ((session?_of_manager hmanager).trans fresh)
      refine of_session? (session?_ensureSession hmanager fresh) ?_
      rw [posts, severed, none]
      exact Session.Account.made _ _
  | @off deployment cycles session hsession idle token component flags disabling =>
      have opened := session?_updateSession_self deployment owner fun session =>
        session.openedOff token component flags
      rw [hsession] at opened
      exact of_session? opened
        ((accounted.present session hsession).openedOff idle token component disabling)
  | on cycles hmanager hsession idle token component enabling =>
      exact accounted.announce hmanager hsession idle token component enabling
  | close cycles hsession started => exact accounted.closeSession hsession started
  | @retire deployment cycles session hsession idle =>
      have account := accounted.present session hsession
      have retired := session?_updateSession_self deployment owner Session.retired
      rw [hsession] at retired
      rw [(account.told idle).map_endedBy]
      exact of_session? retired (account.retired idle)
  | @void deployment cycles absent =>
      have none : cycles = [] := accounted.absent absent
      subst none
      exact accounted

end Accounted

/-! ## Events -/

/-- An event is a sequel for the session of a manager and no business of its cycles, or
it is a sequence of turns of that session. -/
theorem sequel_or_turns [Autonomous σ] {deployment : Deployment σ} {owner : Nat}
    {cycles : List Cycle} (accounted : Accounted deployment owner cycles)
    (delivery : Delivery [] deployment) (event : Event σ) :
    (Sequel owner [] deployment (deployment.after event) ∧
        deployment.recount owner cycles event = cycles) ∨
      Turns owner (deployment, cycles)
        (deployment.after event, deployment.recount owner cycles event) := by
  cases event with
  | operation operation =>
      cases howner : operation.owner? with
      | none =>
          cases operation with
          | join context caller timeout dispatcher =>
              exact .inl ⟨.of_eq (session?_addManager deployment rfl owner) rfl (.refl _), rfl⟩
          | _ => simp [Operation.owner?] at howner
      | some who =>
          by_cases own : who = owner
          · subst own
            exact .inr (turns_perform cycles delivery howner fun session hsession =>
              (accounted.present session hsession).buffer)
          · have onlyWho : ∀ found ∈ operation.owner?, found = who := by simp [howner]
            have ne : ∀ found ∈ operation.owner?, found ≠ owner := by simp [howner, own]
            exact .inl ⟨(deployment.chain_perform operation onlyWho).sequel own,
              deployment.recounted_of_ne cycles ne⟩
  | work dispatcher => exact .inl ⟨sequel_work deployment owner dispatcher, rfl⟩
  | act act => exact .inl ⟨.of_eq rfl rfl (Exchange.precedes_answerAll _ _), rfl⟩
  | elapse now => exact .inl ⟨.of_eq rfl rfl (Exchange.precedes_reached _ now), rfl⟩

theorem Turns.accounted {owner : Nat} {first second : Deployment σ × List Cycle}
    (turns : Turns owner first second) (accounted : Accounted first.1 owner first.2) :
    Accounted second.1 owner second.2 := by
  induction turns with
  | refl => exact accounted
  | tail _ turn inductionHypothesis => exact inductionHypothesis.turn turn

/-- What every turn keeps is kept by any number of them. -/
theorem Turns.keeps {owner : Nat} {first second : Deployment σ × List Cycle}
    {property : Deployment σ × List Cycle → Prop} (turns : Turns owner first second)
    (step : ∀ {first second}, Accounted first.1 owner first.2 → Turn owner first second →
      property first → property second)
    (accounted : Accounted first.1 owner first.2) (holds : property first) : property second := by
  induction turns with
  | refl => exact holds
  | tail before turn inductionHypothesis =>
      exact step (Turns.accounted before accounted) turn inductionHypothesis

/-- Sessions keep their accounts in every event. -/
theorem Accounted.after [Autonomous σ] {deployment : Deployment σ} {owner : Nat}
    {cycles : List Cycle} (accounted : Accounted deployment owner cycles)
    (delivery : Delivery [] deployment) (event : Event σ) :
    Accounted (deployment.after event) owner (deployment.recount owner cycles event) := by
  rcases sequel_or_turns accounted delivery event with ⟨sequel, same⟩ | turns
  · rw [same]
    exact accounted.sequel sequel
  · exact turns.accounted accounted

/-! ## Runs -/

variable [Autonomous σ]

/-- After any run every session accounts for its cycles. -/
theorem accounted_follow {deployment : Deployment σ} (fresh : deployment.Fresh)
    (events : List (Event σ)) (owner : Nat) :
    Accounted (deployment.follow events) owner (deployment.cycles owner events) := by
  induction events using List.reverseRecOn with
  | nil =>
      have absent := fresh.session?_eq_none owner
      exact ⟨fun _ => rfl, by simp [absent]⟩
  | append_singleton events event inductionHypothesis =>
      rw [follow_concat, cycles_concat]
      exact inductionHypothesis.after (delivery_follow fresh events) event

/-- What turns keep, and what events keep that are no business of a session, is kept by
a run. -/
theorem chronicle_keeps {deployment : Deployment σ} (fresh : deployment.Fresh) {owner : Nat}
    {property : Deployment σ × List Cycle → Prop}
    (aside : ∀ {between : Deployment σ} {cycles : List Cycle} (event : Event σ),
      Accounted between owner cycles → Sequel owner [] between (between.after event) →
        property (between, cycles) → property (between.after event, cycles))
    (turn : ∀ {first second}, Accounted first.1 owner first.2 → Turn owner first second →
      property first → property second)
    (holds : property (deployment, [])) (events : List (Event σ)) :
    property (deployment.follow events, deployment.cycles owner events) := by
  induction events using List.reverseRecOn with
  | nil => exact holds
  | append_singleton events event inductionHypothesis =>
      have accounted := accounted_follow fresh events owner
      rw [follow_concat, cycles_concat]
      rcases sequel_or_turns accounted (delivery_follow fresh events) event with
        ⟨sequel, same⟩ | turns
      · rw [same]
        exact aside event accounted sequel inductionHypothesis
      · exact turns.keeps turn accounted inductionHypothesis

/-- A session reports that it is started exactly while its last cycle lasts. -/
theorem started_iff_of_follow {deployment : Deployment σ} (fresh : deployment.Fresh)
    (events : List (Event σ)) (owner : Nat) {session : Session}
    (h : (deployment.follow events).session? owner = some session) :
    session.lifecycle = .started ↔
      ∃ cycle, (deployment.cycles owner events).getLast? = some cycle ∧ cycle.isOver = false :=
  ((accounted_follow fresh events owner).present session h).standing.started_iff

/-- Whatever the service does and however the steps are interleaved, what a session
posts is the beginning of a word of its language, and the starts in it are those of
its announced cycles. -/
theorem posts_prefix_word {deployment : Deployment σ} (fresh : deployment.Fresh)
    (events : List (Event σ)) (owner : Nat) {session : Session}
    (h : (deployment.follow events).session? owner = some session) :
    (∃ word,
      Word session.id (announcedStarts session.id (deployment.cycles owner events)) word ∧
        (deployment.follow events).posts owner <+: word) ∧
      ((deployment.follow events).posts owner).filterMap Request.start? =
        announcedStarts session.id (deployment.cycles owner events) := by
  have standing := ((accounted_follow fresh events owner).present session h).standing
  exact ⟨standing.exists_word, standing.filterMap_start?⟩

/-- One manager with a queue, around a service. -/
def solitary {σ : Type} (service : σ) : Deployment σ :=
  { service := service
    dispatchers := [{ mode := .queued }]
    managers := [⟨⟨"com.example.notes", 0⟩, "com.example.notes", ⟨0⟩, 0, .empty, none⟩] }

omit [Service σ] [Autonomous σ] in
theorem fresh_solitary (service : σ) : (solitary service).Fresh where
  sessions := by simp [solitary]
  jobs := by simp [solitary]
  channels := rfl
  journal := rfl

/-- A session that is restarted before its dispatcher has come to anything. -/
def hastyRestart : List (Event ScriptedService) :=
  [.operation (.ensureSession 0), .operation (.startSession 0 ⟨"a"⟩ ⟨"p", "A"⟩ .empty),
    .operation (.destroySession 0), .operation (.startSession 0 ⟨"b"⟩ ⟨"p", "B"⟩ .empty)]

theorem posts_prefix_word_hastyRestart :
    let before := solitary ScriptedService.standard
    let after := before.follow hastyRestart
    ∃ session, after.session? 0 = some session ∧ (after.posts 0).length = 6 ∧
      ∃ word, Word session.id (announcedStarts session.id (before.cycles 0 hastyRestart)) word ∧
        after.posts 0 <+: word := by
  intro before after
  have there : (after.session? 0).isSome = true := by decide +kernel
  rcases Option.isSome_iff_exists.mp there with ⟨session, hsession⟩
  exact ⟨session, hsession, by decide +kernel,
    (posts_prefix_word (fresh_solitary ScriptedService.standard) hastyRestart 0 hsession).1⟩

end Deployment
end ContentCapture
