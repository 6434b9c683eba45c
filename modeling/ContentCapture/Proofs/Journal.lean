import ContentCapture.Proofs.Finality
import ContentCapture.Deployment.Questions

namespace ContentCapture

/-!
# What the journal says of a session

The journal is one list for everybody.  What a session has posted, and whether a
vital request of it has failed since its last start was posted, is read off from
it here.

The steps that do not belong to a session change little about it: they may cut it
off, and they may decide the outcome of reply channels.  `Sequel` says exactly
that, together with what the session itself posts in between.
-/

namespace Request

def session? : Request → Option SessionId
  | .startSession start _ => some start.session
  | .finishSession session => some session
  | .sendEvents session _ _ => some session
  | _ => none

/-- What the service is told by a request that starts a session. -/
def start? : Request → Option SessionStart
  | .startSession start _ => some start
  | _ => none

end Request

namespace Entry

/-- The request that a line of the journal posts for a manager. -/
def posted? (owner : Nat) : Entry → Option Request
  | .posted job => if job.owner = owner then some job.request else none
  | .asked _ _ _ => none

/-- Whether a line of the journal posts a start for a manager. -/
def startsFor (owner : Nat) (entry : Entry) : Bool :=
  ((entry.posted? owner).bind Request.start?).isSome

/-- Whether a line of the journal says that a vital request of a manager did not
get through. -/
def cutsOff (owner : Nat) : Entry → Bool
  | .asked (some who) envelope (.error _) => decide (who = owner) && envelope.request.isVital
  | _ => false

end Entry

/-- What stands behind the last element with a property, or everything if there is
none. -/
def behindLast {α : Type} (property : α → Bool) (list : List α) : List α :=
  (list.reverse.takeWhile fun element => !property element).reverse

@[simp] theorem behindLast_nil {α : Type} (property : α → Bool) :
    behindLast property [] = [] := rfl

theorem behindLast_concat {α : Type} (property : α → Bool) (list : List α) (element : α) :
    behindLast property (list ++ [element]) =
      if property element then [] else behindLast property list ++ [element] := by
  cases helement : property element <;> simp [behindLast, helement]

theorem behindLast_append {α : Type} {property : α → Bool} {list rest : List α}
    (none : ∀ element ∈ rest, property element = false) :
    behindLast property (list ++ rest) = behindLast property list ++ rest := by
  have lacking : ∀ element ∈ rest.reverse, !property element := by
    intro element member
    rw [none element (List.mem_reverse.mp member)]
    rfl
  rw [behindLast, List.reverse_append, List.takeWhile_append_of_pos lacking]
  simp [behindLast]

/-- The session, cut off if so. -/
def Session.cutOffIf (cut : Bool) (session : Session) : Session :=
  { session with disabled := session.disabled || cut }

@[simp] theorem Session.cutOffIf_false (session : Session) : session.cutOffIf false = session := by
  simp [cutOffIf]

theorem Session.cutOffIf_true (session : Session) : session.cutOffIf true = session.cutOff := by
  simp [cutOffIf, cutOff]

@[simp] theorem Session.map_cutOffIf_false (session : Option Session) :
    session.map (Session.cutOffIf false) = session := by
  cases session <;> simp

@[simp] theorem Session.cutOffIf_cutOffIf (session : Session) (first second : Bool) :
    (session.cutOffIf first).cutOffIf second = session.cutOffIf (first || second) := by
  simp [cutOffIf, Bool.or_assoc]

namespace Deployment

variable {σ : Type}

/-- What the session of a manager has posted, the first request first. -/
def posts (deployment : Deployment σ) (owner : Nat) : List Request :=
  deployment.journal.filterMap (Entry.posted? owner)

/-- Whether a vital request of the session of a manager has failed since the last
start of it was posted. -/
def isSevered (deployment : Deployment σ) (owner : Nat) : Bool :=
  (behindLast (Entry.startsFor owner) deployment.journal).any (Entry.cutsOff owner)

/-! ## Lines of the journal -/

theorem posts_noted (deployment : Deployment σ) (owner : Nat) (entry : Entry) :
    (deployment.noted entry).posts owner =
      deployment.posts owner ++ (entry.posted? owner).toList := by
  simp [posts, noted, List.filterMap_append, List.filterMap_cons]
  cases entry.posted? owner <;> rfl

theorem isSevered_noted (deployment : Deployment σ) (owner : Nat) (entry : Entry) :
    (deployment.noted entry).isSevered owner =
      if entry.startsFor owner then false
      else deployment.isSevered owner || entry.cutsOff owner := by
  cases hstarts : entry.startsFor owner <;>
    simp [isSevered, noted, behindLast_concat, hstarts]

theorem session?_noted (deployment : Deployment σ) (owner : Nat) (entry : Entry) :
    (deployment.noted entry).session? owner = deployment.session? owner := rfl

/-- A session is severed by a vital request of it that did not get through. -/
theorem exists_of_isSevered {deployment : Deployment σ} {owner : Nat}
    (severed : deployment.isSevered owner = true) :
    ∃ envelope failure, .asked (some owner) envelope (.error failure) ∈ deployment.journal ∧
      envelope.request.isVital = true := by
  rcases List.any_eq_true.mp severed with ⟨entry, member, cut⟩
  have inJournal : entry ∈ deployment.journal :=
    List.mem_reverse.mp ((List.takeWhile_prefix _).subset (List.mem_reverse.mp member))
  unfold Entry.cutsOff at cut
  split at cut
  · next who envelope failure =>
      simp only [Bool.and_eq_true, decide_eq_true_eq] at cut
      rcases cut with ⟨rfl, vital⟩
      exact ⟨envelope, failure, inJournal, vital⟩
  · cases cut

/-! ## Changes of sessions -/

theorem session?_updateSession (deployment : Deployment σ) (owner other : Nat)
    (change : Session → Session) :
    (deployment.updateSession owner change).session? other =
      (deployment.session? other).map fun session =>
        if owner = other then change session else session := by
  simp only [session?, updateSession, updateManager, List.getElem?_modify]
  cases deployment.managers[other]? with
  | none => rfl
  | some manager => by_cases h : owner = other <;> simp [h, Manager.withSession]

/-- A session changes as it is told to. -/
theorem session?_updateSession_self (deployment : Deployment σ) (owner : Nat)
    (change : Session → Session) :
    (deployment.updateSession owner change).session? owner =
      (deployment.session? owner).map change := by
  simp [session?_updateSession]

/-- No other session changes with it. -/
theorem session?_updateSession_of_ne (deployment : Deployment σ) {owner other : Nat}
    (h : owner ≠ other) (change : Session → Session) :
    (deployment.updateSession owner change).session? other = deployment.session? other := by
  simp [session?_updateSession, h]

/-! ## Sequels -/

/-- The second deployment comes after the first one, and all that has happened
to the session of the manager in between is that it has posted some requests,
none of which is a start, that it was cut off if a vital request of it failed,
and that outcomes were decided. -/
structure Sequel (owner : Nat) (requests : List Request) (first second : Deployment σ) : Prop where
  session : ∃ cut, second.session? owner = (first.session? owner).map (Session.cutOffIf cut) ∧
    second.isSevered owner = (first.isSevered owner || cut)
  posts : second.posts owner = first.posts owner ++ requests
  precedes : first.exchange.Precedes second.exchange

namespace Sequel

variable {owner : Nat} {first second third : Deployment σ}

/-- Nothing happens to a session that is the same in both, with the same journal. -/
theorem of_eq (session : second.session? owner = first.session? owner)
    (journal : second.journal = first.journal)
    (precedes : first.exchange.Precedes second.exchange) : Sequel owner [] first second where
  session := ⟨false, by simp [session], by simp [isSevered, journal]⟩
  posts := by simp [Deployment.posts, journal]
  precedes := precedes

theorem refl (owner : Nat) (deployment : Deployment σ) : Sequel owner [] deployment deployment :=
  of_eq rfl rfl (.refl _)

theorem trans {earlier later : List Request} (before : Sequel owner earlier first second)
    (after : Sequel owner later second third) :
    Sequel owner (earlier ++ later) first third where
  session := by
    rcases before.session with ⟨cut, hsession, hsevered⟩
    rcases after.session with ⟨again, hagain, hseveredAgain⟩
    refine ⟨cut || again, ?_, ?_⟩
    · rw [hagain, hsession, Option.map_map]
      congr 1
      funext session
      simp
    · rw [hseveredAgain, hsevered, Bool.or_assoc]
  posts := by rw [after.posts, before.posts, List.append_assoc]
  precedes := before.precedes.trans after.precedes

/-- Between requests nothing happens any number of times. -/
theorem trans_nil {requests : List Request} (before : Sequel owner requests first second)
    (after : Sequel owner [] second third) : Sequel owner requests first third := by
  simpa using before.trans after

end Sequel

/-- The change of another session. -/
theorem sequel_updateSession (deployment : Deployment σ) {owner other : Nat} (h : owner ≠ other)
    (change : Session → Session) :
    Sequel other [] deployment (deployment.updateSession owner change) :=
  .of_eq (session?_updateSession_of_ne deployment h change) rfl (.refl _)

/-- What a service does with reply channels. -/
theorem sequel_answerAll (deployment : Deployment σ) (owner : Nat)
    (answers : List (ChannelId × Answer)) :
    Sequel owner [] deployment (deployment.answerAll answers) :=
  .of_eq rfl rfl (Exchange.precedes_answerAll _ _)

theorem sequel_newChannel (deployment : Deployment σ) (owner : Nat) (timeout : Span) :
    Sequel owner [] deployment (deployment.newChannel timeout).2 :=
  .of_eq rfl rfl (Exchange.precedes_newChannel _ _)

/-- A request that is not a start is posted. -/
theorem sequel_noted (deployment : Deployment σ) (owner : Nat) (caller : String)
    (request : Request) (h : request.start? = none) :
    Sequel owner [request] deployment (deployment.noted (.posted ⟨owner, caller, request⟩)) where
  session := by
    refine ⟨false, by simp [session?_noted], ?_⟩
    rw [isSevered_noted]
    simp [Entry.startsFor, Entry.posted?, Entry.cutsOff, h]
  posts := by simp [posts_noted, Entry.posted?]
  precedes := .refl _

/-- A request of another session is posted. -/
theorem sequel_noted_of_ne (deployment : Deployment σ) {owner other : Nat} (h : owner ≠ other)
    (caller : String) (request : Request) :
    Sequel other [] deployment (deployment.noted (.posted ⟨owner, caller, request⟩)) where
  session := by
    refine ⟨false, by simp [session?_noted], ?_⟩
    rw [isSevered_noted]
    simp [Entry.startsFor, Entry.posted?, Entry.cutsOff, h]
  posts := by simp [posts_noted, Entry.posted?, h]
  precedes := .refl _

/-- A manager with a session is a manager. -/
theorem manager_of_session? {deployment : Deployment σ} {owner : Nat} {session : Session}
    (h : deployment.session? owner = some session) :
    ∃ manager, deployment.managers[owner]? = some manager ∧ manager.session = some session :=
  Option.bind_eq_some_iff.mp h

theorem session?_of_manager {deployment : Deployment σ} {owner : Nat} {manager : Manager}
    (hmanager : deployment.managers[owner]? = some manager) :
    deployment.session? owner = manager.session := by
  simp [session?, hmanager]

variable [Service σ]

/-- Asking the service leaves every session alone, even one whose vital request
fails.  It is the job that cuts the session off. -/
theorem session?_ask (deployment : Deployment σ) (owner : Nat) (asker : Option Nat)
    (envelope : Envelope) :
    (deployment.ask asker envelope).2.session? owner = deployment.session? owner := rfl

/-- What the service makes of a request, and the line that the journal gets. -/
theorem ask_eq (deployment : Deployment σ) (asker : Option Nat) (envelope : Envelope) :
    deployment.ask asker envelope =
      let reception := Service.receive deployment.service envelope
      (reception.result,
        ({ deployment with service := reception.service }.answerAll reception.answers).noted
          (.asked asker envelope reception.result)) := rfl

theorem service_ask (deployment : Deployment σ) (asker : Option Nat) (envelope : Envelope) :
    (deployment.ask asker envelope).2.service =
      (Service.receive deployment.service envelope).service := rfl

theorem exchange_ask (deployment : Deployment σ) (asker : Option Nat) (envelope : Envelope) :
    (deployment.ask asker envelope).2.exchange =
      deployment.exchange.answerAll (Service.receive deployment.service envelope).answers := rfl

theorem journal_ask (deployment : Deployment σ) (asker : Option Nat) (envelope : Envelope) :
    (deployment.ask asker envelope).2.journal =
      deployment.journal ++
        [.asked asker envelope (Service.receive deployment.service envelope).result] := rfl

theorem posts_ask (deployment : Deployment σ) (owner : Nat) (asker : Option Nat)
    (envelope : Envelope) :
    (deployment.ask asker envelope).2.posts owner = deployment.posts owner := by
  rw [ask_eq, posts_noted]
  exact List.append_nil _

theorem isSevered_ask (deployment : Deployment σ) (owner : Nat) (asker : Option Nat)
    (envelope : Envelope) :
    (deployment.ask asker envelope).2.isSevered owner =
      (deployment.isSevered owner ||
        Entry.cutsOff owner (.asked asker envelope (deployment.ask asker envelope).1)) := by
  rw [ask_eq, isSevered_noted]
  rfl

theorem precedes_ask (deployment : Deployment σ) (asker : Option Nat) (envelope : Envelope) :
    deployment.exchange.Precedes (deployment.ask asker envelope).2.exchange :=
  Exchange.precedes_answerAll _ _

/-- Asking for something else than a job does. -/
theorem sequel_ask (deployment : Deployment σ) (owner : Nat) (asker : Option Nat)
    (envelope : Envelope) (h : envelope.request.isVital = false) :
    Sequel owner [] deployment (deployment.ask asker envelope).2 where
  session := by
    refine ⟨false, ?_, ?_⟩
    · simp [session?_ask]
    · rw [isSevered_ask]
      cases asker <;> cases (deployment.ask _ envelope).1 <;> simp [Entry.cutsOff, h]
  posts := by simp [posts_ask]
  precedes := precedes_ask deployment asker envelope

/-- The line that the journal gets when a job is run. -/
def runLine (deployment : Deployment σ) (job : Job) : Entry :=
  .asked (some job.owner) ⟨job.caller, job.request⟩
    (deployment.ask (some job.owner) ⟨job.caller, job.request⟩).1

/-- A job cuts its session off exactly if it is vital and fails. -/
theorem run_eq (deployment : Deployment σ) (job : Job) :
    deployment.run job =
      let asked := (deployment.ask (some job.owner) ⟨job.caller, job.request⟩).2
      if (deployment.runLine job).cutsOff job.owner then
        asked.updateSession job.owner Session.cutOff
      else asked := by
  rcases hasked : deployment.ask (some job.owner) ⟨job.caller, job.request⟩ with ⟨_ | _, asked⟩ <;>
    simp [run, runLine, hasked, Entry.cutsOff]

theorem cutsOff_runLine (deployment : Deployment σ) (owner : Nat) (job : Job) :
    (deployment.runLine job).cutsOff owner =
      (decide (job.owner = owner) && (deployment.runLine job).cutsOff job.owner) := by
  rw [runLine]
  cases (deployment.ask (some job.owner) ⟨job.caller, job.request⟩).1 <;> simp [Entry.cutsOff]

theorem sequel_run (deployment : Deployment σ) (owner : Nat) (job : Job) :
    Sequel owner [] deployment (deployment.run job) := by
  have hposts := posts_ask deployment owner (some job.owner) ⟨job.caller, job.request⟩
  have hsevered : (deployment.ask (some job.owner) ⟨job.caller, job.request⟩).2.isSevered owner =
      (deployment.isSevered owner || (deployment.runLine job).cutsOff owner) :=
    isSevered_ask deployment owner (some job.owner) ⟨job.caller, job.request⟩
  have hprecedes := precedes_ask deployment (some job.owner) ⟨job.caller, job.request⟩
  rw [cutsOff_runLine] at hsevered
  rw [run_eq]
  by_cases hcut : (deployment.runLine job).cutsOff job.owner = true
  · rw [if_pos hcut]
    rw [hcut, Bool.and_true] at hsevered
    refine ⟨⟨decide (job.owner = owner), ?_, hsevered⟩, ?_, hprecedes⟩
    · rw [session?_updateSession, session?_ask]
      congr 1
      funext session
      by_cases hown : job.owner = owner <;> simp [hown, Session.cutOffIf_true]
    · rw [List.append_nil]
      exact hposts
  · rw [if_neg hcut]
    rw [Bool.eq_false_iff.mpr hcut, Bool.and_false] at hsevered
    refine ⟨⟨false, ?_, hsevered⟩, ?_, hprecedes⟩
    · simp [session?_ask]
    · rw [List.append_nil]
      exact hposts

/-- Once a job is posted, only what follows from that happens. -/
theorem sequel_post (deployment : Deployment σ) (owner dispatcher : Nat) (job : Job) :
    Sequel owner [] (deployment.noted (.posted job)) (deployment.post dispatcher job) := by
  simp only [post]
  split
  · exact sequel_answerAll _ owner _
  · split
    · exact sequel_run _ owner job
    · exact .of_eq rfl rfl (.refl _)
    · exact sequel_answerAll _ owner _

theorem sequel_work (deployment : Deployment σ) (owner dispatcher : Nat) :
    Sequel owner [] deployment (deployment.work dispatcher) := by
  unfold work
  split
  · exact .refl owner deployment
  · next job queue _ =>
      have popped : Sequel owner [] deployment
          { deployment with dispatchers := deployment.dispatchers.set dispatcher queue } :=
        .of_eq rfl rfl (.refl _)
      exact popped.trans_nil (sequel_run _ owner job)

/-! ## Requests of a session -/

theorem sequel_postRequest_of_ne (deployment : Deployment σ) {owner other : Nat}
    (h : owner ≠ other) (request : Request) :
    Sequel other [] deployment (deployment.postRequest owner request) := by
  unfold postRequest
  split
  · exact .refl other deployment
  · next manager _ =>
      exact (sequel_noted_of_ne deployment h manager.caller request).trans
        (sequel_post deployment other manager.dispatcher ⟨owner, manager.caller, request⟩)

theorem sequel_postRequest {deployment : Deployment σ} {owner : Nat} {session : Session}
    (hsession : deployment.session? owner = some session) {request : Request}
    (h : request.start? = none) :
    Sequel owner [request] deployment (deployment.postRequest owner request) := by
  rcases manager_of_session? hsession with ⟨manager, hmanager, -⟩
  rw [postRequest, hmanager]
  exact (sequel_noted deployment owner manager.caller request h).trans_nil
    (sequel_post deployment owner manager.dispatcher ⟨owner, manager.caller, request⟩)

/-- A start is posted.  Failures before that do not count any more. -/
theorem postRequest_start {deployment : Deployment σ} {owner : Nat} {session : Session}
    (hsession : deployment.session? owner = some session) (start : SessionStart)
    (channel : ChannelId) :
    ∃ cut,
      (deployment.postRequest owner (.startSession start channel)).session? owner =
        some (session.cutOffIf cut) ∧
      (deployment.postRequest owner (.startSession start channel)).isSevered owner = cut ∧
      (deployment.postRequest owner (.startSession start channel)).posts owner =
        deployment.posts owner ++ [.startSession start channel] ∧
      deployment.exchange.Precedes
        (deployment.postRequest owner (.startSession start channel)).exchange := by
  rcases manager_of_session? hsession with ⟨manager, hmanager, -⟩
  rw [postRequest, hmanager]
  let job : Job := ⟨owner, manager.caller, .startSession start channel⟩
  have sequel := sequel_post deployment owner manager.dispatcher job
  rcases sequel.session with ⟨cut, hcut, hsevered⟩
  have hstarts : Entry.startsFor owner (.posted job) = true := by
    simp [Entry.startsFor, Entry.posted?, job, Request.start?]
  have hposted : Entry.posted? owner (.posted job) = some (.startSession start channel) := by
    simp [Entry.posted?, job]
  refine ⟨cut, ?_, ?_, ?_, sequel.precedes⟩
  · rw [hcut, session?_noted, hsession]
    rfl
  · rw [hsevered, isSevered_noted, if_pos hstarts, Bool.false_or]
  · rw [sequel.posts, posts_noted, hposted]
    simp

end Deployment
end ContentCapture
