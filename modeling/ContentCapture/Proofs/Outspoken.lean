import ContentCapture.Proofs.Succession
import ContentCapture.Proofs.Verdicts

namespace ContentCapture

/-!
# Sessions that speak

What a session posts in an announced cycle depends on two things: whether it speaks of
its start, and whether it speaks of its end.  An outspoken session has spoken of every
start, so that its cycles tell what it has posted.

Around a service that always takes the requests of sessions, and never refuses a start
if it answers it at all, every session is outspoken, and its flags alone tell whether it
is disabled.
-/

/-- Whether a line of the journal fits a service that takes every request of a session and
refuses no start. -/
def Entry.isObliging (exchange : Exchange) : Entry → Bool
  | .posted job => !((job.request.startChannel?.bind exchange.peek).any isDisabling)
  | .asked _ envelope (.error _) => envelope.request.session?.isNone
  | .asked _ _ (.ok ()) => true

namespace Deployment

variable {σ : Type}

/-- The session of a manager has said what its announced cycles amount to. -/
def Outspoken (deployment : Deployment σ) (owner : Nat) (cycles : List Cycle) : Prop :=
  ∀ session, deployment.session? owner = some session →
    (deployment.posts owner).map Request.bare =
      (cycles.filter Cycle.isAnnounced).flatMap (Cycle.requests session.id)

namespace Outspoken

variable {deployment later : Deployment σ} {owner : Nat} {cycles : List Cycle}

theorem of_session? {session : Session} (h : deployment.session? owner = some session)
    (said : (deployment.posts owner).map Request.bare =
      (cycles.filter Cycle.isAnnounced).flatMap (Cycle.requests session.id)) :
    deployment.Outspoken owner cycles := by
  intro other hother
  rw [h, Option.some_inj] at hother
  subst hother
  exact said

/-- A session that says nothing, and whose cycles are those that it has told of. -/
theorem keep (outspoken : deployment.Outspoken owner cycles)
    (silent : later.posts owner = deployment.posts owner)
    (former : ∀ session, later.session? owner = some session →
      ∃ before, deployment.session? owner = some before ∧ before.id = session.id) :
    later.Outspoken owner cycles := by
  intro session hsession
  rcases former session hsession with ⟨before, hbefore, same⟩
  rw [silent, ← same]
  exact outspoken before hbefore

theorem updateSession (outspoken : deployment.Outspoken owner cycles) {change : Session → Session}
    (same : ∀ session, (change session).id = session.id) :
    (deployment.updateSession owner change).Outspoken owner cycles := by
  refine outspoken.keep rfl fun session hsession => ?_
  rw [session?_updateSession_self, Option.map_eq_some_iff] at hsession
  rcases hsession with ⟨before, hbefore, rfl⟩
  exact ⟨before, hbefore, (same before).symm⟩

theorem sequel (outspoken : deployment.Outspoken owner cycles)
    (sequel : Sequel owner [] deployment later) : later.Outspoken owner cycles := by
  refine outspoken.keep (sequel.posts.trans (List.append_nil _)) fun session hsession => ?_
  rcases sequel.session with ⟨cut, hcut, -⟩
  rw [hcut, Option.map_eq_some_iff] at hsession
  rcases hsession with ⟨before, hbefore, rfl⟩
  exact ⟨before, hbefore, rfl⟩

end Outspoken

/-! ## Around a service that refuses nothing -/

/-- The service has taken every request of a session, and has refused no start. -/
structure Obliging (deployment : Deployment σ) : Prop where
  taken : ∀ asker envelope failure,
    .asked asker envelope (.error failure) ∈ deployment.journal → envelope.request.session? = none
  granted : ∀ owner, ∀ request ∈ deployment.posts owner, ∀ channel answer,
    request.startChannel? = some channel → deployment.exchange.peek channel = some answer →
      isDisabling answer = false

theorem obliging_iff (deployment : Deployment σ) :
    deployment.Obliging ↔
      ∀ entry ∈ deployment.journal, entry.isObliging deployment.exchange = true := by
  constructor
  · intro obliging entry member
    cases entry with
    | posted job =>
        have said : job.request ∈ deployment.posts job.owner :=
          List.mem_filterMap.mpr ⟨.posted job, member, by simp [Entry.posted?]⟩
        cases carried : job.request.startChannel? with
        | none => simp [Entry.isObliging, carried]
        | some channel =>
            cases found : deployment.exchange.peek channel with
            | none => simp [Entry.isObliging, carried, found]
            | some answer =>
                have granted := obliging.granted job.owner _ said channel answer carried found
                simp [Entry.isObliging, carried, found, granted]
    | asked asker envelope result =>
        cases result with
        | ok _ => rfl
        | error failure => simp [Entry.isObliging, obliging.taken asker envelope failure member]
  · intro all
    refine ⟨fun asker envelope failure member => ?_,
      fun owner request said channel answer carried found => ?_⟩
    · simpa [Entry.isObliging] using all _ member
    · rcases List.mem_filterMap.mp said with ⟨entry, member, posted⟩
      have fits := all entry member
      cases entry with
      | posted job =>
          simp only [Entry.posted?, Option.ite_none_right_eq_some, Option.some.injEq] at posted
          rw [← posted.2] at carried
          simpa [Entry.isObliging, carried, found] using fits
      | asked asker envelope result => simp [Entry.posted?] at posted

instance (deployment : Deployment σ) : Decidable deployment.Obliging :=
  decidable_of_iff _ deployment.obliging_iff.symm

namespace Obliging

variable {first second deployment : Deployment σ} {owner : Nat} {cycles : List Cycle}

theorem before (obliging : second.Obliging) (precedes : first.Precedes second) :
    first.Obliging where
  taken asker envelope failure member :=
    obliging.taken asker envelope failure (precedes.journal.subset member)
  granted owner request member channel answer carried found :=
    obliging.granted owner request ((precedes.posts owner).subset member) channel answer carried
      (precedes.exchange channel answer found)

theorem isSevered (obliging : deployment.Obliging) (owner : Nat) :
    deployment.isSevered owner = false := by
  by_contra severed
  rcases exists_of_isSevered (eq_true_of_ne_false severed) with
    ⟨⟨caller, request⟩, failure, inJournal, vital⟩
  have unnamed := obliging.taken _ _ _ inJournal
  cases request <;> simp [Request.isVital, Request.session?] at vital unnamed

theorem startAnswer? (obliging : deployment.Obliging) (owner : Nat) :
    (deployment.startAnswer? owner).any isDisabling = false := by
  cases hanswer : deployment.startAnswer? owner with
  | none => rfl
  | some answer =>
      rcases Option.bind_eq_some_iff.mp hanswer with ⟨channel, last, found⟩
      rcases List.mem_filterMap.mp (List.mem_of_getLast? last) with ⟨request, member, carried⟩
      exact obliging.granted owner request member channel answer carried found

/-- While a cycle lasts, its flags alone tell whether the session is disabled. -/
theorem isDisabled (obliging : deployment.Obliging) (accounted : Accounted deployment owner cycles)
    {cycle : Cycle} (last : cycles.getLast? = some cycle) (lasting : cycle.isOver = false) :
    deployment.isDisabled owner = cycle.flags.isDisabling := by
  rw [accounted.isDisabled_eq last lasting, obliging.startAnswer?, obliging.isSevered,
    Bool.or_false, Bool.or_false]

/-- And so do they at its end. -/
theorem map_endedBy (obliging : deployment.Obliging)
    (accounted : Accounted deployment owner cycles) :
    cycles.map (Cycle.endedBy (deployment.isDisabled owner)) =
      cycles.map fun cycle => cycle.endedBy cycle.flags.isDisabling := by
  refine List.map_congr_left fun cycle member => ?_
  cases hover : cycle.isOver with
  | true => rw [Cycle.endedBy_eq_self hover, Cycle.endedBy_eq_self hover]
  | false =>
      have last : cycles.getLast? = some cycle := by
        cases hsession : deployment.session? owner with
        | none => simp [accounted.absent hsession] at member
        | some session =>
            rcases (accounted.present session hsession).standing.isOver_or_last cycle member with
              ended | last
            · exact absurd (ended.symm.trans hover) (by simp)
            · exact last
      rw [obliging.isDisabled accounted last hover]

end Obliging

/-- A cycle that is over was ended as its flags had it. -/
def EndedByFlags (cycles : List Cycle) : Prop :=
  ∀ cycle ∈ cycles, ∀ ended, cycle.ending = some ended → ended = cycle.flags.isDisabling

/-- What the service was told of such cycles. -/
theorem map_bare_of_told {session : SessionId} {cycles : List Cycle} {requests : List Request}
    (told : Told session cycles requests) (fair : EndedByFlags cycles) :
    requests.map Request.bare =
      (cycles.filter Cycle.isAnnounced).flatMap (Cycle.requests session) := by
  induction told with
  | nil => rfl
  | off before off ended inductionHypothesis =>
      rw [inductionHypothesis fun cycle member => fair cycle (List.mem_append_left _ member)]
      simp [List.filter_append, off]
  | @on cycles requests body cycle disabled before on ending channel hbody inductionHypothesis =>
      have enabled : disabled = false := by
        rw [fair cycle (by simp) disabled ending]
        simpa [Cycle.isAnnounced] using on
      subst enabled
      rw [List.map_append,
        inductionHypothesis fun cycle member => fair cycle (List.mem_append_left _ member)]
      cases hbody with
      | finished time later =>
          simp [List.filter_append, on, Cycle.requests, ending, Request.bare,
            SessionStart.startedRequest, SessionStart.finishedRequest, CaptureEvent.timeless]

/-- What a session has said of such cycles, if it is not disabled in an announced one that
lasts. -/
theorem map_bare_of_standing {exchange : Exchange} {session : Session} {cycles : List Cycle}
    {requests : List Request} (standing : session.Standing exchange cycles requests)
    (fair : EndedByFlags cycles)
    (enabled : ∀ cycle, cycles.getLast? = some cycle → cycle.isOver = false →
      cycle.isAnnounced = true → session.disabled = false) :
    requests.map Request.bare =
      (cycles.filter Cycle.isAnnounced).flatMap (Cycle.requests session.id) := by
  cases standing with
  | resting idle unannounced deaf told => exact map_bare_of_told told fair
  | off started unannounced deaf state told off unended =>
      rw [map_bare_of_told told fun cycle member => fair cycle (List.mem_append_left _ member)]
      simp [List.filter_append, off]
  | @on cycles requests body cycle channel started announced told on unended hbody silent _ =>
      have spoken := enabled cycle List.getLast?_concat (by simp [Cycle.isOver, unended]) on
      rw [List.map_append,
        map_bare_of_told told fun cycle member => fair cycle (List.mem_append_left _ member)]
      cases hbody with
      | silent => exact absurd ((silent rfl).symm.trans spoken) (by simp)
      | started time =>
          simp [List.filter_append, on, Cycle.requests, unended, Request.bare,
            SessionStart.startedRequest, CaptureEvent.timeless]

variable [Service σ] [Autonomous σ]

/-- Every cycle is ended as its flags have it, if the service refuses nothing. -/
theorem Obliging.endedByFlags {deployment : Deployment σ} (fresh : deployment.Fresh)
    {events : List (Event σ)} (obliging : (deployment.follow events).Obliging) (owner : Nat) :
    EndedByFlags (deployment.cycles owner events) := by
  induction events using List.reverseRecOn with
  | nil => exact fun _ member => absurd member List.not_mem_nil
  | append_singleton events event inductionHypothesis =>
      have before := obliging.before (deployment.precedes_of_prefix (List.prefix_append _ [event]))
      have fair := inductionHypothesis before
      rw [cycles_concat]
      rcases (deployment.follow events).recount_cases owner (deployment.cycles owner events) event
        with same | ended | ⟨begun, unended, appended⟩
      · rw [same]
        exact fair
      · rw [ended, before.map_endedBy (accounted_follow fresh events owner)]
        intro cycle member ended ending
        rcases List.mem_map.mp member with ⟨former, hformer, rfl⟩
        cases hending : former.ending with
        | none => simpa [Cycle.endedBy, hending] using ending.symm
        | some earlier =>
            rw [Cycle.endedBy, hending, Option.getD_some, Option.some_inj] at ending
            exact ending ▸ fair former hformer earlier hending
      · rw [appended]
        intro cycle member ended ending
        rcases List.mem_append.mp member with member | member
        · exact fair cycle member ended ending
        · rw [List.mem_singleton.mp member, unended] at ending
          cases ending

/-- Around a service that refuses nothing every session is outspoken. -/
theorem Obliging.outspoken {deployment : Deployment σ} (fresh : deployment.Fresh)
    {events : List (Event σ)} (obliging : (deployment.follow events).Obliging) (owner : Nat) :
    (deployment.follow events).Outspoken owner (deployment.cycles owner events) := by
  intro session hsession
  have accounted := accounted_follow fresh events owner
  apply map_bare_of_standing (accounted.present session hsession).standing
    (obliging.endedByFlags fresh owner)
  intro cycle last lasting announced
  have disabled := obliging.isDisabled accounted last lasting
  have enabling : cycle.flags.isDisabling = false := by simpa [Cycle.isAnnounced] using announced
  rw [isDisabled_of_session? hsession, enabling] at disabled
  by_contra cut
  have still := Session.disabled_polled_of_disabled (deployment.follow events).exchange session
    (eq_true_of_ne_false cut)
  exact Bool.false_ne_true (disabled.symm.trans still)

end Deployment
end ContentCapture
