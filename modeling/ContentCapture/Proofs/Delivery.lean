import ContentCapture.Proofs.Elementary

namespace ContentCapture

/-!
# Delivery

A request that a session posts waits in the queue of its dispatcher until the
service is asked it.  Requests are lost only if the dispatcher takes none, and are
never overtaken: what the service was asked on behalf of a session, followed by
what still waits, is what the session has posted.

Nobody else speaks for a session.  Every request that names one, wherever it is
found, was posted by the manager of that session.
-/

/-- The request of a job, if it is one of that manager. -/
def Job.request? (owner : Nat) (job : Job) : Option Request :=
  if job.owner = owner then some job.request else none

theorem Job.filterMap_singleton (owner : Nat) (job : Job) :
    [job].filterMap (Job.request? owner) = (job.request? owner).toList := by
  cases hrequest : job.request? owner <;> simp [hrequest]

/-- The request of a session that a line of the journal says the service was asked
on behalf of a manager. -/
def Entry.asked? (owner : Nat) : Entry → Option Request
  | .asked (some who) envelope _ =>
      if who = owner ∧ envelope.request.session?.isSome then some envelope.request else none
  | _ => none

/-- Whether a dispatcher takes jobs. -/
def Dispatcher.Mode.isLive : Dispatcher.Mode → Bool
  | .immediate => true
  | .queued => true
  | .stopped => false

theorem Dispatcher.of_pop? {queue rest : Dispatcher Job} {job : Job}
    (popped : queue.pop? = some (job, rest)) :
    queue.jobs = job :: rest.jobs ∧ rest.mode = queue.mode := by
  unfold Dispatcher.pop? at popped
  split at popped
  · contradiction
  · next hjobs =>
      cases popped
      exact ⟨hjobs, rfl⟩

namespace Deployment

variable {σ : Type}

def queue (deployment : Deployment σ) (dispatcher : Nat) : List Job :=
  ((deployment.dispatchers[dispatcher]?).map Dispatcher.jobs).getD []

/-- How a dispatcher treats a job, if there is one. -/
def mode? (deployment : Deployment σ) (dispatcher : Nat) : Option Dispatcher.Mode :=
  (deployment.dispatchers[dispatcher]?).map Dispatcher.mode

def isLive (deployment : Deployment σ) (dispatcher : Nat) : Bool :=
  (deployment.mode? dispatcher).any Dispatcher.Mode.isLive

/-- What the service was asked on behalf of the session of a manager. -/
def asks (deployment : Deployment σ) (owner : Nat) : List Request :=
  deployment.journal.filterMap (Entry.asked? owner)

/-- What a dispatcher is still to ask on behalf of the session of a manager. -/
def waiting (deployment : Deployment σ) (dispatcher owner : Nat) : List Request :=
  (deployment.queue dispatcher).filterMap (Job.request? owner)

/-- A request is one of the session of that manager, and is made in its name. -/
def Signs (deployment : Deployment σ) (owner : Nat) (caller : String) (request : Request) : Prop :=
  ∃ manager session, deployment.managers[owner]? = some manager ∧ manager.caller = caller ∧
    manager.session = some session ∧ request.session? = some session.id

/-- A line of the journal names only the session that it is signed by. -/
def Attests (deployment : Deployment σ) : Entry → Prop
  | .posted job => deployment.Signs job.owner job.caller job.request
  | .asked (some owner) envelope _ =>
      envelope.request.session?.isSome →
        deployment.Signs owner envelope.caller envelope.request
  | .asked none envelope _ => envelope.request.session? = none

/-! ## More managers -/

/-- The managers of the first deployment are managers of the second one, with the
same callers, the same dispatchers and the same sessions. -/
def Extends (first second : Deployment σ) : Prop :=
  ∀ (owner : Nat) (manager : Manager), first.managers[owner]? = some manager →
    ∃ later : Manager, second.managers[owner]? = some later ∧ later.caller = manager.caller ∧
      later.dispatcher = manager.dispatcher ∧
      ∀ session, manager.session = some session →
        ∃ after, later.session = some after ∧ after.id = session.id

namespace Extends

variable {first second third : Deployment σ}

/-- The managers are the same ones. -/
theorem of_eq (same : second.managers = first.managers) : Extends first second :=
  fun _ manager hmanager =>
    ⟨manager, same ▸ hmanager, rfl, rfl, fun session hsession => ⟨session, hsession, rfl⟩⟩

theorem refl (deployment : Deployment σ) : Extends deployment deployment :=
  of_eq rfl

theorem trans (earlier : Extends first second) (later : Extends second third) :
    Extends first third := by
  intro owner manager hmanager
  obtain ⟨between, hbetween, sameCaller, sameDispatcher, sameSession⟩ :=
    earlier owner manager hmanager
  rcases later owner between hbetween with ⟨last, hlast, caller, dispatcher, session⟩
  refine ⟨last, hlast, caller.trans sameCaller, dispatcher.trans sameDispatcher, ?_⟩
  intro former hformer
  rcases sameSession former hformer with ⟨middle, hmiddle, sameMiddle⟩
  rcases session middle hmiddle with ⟨after, hafter, same⟩
  exact ⟨after, hafter, same.trans sameMiddle⟩

theorem signs (extension : Extends first second) {owner : Nat} {caller : String}
    {request : Request} (signed : first.Signs owner caller request) :
    second.Signs owner caller request := by
  rcases signed with ⟨manager, session, hmanager, hcaller, hsession, hrequest⟩
  rcases extension owner manager hmanager with ⟨later, hlater, sameCaller, -, sessions⟩
  rcases sessions session hsession with ⟨after, hafter, same⟩
  exact ⟨later, after, hlater, sameCaller.trans hcaller, hafter, by rw [same, hrequest]⟩

theorem attests (extension : Extends first second) {entry : Entry}
    (attested : first.Attests entry) : second.Attests entry := by
  cases entry with
  | posted job => exact extension.signs attested
  | asked owner envelope result =>
      cases owner with
      | none => exact attested
      | some owner => exact fun named => extension.signs (attested named)

/-- A manager of the second deployment was there with the same dispatcher, or had
no session. -/
theorem former (extension : Extends first second) {owner : Nat} {later : Manager}
    (hlater : second.managers[owner]? = some later) :
    first.session? owner = none ∨
      ∃ manager, first.managers[owner]? = some manager ∧
        later.dispatcher = manager.dispatcher := by
  cases hmanager : first.managers[owner]? with
  | none => exact .inl (by simp [session?, hmanager])
  | some manager =>
      rcases extension owner manager hmanager with ⟨found, hfound, -, same, -⟩
      rw [hlater] at hfound
      cases hfound
      exact .inr ⟨manager, rfl, same⟩

end Extends

theorem extends_addManager (deployment : Deployment σ) (manager : Manager) :
    Extends deployment (deployment.addManager manager) := by
  intro owner former hformer
  have bound := (List.getElem?_eq_some_iff.mp hformer).1
  refine ⟨former, ?_, rfl, rfl, fun session hsession => ⟨session, hsession, rfl⟩⟩
  simpa [addManager, List.getElem?_append_left bound] using hformer

theorem extends_updateManager (deployment : Deployment σ) (owner : Nat)
    {change : Manager → Manager}
    (caller : ∀ manager, (change manager).caller = manager.caller)
    (dispatcher : ∀ manager, (change manager).dispatcher = manager.dispatcher)
    (sessions : ∀ manager, deployment.managers[owner]? = some manager →
      ∀ session, manager.session = some session →
        ∃ after, (change manager).session = some after ∧ after.id = session.id) :
    Extends deployment (deployment.updateManager owner change) := by
  intro other former hformer
  by_cases same : owner = other
  · subst same
    refine ⟨change former, ?_, caller former, dispatcher former, sessions former hformer⟩
    simp [updateManager, hformer]
  · refine ⟨former, ?_, rfl, rfl, fun session hsession => ⟨session, hsession, rfl⟩⟩
    simpa [updateManager, List.getElem?_modify, same] using hformer

theorem extends_updateSession (deployment : Deployment σ) (owner : Nat)
    {change : Session → Session} (same : ∀ session, (change session).id = session.id) :
    Extends deployment (deployment.updateSession owner change) := by
  refine extends_updateManager deployment owner (fun _ => rfl) (fun _ => rfl) ?_
  intro manager _ session hsession
  exact ⟨change session, by simp [Manager.withSession, hsession], same session⟩

theorem extends_mark (deployment : Deployment σ) (owner : Nat)
    (change : CaptureFlags → CaptureFlags) :
    Extends deployment (deployment.updateManager owner fun manager =>
      { manager with flags := change manager.flags }) := by
  refine extends_updateManager deployment owner (fun _ => rfl) (fun _ => rfl) ?_
  exact fun manager _ session hsession => ⟨session, hsession, rfl⟩

theorem extends_opening (deployment : Deployment σ) (owner : Nat) (manager : Manager)
    (token : ActivityToken) (component : ComponentName) (flags : CaptureFlags) :
    Extends deployment (deployment.opening owner manager token component flags) := by
  have channeled : Extends deployment (deployment.newChannel manager.timeout).2 := .of_eq rfl
  exact channeled.trans (extends_updateSession _ owner fun _ => rfl)

theorem extends_ensureSession (deployment : Deployment σ) (owner : Nat) :
    Extends deployment (deployment.ensureSession owner) := by
  unfold ensureSession
  split
  · exact .refl deployment
  · next manager hmanager =>
      split
      · exact .refl deployment
      · next fresh =>
          have made : Extends deployment (deployment.updateManager owner fun manager =>
              { manager with session := some { id := deployment.nextSession } }) := by
            refine extends_updateManager deployment owner (fun _ => rfl) (fun _ => rfl) ?_
            intro former hformer session hsession
            rw [hmanager] at hformer
            cases hformer
            simp [fresh] at hsession
          exact made.trans (.of_eq rfl)

/-! ## Sessions that have posted nothing -/

theorem Signs.session? {deployment : Deployment σ} {owner : Nat} {caller : String}
    {request : Request} (signed : deployment.Signs owner caller request) :
    ∃ session, deployment.session? owner = some session ∧ request.session? = some session.id := by
  rcases signed with ⟨manager, session, hmanager, -, hsession, hrequest⟩
  exact ⟨session, (session?_of_manager hmanager).trans hsession, hrequest⟩

/-- A request that is signed is not that of a manager without a session. -/
theorem not_signs {deployment : Deployment σ} {owner : Nat}
    (h : deployment.session? owner = none) (caller : String) (request : Request) :
    ¬ deployment.Signs owner caller request := by
  intro signed
  rcases signed.session? with ⟨session, hsession, -⟩
  simp [h] at hsession

theorem posts_eq_nil {deployment : Deployment σ} {owner : Nat}
    (attested : ∀ entry ∈ deployment.journal, deployment.Attests entry)
    (h : deployment.session? owner = none) : deployment.posts owner = [] := by
  refine List.filterMap_eq_nil_iff.mpr fun entry member => ?_
  have attests := attested entry member
  cases entry with
  | posted job =>
      by_cases hown : job.owner = owner
      · subst hown
        exact absurd attests (not_signs h job.caller job.request)
      · simp [Entry.posted?, hown]
  | asked owner envelope result => rfl

theorem asks_eq_nil {deployment : Deployment σ} {owner : Nat}
    (attested : ∀ entry ∈ deployment.journal, deployment.Attests entry)
    (h : deployment.session? owner = none) : deployment.asks owner = [] := by
  refine List.filterMap_eq_nil_iff.mpr fun entry member => ?_
  have attests := attested entry member
  cases entry with
  | posted job => rfl
  | asked who envelope result =>
      cases who with
      | none => rfl
      | some who =>
          simp only [Entry.asked?, ite_eq_right_iff, reduceCtorEq, imp_false]
          rintro ⟨rfl, named⟩
          exact not_signs h envelope.caller envelope.request (attests named)

/-- A session on whose behalf nothing was asked is not severed. -/
theorem isSevered_eq_false {deployment : Deployment σ} {owner : Nat}
    (h : deployment.asks owner = []) : deployment.isSevered owner = false := by
  by_contra severed
  rcases exists_of_isSevered (eq_true_of_ne_false severed) with
    ⟨⟨caller, request⟩, failure, inJournal, vital⟩
  have unasked := List.filterMap_eq_nil_iff.mp h _ inJournal
  cases request <;> simp [Request.isVital] at vital <;>
    simp [Entry.asked?, Request.session?] at unasked

/-! ## Nothing is lost or overtaken -/

/-- What was asked, what is just being asked, and what waits add up to what was
posted. -/
structure Delivery (underway : List Job) (deployment : Deployment σ) : Prop where
  attested : ∀ entry ∈ deployment.journal, deployment.Attests entry
  queued : ∀ dispatcher, ∀ job ∈ deployment.queue dispatcher,
    deployment.mode? dispatcher = some .queued ∧
      deployment.Signs job.owner job.caller job.request ∧
      ∀ manager, deployment.managers[job.owner]? = some manager → manager.dispatcher = dispatcher
  signed : ∀ job ∈ underway, deployment.Signs job.owner job.caller job.request
  live : ∀ owner manager, deployment.managers[owner]? = some manager →
    deployment.isLive manager.dispatcher = true →
      deployment.posts owner =
        deployment.asks owner ++ underway.filterMap (Job.request? owner) ++
          deployment.waiting manager.dispatcher owner
  dead : ∀ owner manager, deployment.managers[owner]? = some manager →
    deployment.isLive manager.dispatcher = false →
      deployment.asks owner = [] ∧ underway.filterMap (Job.request? owner) = []

theorem Fresh.delivery {deployment : Deployment σ} (fresh : deployment.Fresh) :
    Delivery [] deployment where
  attested := by simp [fresh.journal]
  queued := by
    intro dispatcher job member
    cases hdispatcher : deployment.dispatchers[dispatcher]? with
    | none => simp [queue, hdispatcher] at member
    | some found =>
        have empty := fresh.jobs found (List.mem_of_getElem? hdispatcher)
        simp [queue, hdispatcher, empty] at member
  signed := by simp
  live := by
    intro owner manager _ _
    have empty : deployment.waiting manager.dispatcher owner = [] := by
      cases hdispatcher : deployment.dispatchers[manager.dispatcher]? with
      | none => simp [waiting, queue, hdispatcher]
      | some found =>
          have empty := fresh.jobs found (List.mem_of_getElem? hdispatcher)
          simp [waiting, queue, hdispatcher, empty]
    simp [posts, asks, fresh.journal, empty]
  dead := by simp [asks, fresh.journal]

namespace Delivery

variable {underway : List Job} {first second : Deployment σ}

/-- A session that is not there has posted nothing, and nothing is asked or waits
on its behalf. -/
theorem silent (delivery : Delivery underway first) {owner : Nat}
    (h : first.session? owner = none) (dispatcher : Nat) :
    first.posts owner = [] ∧ first.asks owner = [] ∧
      underway.filterMap (Job.request? owner) = [] ∧ first.waiting dispatcher owner = [] := by
  have unsigned : ∀ jobs : List Job,
      (∀ job ∈ jobs, first.Signs job.owner job.caller job.request) →
        jobs.filterMap (Job.request? owner) = [] := by
    intro jobs signed
    refine List.filterMap_eq_nil_iff.mpr fun job member => ?_
    by_cases hown : job.owner = owner
    · subst hown
      exact absurd (signed job member) (not_signs h job.caller job.request)
    · simp [Job.request?, hown]
  exact ⟨posts_eq_nil delivery.attested h, asks_eq_nil delivery.attested h,
    unsigned underway delivery.signed,
    unsigned _ fun job member => (delivery.queued dispatcher job member).2.1⟩

/-- What was asked was posted, in the same order. -/
theorem asks_prefix (delivery : Delivery underway first) (owner : Nat) :
    first.asks owner <+: first.posts owner := by
  cases hmanager : first.managers[owner]? with
  | none =>
      have absent : first.session? owner = none := by simp [session?, hmanager]
      rw [(delivery.silent absent 0).2.1]
      exact List.nil_prefix
  | some manager =>
      cases hlive : first.isLive manager.dispatcher with
      | true =>
          rw [delivery.live owner manager hmanager hlive, List.append_assoc]
          exact List.prefix_append _ _
      | false =>
          rw [(delivery.dead owner manager hmanager hlive).1]
          exact List.nil_prefix

/-- The manager of a job that is signed keeps its dispatcher. -/
theorem dispatcher_of_signs (extension : Extends first second) {owner : Nat} {caller : String}
    {request : Request} (signed : first.Signs owner caller request) {dispatcher : Nat}
    (home : ∀ manager, first.managers[owner]? = some manager → manager.dispatcher = dispatcher) :
    ∀ manager, second.managers[owner]? = some manager → manager.dispatcher = dispatcher := by
  intro later hlater
  rcases signed with ⟨manager, session, hmanager, -⟩
  rcases extension owner manager hmanager with ⟨found, hfound, -, same, -⟩
  rw [hlater] at hfound
  cases hfound
  exact same.trans (home manager hmanager)

/-- Steps that leave the dispatchers alone, by which requests of sessions are asked
at most. -/
theorem advance {later : List Job} (delivery : Delivery underway first)
    (extension : Extends first second) (dispatchers : second.dispatchers = first.dispatchers)
    (attested : ∀ entry ∈ second.journal, second.Attests entry)
    (signed : ∀ job ∈ later, second.Signs job.owner job.caller job.request)
    (posts : ∀ owner, second.posts owner = first.posts owner)
    (moved : ∀ owner, second.asks owner ++ later.filterMap (Job.request? owner) =
      first.asks owner ++ underway.filterMap (Job.request? owner)) :
    Delivery later second := by
  have sameQueue : ∀ dispatcher, second.queue dispatcher = first.queue dispatcher := by
    simp [queue, dispatchers]
  have sameMode : ∀ dispatcher, second.mode? dispatcher = first.mode? dispatcher := by
    simp [mode?, dispatchers]
  refine ⟨attested, ?_, signed, ?_, ?_⟩
  · intro dispatcher job member
    rw [sameQueue] at member
    rcases delivery.queued dispatcher job member with ⟨mode, signed, home⟩
    exact ⟨(sameMode dispatcher).trans mode, extension.signs signed,
      dispatcher_of_signs extension signed home⟩
  · intro owner manager hmanager live
    rw [posts, moved, waiting, sameQueue, ← waiting]
    rcases extension.former hmanager with absent | ⟨former, hformer, same⟩
    · rcases delivery.silent absent manager.dispatcher with ⟨noPosts, noAsks, noUnderway, noWaiting⟩
      rw [noPosts, noAsks, noUnderway, noWaiting]
      rfl
    · rw [same] at live ⊢
      exact delivery.live owner former hformer (by simpa [isLive, sameMode] using live)
  · intro owner manager hmanager dead
    apply List.append_eq_nil_iff.mp
    rw [moved]
    rcases extension.former hmanager with absent | ⟨former, hformer, same⟩
    · rcases delivery.silent absent 0 with ⟨-, noAsks, noUnderway, -⟩
      rw [noAsks, noUnderway]
      rfl
    · rw [same] at dead
      obtain ⟨noAsks, noUnderway⟩ :=
        delivery.dead owner former hformer (by simpa [isLive, sameMode] using dead)
      rw [noAsks, noUnderway]
      rfl

/-- Steps that do not concern the journal and the dispatchers. -/
theorem extend (delivery : Delivery underway first) (extension : Extends first second)
    (dispatchers : second.dispatchers = first.dispatchers)
    (journal : second.journal = first.journal) : Delivery underway second := by
  refine delivery.advance extension dispatchers ?_
    (fun job member => extension.signs (delivery.signed job member)) (by simp [posts, journal])
    (by simp [asks, journal])
  intro entry member
  rw [journal] at member
  exact extension.attests (delivery.attested entry member)

end Delivery

/-! ## Jobs -/

theorem asks_noted (deployment : Deployment σ) (owner : Nat) (entry : Entry) :
    (deployment.noted entry).asks owner =
      deployment.asks owner ++ (entry.asked? owner).toList := by
  simp [asks, noted, List.filterMap_append, List.filterMap_cons]
  cases entry.asked? owner <;> rfl

theorem posts_posted (deployment : Deployment σ) (owner : Nat) (job : Job) :
    (deployment.noted (.posted job)).posts owner =
      deployment.posts owner ++ (job.request? owner).toList :=
  posts_noted deployment owner (.posted job)

theorem asks_posted (deployment : Deployment σ) (owner : Nat) (job : Job) :
    (deployment.noted (.posted job)).asks owner = deployment.asks owner :=
  (asks_noted deployment owner (.posted job)).trans (List.append_nil _)

theorem queue_noted (deployment : Deployment σ) (entry : Entry) (dispatcher : Nat) :
    (deployment.noted entry).queue dispatcher = deployment.queue dispatcher := rfl

theorem waiting_noted (deployment : Deployment σ) (entry : Entry) (dispatcher owner : Nat) :
    (deployment.noted entry).waiting dispatcher owner = deployment.waiting dispatcher owner := rfl

def withDispatcher (deployment : Deployment σ) (dispatcher : Nat) (changed : Dispatcher Job) :
    Deployment σ :=
  { deployment with dispatchers := deployment.dispatchers.set dispatcher changed }

theorem posts_withDispatcher (deployment : Deployment σ) (dispatcher : Nat)
    (changed : Dispatcher Job) (owner : Nat) :
    (deployment.withDispatcher dispatcher changed).posts owner = deployment.posts owner := rfl

theorem asks_withDispatcher (deployment : Deployment σ) (dispatcher : Nat)
    (changed : Dispatcher Job) (owner : Nat) :
    (deployment.withDispatcher dispatcher changed).asks owner = deployment.asks owner := rfl

theorem queue_withDispatcher {deployment : Deployment σ} {dispatcher : Nat}
    {former : Dispatcher Job} (h : deployment.dispatchers[dispatcher]? = some former)
    (changed : Dispatcher Job) (other : Nat) :
    (deployment.withDispatcher dispatcher changed).queue other =
      if dispatcher = other then changed.jobs else deployment.queue other := by
  have bound := (List.getElem?_eq_some_iff.mp h).1
  by_cases same : dispatcher = other
  · subst same
    simp [queue, withDispatcher, bound]
  · simp [queue, withDispatcher, same]

theorem mode?_withDispatcher {deployment : Deployment σ} {dispatcher : Nat}
    {former : Dispatcher Job} (h : deployment.dispatchers[dispatcher]? = some former)
    {changed : Dispatcher Job} (same : changed.mode = former.mode) (other : Nat) :
    (deployment.withDispatcher dispatcher changed).mode? other = deployment.mode? other := by
  have bound := (List.getElem?_eq_some_iff.mp h).1
  by_cases hother : dispatcher = other
  · subst hother
    rw [mode?, mode?, h]
    simp [withDispatcher, bound, same]
  · simp [mode?, withDispatcher, hother]

theorem queue_of_getElem? {deployment : Deployment σ} {dispatcher : Nat}
    {found : Dispatcher Job} (h : deployment.dispatchers[dispatcher]? = some found) :
    deployment.queue dispatcher = found.jobs := by
  simp [queue, h]

theorem mode?_of_getElem? {deployment : Deployment σ} {dispatcher : Nat}
    {found : Dispatcher Job} (h : deployment.dispatchers[dispatcher]? = some found) :
    deployment.mode? dispatcher = some found.mode := by
  simp [mode?, h]

namespace Delivery

variable {deployment : Deployment σ}

/-- The journal after a job of a session was posted. -/
theorem attests_posted {underway : List Job} (delivery : Delivery underway deployment) {job : Job}
    (signed : deployment.Signs job.owner job.caller job.request) :
    ∀ entry ∈ (deployment.noted (.posted job)).journal,
      (deployment.noted (.posted job)).Attests entry := by
  intro entry member
  have extension : Extends deployment (deployment.noted (.posted job)) := .of_eq rfl
  rcases List.mem_append.mp member with member | member
  · exact extension.attests (delivery.attested entry member)
  · rw [List.mem_singleton.mp member]
    exact extension.signs signed

/-- A job that no dispatcher takes is lost. -/
theorem lost (delivery : Delivery [] deployment) {job : Job}
    (signed : deployment.Signs job.owner job.caller job.request)
    (dead : ∀ manager, deployment.managers[job.owner]? = some manager →
      deployment.isLive manager.dispatcher = false) :
    Delivery [] (deployment.noted (.posted job)) := by
  refine ⟨delivery.attests_posted signed, delivery.queued, by simp, ?_, ?_⟩
  · intro owner manager hmanager live
    have other : job.owner ≠ owner := by
      rintro rfl
      exact Bool.false_ne_true ((dead manager hmanager).symm.trans live)
    rw [posts_posted, asks_posted, waiting_noted, delivery.live owner manager hmanager live]
    simp [Job.request?, other]
  · intro owner manager hmanager dead
    rw [asks_posted]
    exact delivery.dead owner manager hmanager dead

/-- A job that is posted to a dispatcher without jobs may be run at once. -/
theorem begin {manager : Manager} {job : Job} (delivery : Delivery [] deployment)
    (hmanager : deployment.managers[job.owner]? = some manager)
    (signed : deployment.Signs job.owner job.caller job.request)
    (live : deployment.isLive manager.dispatcher = true)
    (empty : deployment.queue manager.dispatcher = []) :
    Delivery [job] (deployment.noted (.posted job)) := by
  have only : ∀ found, deployment.managers[job.owner]? = some found → found = manager :=
    fun found hfound => Option.some.inj (hfound.symm.trans hmanager)
  refine ⟨delivery.attests_posted signed, delivery.queued, ?_, ?_, ?_⟩
  · intro other member
    rw [List.mem_singleton.mp member]
    exact signed
  · intro owner found hfound livefound
    rw [posts_posted, asks_posted, waiting_noted,
      delivery.live owner found hfound livefound]
    by_cases hown : job.owner = owner
    · subst hown
      rw [only found hfound]
      simp [Job.request?, waiting, empty]
    · simp [Job.request?, hown]
  · intro owner found hfound dead
    have other : job.owner ≠ owner := by
      rintro rfl
      rw [only found hfound] at dead
      exact Bool.false_ne_true (dead.symm.trans live)
    rw [asks_posted]
    simpa [Job.request?, other] using delivery.dead owner found hfound dead

/-- A job that is posted to a queue waits behind the others. -/
theorem enqueue {manager : Manager} {job : Job} {queue : Dispatcher Job}
    (delivery : Delivery [] deployment)
    (hmanager : deployment.managers[job.owner]? = some manager)
    (signed : deployment.Signs job.owner job.caller job.request)
    (hqueue : deployment.dispatchers[manager.dispatcher]? = some queue)
    (mode : queue.mode = .queued) :
    Delivery []
      ((deployment.noted (.posted job)).withDispatcher manager.dispatcher (queue.push job)) := by
  have only : ∀ found, deployment.managers[job.owner]? = some found → found = manager :=
    fun found hfound => Option.some.inj (hfound.symm.trans hmanager)
  have hnoted : (deployment.noted (.posted job)).dispatchers[manager.dispatcher]? = some queue :=
    hqueue
  have pushed : (queue.push job).mode = queue.mode := rfl
  have sameMode := mode?_withDispatcher hnoted pushed
  have sameLive : ∀ other,
      ((deployment.noted (.posted job)).withDispatcher manager.dispatcher
        (queue.push job)).isLive other = deployment.isLive other :=
    fun other => congrArg (Option.any Dispatcher.Mode.isLive) (sameMode other)
  have queues := queue_withDispatcher hnoted (queue.push job)
  have jobs := queue_of_getElem? hqueue
  refine ⟨delivery.attests_posted signed, ?_, by simp, ?_, ?_⟩
  · intro dispatcher other member
    rw [queues] at member
    rw [sameMode]
    split at member
    · next same =>
        subst same
        rcases List.mem_append.mp member with member | member
        · rw [← jobs] at member
          exact delivery.queued manager.dispatcher other member
        · rw [List.mem_singleton.mp member]
          refine ⟨(mode?_of_getElem? hqueue).trans (congrArg some mode), signed, ?_⟩
          intro found hfound
          rw [only found hfound]
    · exact delivery.queued dispatcher other member
  · intro owner found hfound live
    have before := delivery.live owner found hfound ((sameLive found.dispatcher).symm.trans live)
    have after : waiting ((deployment.noted (.posted job)).withDispatcher manager.dispatcher
        (queue.push job)) found.dispatcher owner =
          deployment.waiting found.dispatcher owner ++ (job.request? owner).toList := by
      rw [waiting, queues]
      by_cases hown : job.owner = owner
      · subst hown
        rw [only found hfound, if_pos rfl, waiting, jobs]
        simp [Dispatcher.push, Job.request?]
      · split
        · next same =>
            rw [← same, waiting, jobs]
            simp [Dispatcher.push, Job.request?, hown]
        · simp [Job.request?, hown, waiting, queue_noted]
    rw [posts_withDispatcher, posts_posted, asks_withDispatcher, asks_posted, after, before,
      ← List.append_assoc]
  · intro owner found hfound dead
    rw [asks_withDispatcher, asks_posted]
    exact delivery.dead owner found hfound ((sameLive found.dispatcher).symm.trans dead)

/-- The next job of a queue is taken from it to be run. -/
theorem take {dispatcher : Nat} {queue rest : Dispatcher Job} {job : Job}
    (delivery : Delivery [] deployment)
    (hqueue : deployment.dispatchers[dispatcher]? = some queue)
    (popped : queue.pop? = some (job, rest)) :
    Delivery [job] (deployment.withDispatcher dispatcher rest) := by
  rcases Dispatcher.of_pop? popped with ⟨hjobs, sameMode⟩
  have jobs : deployment.queue dispatcher = job :: rest.jobs :=
    (queue_of_getElem? hqueue).trans hjobs
  have modes := mode?_withDispatcher hqueue sameMode
  have lives : ∀ other, (deployment.withDispatcher dispatcher rest).isLive other =
      deployment.isLive other :=
    fun other => congrArg (Option.any Dispatcher.Mode.isLive) (modes other)
  have queues := queue_withDispatcher hqueue rest
  rcases delivery.queued dispatcher job (by simp [jobs]) with ⟨mode, signed, home⟩
  have live : deployment.isLive dispatcher = true := by simp [isLive, mode, Dispatcher.Mode.isLive]
  refine ⟨delivery.attested, ?_, ?_, ?_, ?_⟩
  · intro other queuing member
    rw [queues] at member
    rw [modes]
    split at member
    · next same =>
        subst same
        exact delivery.queued dispatcher queuing (by simp [jobs, member])
    · exact delivery.queued other queuing member
  · intro other member
    rw [List.mem_singleton.mp member]
    exact signed
  · intro owner manager hmanager livemanager
    have before := delivery.live owner manager hmanager
      ((lives manager.dispatcher).symm.trans livemanager)
    have after : deployment.waiting manager.dispatcher owner =
        (job.request? owner).toList ++
          (deployment.withDispatcher dispatcher rest).waiting manager.dispatcher owner := by
      rw [waiting, waiting, queues]
      by_cases hown : job.owner = owner
      · subst hown
        rw [home manager hmanager, if_pos rfl, jobs]
        simp [Job.request?]
      · split
        · next same =>
            rw [← same, jobs]
            simp [Job.request?, hown]
        · simp [Job.request?, hown]
    rw [posts_withDispatcher, asks_withDispatcher, before, after, Job.filterMap_singleton]
    simp
  · intro owner manager hmanager dead
    have deadmanager := (lives manager.dispatcher).symm.trans dead
    rcases delivery.dead owner manager hmanager deadmanager with ⟨noAsks, -⟩
    have other : job.owner ≠ owner := by
      rintro rfl
      rw [home manager hmanager] at deadmanager
      exact Bool.false_ne_true (deadmanager.symm.trans live)
    refine ⟨(asks_withDispatcher deployment dispatcher rest owner).trans noAsks, ?_⟩
    simp [Job.request?, other]

theorem discard {underway : List Job} (delivery : Delivery underway deployment)
    (request : Request) : Delivery underway (deployment.discard request) :=
  delivery.extend (.of_eq rfl) rfl rfl

end Delivery

variable [Service σ]

theorem journal_run (deployment : Deployment σ) (job : Job) :
    (deployment.run job).journal = deployment.journal ++ [deployment.runLine job] := by
  rw [run_eq]
  split <;> rfl

theorem dispatchers_run (deployment : Deployment σ) (job : Job) :
    (deployment.run job).dispatchers = deployment.dispatchers := by
  rw [run_eq]
  split <;> rfl

theorem extends_run (deployment : Deployment σ) (job : Job) :
    Extends deployment (deployment.run job) := by
  have asked : Extends deployment
      (deployment.ask (some job.owner) ⟨job.caller, job.request⟩).2 := .of_eq rfl
  rw [run_eq]
  split
  · exact asked.trans (extends_updateSession _ job.owner fun _ => rfl)
  · exact asked

/-- When a job of a session is run, the service is asked its request. -/
theorem asks_run (deployment : Deployment σ) (owner : Nat) {job : Job}
    (h : job.request.session?.isSome) :
    (deployment.run job).asks owner =
      deployment.asks owner ++ (job.request? owner).toList := by
  have asked : Entry.asked? owner (deployment.runLine job) = job.request? owner := by
    simp [runLine, Entry.asked?, Job.request?, h]
  rw [asks, journal_run, List.filterMap_append, ← asked]
  cases hasked : Entry.asked? owner (deployment.runLine job) <;> simp [asks, hasked]

namespace Delivery

variable {underway : List Job} {deployment first second : Deployment σ}

/-- A job that is run is not underway any more. -/
theorem run {job : Job} (delivery : Delivery [job] deployment) :
    Delivery [] (deployment.run job) := by
  have extension := extends_run deployment job
  have signed := delivery.signed job (by simp)
  have named : job.request.session?.isSome := by
    rcases signed.session? with ⟨session, -, hrequest⟩
    simp [hrequest]
  refine delivery.advance extension (dispatchers_run deployment job) ?_ (by simp) ?_ ?_
  · intro entry member
    rw [journal_run, List.mem_append, List.mem_singleton] at member
    rcases member with member | rfl
    · exact extension.attests (delivery.attested entry member)
    · exact fun _ => extension.signs signed
  · intro owner
    exact (sequel_run deployment owner job).posts.trans (List.append_nil _)
  · intro owner
    rw [asks_run deployment owner named, Job.filterMap_singleton]
    exact List.append_nil _

theorem postRequest (delivery : Delivery [] deployment) {owner : Nat} {session : Session}
    {request : Request} (hsession : deployment.session? owner = some session)
    (hrequest : request.session? = some session.id) :
    Delivery [] (deployment.postRequest owner request) := by
  rcases manager_of_session? hsession with ⟨manager, hmanager, hown⟩
  let job : Job := ⟨owner, manager.caller, request⟩
  have signed : deployment.Signs job.owner job.caller job.request :=
    ⟨manager, session, hmanager, rfl, hown, hrequest⟩
  have home : deployment.managers[job.owner]? = some manager := hmanager
  have lost : deployment.isLive manager.dispatcher = false →
      Delivery [] ((deployment.noted (.posted job)).discard request) := by
    intro dead
    refine Delivery.discard (delivery.lost signed ?_) request
    intro found hfound
    rw [home] at hfound
    cases hfound
    exact dead
  simp only [Deployment.postRequest, hmanager]
  cases hqueue : deployment.dispatchers[manager.dispatcher]? with
  | none =>
      have dropped : deployment.post manager.dispatcher job =
          (deployment.noted (.posted job)).discard request := by
        simp [post, noted, hqueue, job]
      rw [dropped]
      exact lost (by simp [isLive, mode?, hqueue])
  | some queue =>
      cases mode : queue.mode with
      | immediate =>
          have ran : deployment.post manager.dispatcher job =
              (deployment.noted (.posted job)).run job := by
            simp [post, noted, hqueue, mode]
          have live : deployment.isLive manager.dispatcher = true := by
            simp [isLive, mode?, hqueue, mode, Dispatcher.Mode.isLive]
          have empty : deployment.queue manager.dispatcher = [] := by
            refine List.eq_nil_iff_forall_not_mem.mpr fun waiting member => ?_
            have queued := (delivery.queued manager.dispatcher waiting member).1
            simp [mode?, hqueue, mode] at queued
          rw [ran]
          exact (delivery.begin home signed live empty).run
      | queued =>
          have waits : deployment.post manager.dispatcher job =
              (deployment.noted (.posted job)).withDispatcher manager.dispatcher
                (queue.push job) := by
            simp [post, noted, hqueue, mode, withDispatcher]
          rw [waits]
          exact delivery.enqueue home signed hqueue mode
      | stopped =>
          have dropped : deployment.post manager.dispatcher job =
              (deployment.noted (.posted job)).discard request := by
            simp [post, noted, hqueue, mode, job]
          rw [dropped]
          exact lost (by simp [isLive, mode?, hqueue, mode, Dispatcher.Mode.isLive])

theorem work (delivery : Delivery [] deployment) (dispatcher : Nat) :
    Delivery [] (deployment.work dispatcher) := by
  unfold Deployment.work
  split
  · exact delivery
  · next job rest hpopped =>
      rcases Option.bind_eq_some_iff.mp hpopped with ⟨queue, hqueue, popped⟩
      exact (delivery.take hqueue popped).run

/-- Questions are not asked on behalf of a session. -/
theorem ask (delivery : Delivery [] deployment) (asker : Nat) {envelope : Envelope}
    (h : envelope.request.session? = none) :
    Delivery [] (deployment.ask (some asker) envelope).2 := by
  refine delivery.advance (.of_eq rfl) rfl ?_ (by simp) ?_ ?_
  · intro entry member
    have extension : Extends deployment (deployment.ask (some asker) envelope).2 := .of_eq rfl
    rcases List.mem_append.mp member with member | member
    · exact extension.attests (delivery.attested entry member)
    · rw [List.mem_singleton.mp member]
      intro named
      simp [h] at named
  · exact fun owner => posts_ask deployment owner (some asker) envelope
  · intro owner
    rw [ask_eq, asks_noted]
    simp [Entry.asked?, h, answerAll, asks]

theorem elementary {owner : Nat} (delivery : Delivery [] first)
    (step : Elementary owner first second) : Delivery [] second := by
  cases step with
  | join manager fresh => exact delivery.extend (extends_addManager first manager) rfl rfl
  | make hmanager fresh =>
      exact delivery.extend (extends_ensureSession first owner)
        (dispatchers_ensureSession first owner) (journal_ensureSession first owner)
  | mark change =>
      exact delivery.extend (extends_mark first owner change) rfl rfl
  | revise change same => exact delivery.extend (extends_updateSession first owner same) rfl rfl
  | @began manager session hmanager hsession token component flags =>
      have extension := first.extends_opening owner manager token component flags
      have there : first.session? owner = some session :=
        (session?_of_manager hmanager).trans hsession
      rw [began_eq]
      exact (delivery.extend extension rfl rfl).postRequest
        (session?_opening there manager token component flags) rfl
  | post hsession hrequest silent => exact delivery.postRequest hsession hrequest
  | put question =>
      cases hmanager : first.managers[owner]? with
      | none =>
          rw [put_eq_self hmanager]
          exact delivery
      | some manager =>
          rw [put_eq hmanager]
          have channeled : Delivery [] (first.newChannel manager.timeout).2 :=
            delivery.extend (.of_eq rfl) rfl rfl
          apply channeled.ask owner
          cases question <;> rfl
  | remove removal hmanager => exact delivery.ask owner rfl

/-- Requests are delivered in the order of posting by every event. -/
theorem after [Autonomous σ] (delivery : Delivery [] deployment) (event : Event σ) :
    Delivery [] (deployment.after event) :=
  after_keeps (fun _ _ _ step delivery => Delivery.elementary delivery step)
    (fun _ dispatcher delivery => Delivery.work delivery dispatcher)
    (fun _ _ delivery => Delivery.extend delivery (.of_eq rfl) rfl rfl)
    (fun _ _ delivery => Delivery.extend delivery (.of_eq rfl) rfl rfl) event delivery

end Delivery

/-- And so they are by every run. -/
theorem delivery_follow [Autonomous σ] {deployment : Deployment σ} (fresh : deployment.Fresh)
    (events : List (Event σ)) : Delivery [] (deployment.follow events) := by
  have after : ∀ (between : Deployment σ) (event : Event σ), Delivery [] between →
      Delivery [] (between.after event) := fun _ event delivery => delivery.after event
  exact follow_keeps after fresh.delivery events

end Deployment
end ContentCapture
