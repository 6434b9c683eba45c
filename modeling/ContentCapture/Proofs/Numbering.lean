import ContentCapture.Proofs.Handling
import Mathlib.Data.List.Pairwise

namespace ContentCapture

/-!
# Requests do not share channels

A reply channel is made for one request, and no other request ever carries it.  A
request of a session is introduced when it is posted, and any other one when the
service is asked it.
-/

/-- The request that a line of the journal introduces. -/
def Entry.introduced? : Entry → Option Request
  | .posted job => some job.request
  | .asked _ envelope _ =>
      if envelope.request.session?.isSome then none else some envelope.request

namespace Exchange

theorem length_answerAll (exchange : Exchange) (answers : List (ChannelId × Answer)) :
    (exchange.answerAll answers).channels.length = exchange.channels.length := by
  induction answers generalizing exchange with
  | nil => rfl
  | cons answer rest inductionHypothesis =>
      exact (inductionHypothesis _).trans (by simp [Exchange.answer])

end Exchange

namespace Deployment

variable {σ : Type}

/-- The requests that were introduced, the first one first. -/
def introduced (deployment : Deployment σ) : List Request :=
  deployment.journal.filterMap Entry.introduced?

/-- The channels of the requests that were introduced. -/
def claimed (deployment : Deployment σ) : List ChannelId :=
  deployment.introduced.filterMap Request.channel?

theorem introduced_noted (deployment : Deployment σ) (entry : Entry) :
    (deployment.noted entry).introduced =
      deployment.introduced ++ entry.introduced?.toList := by
  simp [introduced, noted, List.filterMap_append, List.filterMap_cons]
  cases entry.introduced? <;> rfl

/-- The channels that requests carry were made, each for one request. -/
structure Numbered (deployment : Deployment σ) : Prop where
  distinct : deployment.claimed.Nodup
  made : ∀ channel ∈ deployment.claimed, channel < deployment.exchange.channels.length

/-- Requests with the same channel are the same. -/
theorem Numbered.eq_of_channel? {deployment : Deployment σ} (numbered : Numbered deployment)
    {first second : Request} (hfirst : first ∈ deployment.introduced)
    (hsecond : second ∈ deployment.introduced) {channel : ChannelId}
    (carried : first.channel? = some channel) (again : second.channel? = some channel) :
    first = second := by
  by_contra different
  have apart := List.pairwise_filterMap.mp numbered.distinct
  have symmetric : Std.Symm fun first second : Request =>
      ∀ one, first.channel? = some one → ∀ other, second.channel? = some other → one ≠ other :=
    ⟨fun _ _ apart one hone other hother => (apart other hother one hone).symm⟩
  exact apart.forall hfirst hsecond different channel carried channel again rfl

/-- Channels are different if they are read off the lines that introduce them. -/
theorem Numbered.nodup_of_introduced {deployment : Deployment σ} (numbered : Numbered deployment)
    {label? : Entry → Option ChannelId}
    (introduced : ∀ {entry : Entry} {channel : ChannelId}, label? entry = some channel →
      entry.introduced?.bind Request.channel? = some channel) :
    (deployment.journal.filterMap label?).Nodup := by
  have distinct := numbered.distinct
  rw [claimed, Deployment.introduced, List.filterMap_filterMap] at distinct
  apply List.pairwise_filterMap.mpr
  refine (List.pairwise_filterMap.mp distinct).imp ?_
  intro first second apart one hone other hother
  exact apart one (introduced hone) other (introduced hother)

variable [Service σ]

/-- Channels are made and never taken away. -/
theorem Handling.length_le {hand after : List ChannelId} {first second : Deployment σ}
    (step : Handling hand first after second) :
    first.exchange.channels.length ≤ second.exchange.channels.length := by
  cases step with
  | quiet _ service exchange dispatchers journal =>
      exact Nat.le_of_eq (congrArg (·.channels.length) exchange).symm
  | channel _ timeout => simp [newChannel, Exchange.newChannel]
  | ask _ asker envelope => simp [exchange_ask, Exchange.length_answerAll]
  | discard _ request => exact Nat.le_of_eq (Exchange.length_answerAll _ _).symm
  | enqueue hqueue job => exact Nat.le_refl _
  | take hqueue popped => exact Nat.le_refl _

theorem Handled.length_le {hand after : List ChannelId} {first second : Deployment σ}
    (chain : Handled hand first after second) :
    first.exchange.channels.length ≤ second.exchange.channels.length := by
  induction chain with
  | refl => exact Nat.le_refl _
  | tail _ step inductionHypothesis => exact Nat.le_trans inductionHypothesis step.length_le

theorem introduced_run (deployment : Deployment σ) {job : Job}
    (h : job.request.session?.isSome) :
    (deployment.run job).introduced = deployment.introduced := by
  rw [introduced, journal_run, List.filterMap_append]
  simp [introduced, runLine, Entry.introduced?, h]

theorem introduced_post (deployment : Deployment σ) (dispatcher : Nat) {job : Job}
    (h : job.request.session?.isSome) :
    (deployment.post dispatcher job).introduced = deployment.introduced ++ [job.request] := by
  have noted : (deployment.noted (.posted job)).introduced =
      deployment.introduced ++ [job.request] := introduced_noted deployment (.posted job)
  simp only [post]
  split
  · exact noted
  · split
    · rw [introduced_run _ h, noted]
    · exact noted
    · exact noted

theorem introduced_postRequest {deployment : Deployment σ} {owner : Nat} {session : Session}
    (hsession : deployment.session? owner = some session) {request : Request}
    (h : request.session?.isSome) :
    (deployment.postRequest owner request).introduced = deployment.introduced ++ [request] := by
  rcases manager_of_session? hsession with ⟨manager, hmanager, -⟩
  rw [postRequest, hmanager]
  exact introduced_post deployment manager.dispatcher h

theorem introduced_ask (deployment : Deployment σ) (asker : Option Nat) {envelope : Envelope}
    (h : envelope.request.session? = none) :
    (deployment.ask asker envelope).2.introduced =
      deployment.introduced ++ [envelope.request] := by
  rw [introduced, journal_ask, List.filterMap_append]
  simp [introduced, Entry.introduced?, h]

namespace Numbered

variable {first second : Deployment σ}

omit [Service σ] in
/-- Steps that introduce nothing. -/
theorem keep (numbered : Numbered first) (introduced : second.introduced = first.introduced)
    (length : first.exchange.channels.length ≤ second.exchange.channels.length) :
    Numbered second where
  distinct := by
    rw [claimed, introduced]
    exact numbered.distinct
  made := by
    rw [claimed, introduced]
    exact fun channel member => Nat.lt_of_lt_of_le (numbered.made channel member) length

omit [Service σ] in
/-- A request is introduced whose channel, if it has one, is the next one. -/
theorem introduce (numbered : Numbered first) {request : Request}
    (introduced : second.introduced = first.introduced ++ [request])
    (next : ∀ channel, request.channel? = some channel →
      channel = first.exchange.channels.length ∧ channel < second.exchange.channels.length)
    (length : first.exchange.channels.length ≤ second.exchange.channels.length) :
    Numbered second := by
  have claims : second.claimed = first.claimed ++ request.channel?.toList := by
    rw [claimed, introduced, List.filterMap_append]
    cases hchannel : request.channel? <;> simp [claimed, hchannel]
  constructor
  · rw [claims, List.nodup_append]
    refine ⟨numbered.distinct, by cases request.channel? <;> simp, ?_⟩
    intro channel member other hother same
    have old := numbered.made channel member
    have new := (next other (Option.mem_toList.mp hother)).1
    rw [same, new] at old
    exact Nat.lt_irrefl _ old
  · rw [claims]
    intro channel member
    rcases List.mem_append.mp member with member | member
    · exact Nat.lt_of_lt_of_le (numbered.made channel member) length
    · exact (next channel (Option.mem_toList.mp member)).2

theorem elementary (numbered : Numbered first) {owner : Nat}
    (step : Elementary owner first second) : Numbered second := by
  have length := step.handled.length_le
  cases step with
  | join manager fresh => exact numbered.keep rfl length
  | make hmanager fresh =>
      refine numbered.keep ?_ length
      rw [introduced, journal_ensureSession]
      rfl
  | mark change => exact numbered.keep rfl length
  | revise change same => exact numbered.keep rfl length
  | @began manager session hmanager hsession token component flags =>
      have there : first.session? owner = some session :=
        (session?_of_manager hmanager).trans hsession
      have opened := session?_opening there manager token component flags
      have made : (first.opening owner manager token component flags).exchange.channels.length =
          first.exchange.channels.length + 1 := by
        simp [opening, updateSession, updateManager, newChannel, Exchange.newChannel]
      have posted := (handled_postRequest opened
        (.startSession ⟨session.id, token, component, flags⟩
          (first.newChannel manager.timeout).1)).length_le
      rw [made] at posted
      refine numbered.introduce (introduced_postRequest opened rfl) ?_ length
      intro other carried
      cases carried
      exact ⟨rfl, posted⟩
  | @post session request hsession hrequest silent =>
      refine numbered.introduce (introduced_postRequest hsession (by simp [hrequest])) ?_ length
      simp [silent]
  | put question =>
      cases hmanager : first.managers[owner]? with
      | none =>
          rw [put_eq_self hmanager]
          exact numbered
      | some manager =>
          rw [put_eq hmanager] at length ⊢
          have unnamed :
              (question.request (first.newChannel manager.timeout).1).session? = none := by
            cases question <;> rfl
          refine numbered.introduce (introduced_ask _ _ unnamed) ?_ length
          intro channel carried
          have same : channel = first.exchange.channels.length := by
            cases question <;> exact (Option.some.inj carried).symm
          refine ⟨same, ?_⟩
          simp [same, exchange_ask, Exchange.length_answerAll, newChannel, Exchange.newChannel]
  | remove removal hmanager =>
      refine numbered.introduce (introduced_ask first _ rfl) ?_ length
      simp [Request.channel?]

theorem work (numbered : Numbered first) (delivery : Delivery [] first) (dispatcher : Nat) :
    Numbered (first.work dispatcher) := by
  refine numbered.keep ?_ (first.handled_work dispatcher).length_le
  unfold Deployment.work
  split
  · rfl
  · next job rest hpopped =>
      rcases Option.bind_eq_some_iff.mp hpopped with ⟨queue, hqueue, popped⟩
      rcases (delivery.take hqueue popped).signed job (by simp) with
        ⟨manager, session, hmanager, hcaller, hsession, hrequest⟩
      exact introduced_run _ (by simp [hrequest])

theorem after [Autonomous σ] (numbered : Numbered first) (delivery : Delivery [] first)
    (event : Event σ) : Numbered (first.after event) := by
  have elementary : ∀ (owner : Nat) (first second : Deployment σ), Elementary owner first second →
      Numbered first ∧ Delivery [] first → Numbered second ∧ Delivery [] second :=
    fun _ _ _ step ⟨numbered, delivery⟩ => ⟨numbered.elementary step, delivery.elementary step⟩
  have work : ∀ (deployment : Deployment σ) (dispatcher : Nat),
      Numbered deployment ∧ Delivery [] deployment →
        Numbered (deployment.work dispatcher) ∧ Delivery [] (deployment.work dispatcher) :=
    fun _ dispatcher ⟨numbered, delivery⟩ =>
      ⟨numbered.work delivery dispatcher, delivery.work dispatcher⟩
  have acted : ∀ (deployment : Deployment σ) (act : Autonomous.Act σ),
      Numbered deployment ∧ Delivery [] deployment →
        Numbered (deployment.acted act) ∧ Delivery [] (deployment.acted act) := by
    refine fun deployment act ⟨numbered, delivery⟩ => ⟨numbered.keep rfl ?_, ?_⟩
    · exact Nat.le_of_eq (Exchange.length_answerAll _ _).symm
    · exact delivery.extend (.of_eq rfl) rfl rfl
  have elapse : ∀ (deployment : Deployment σ) (now : Span),
      Numbered deployment ∧ Delivery [] deployment →
        Numbered { deployment with exchange := deployment.exchange.reached now } ∧
          Delivery [] { deployment with exchange := deployment.exchange.reached now } :=
    fun _ _ ⟨numbered, delivery⟩ =>
      ⟨numbered.keep rfl (by simp [Exchange.reached]), delivery.extend (.of_eq rfl) rfl rfl⟩
  exact (after_keeps elementary work acted elapse event ⟨numbered, delivery⟩).1

end Numbered

theorem numbered_follow [Autonomous σ] {deployment : Deployment σ} (fresh : deployment.Fresh)
    (events : List (Event σ)) : Numbered (deployment.follow events) := by
  induction events using List.reverseRecOn with
  | nil =>
      have silent : deployment.introduced = [] := by simp [introduced, fresh.journal]
      exact ⟨by simp [claimed, silent], by simp [claimed, silent]⟩
  | append_singleton events event inductionHypothesis =>
      rw [follow_concat]
      exact inductionHypothesis.after (delivery_follow fresh events) event

omit [Service σ] in
/-- What a session has posted was introduced. -/
theorem mem_introduced_of_mem_posts {deployment : Deployment σ} {owner : Nat} {request : Request}
    (member : request ∈ deployment.posts owner) : request ∈ deployment.introduced := by
  rcases List.mem_filterMap.mp member with ⟨entry, inJournal, posted⟩
  refine List.mem_filterMap.mpr ⟨entry, inJournal, ?_⟩
  cases entry with
  | posted job =>
      by_cases hown : job.owner = owner
      · simpa [Entry.posted?, Entry.introduced?, hown] using posted
      · simp [Entry.posted?, hown] at posted
  | asked asker envelope result => simp [Entry.posted?] at posted

omit [Service σ] in
/-- The channel of a start that was posted was made. -/
theorem Numbered.channel_lt_of_posts {deployment : Deployment σ} (numbered : Numbered deployment)
    {owner : Nat} {start : SessionStart} {channel : ChannelId}
    (posted : .startSession start channel ∈ deployment.posts owner) :
    channel < deployment.exchange.channels.length := by
  apply numbered.made
  exact List.mem_filterMap.mpr ⟨_, mem_introduced_of_mem_posts posted, rfl⟩

omit [Service σ] in
/-- What the service was asked was introduced. -/
theorem mem_introduced_of_mem_asked {deployment : Deployment σ} (delivery : Delivery [] deployment)
    {envelope : Envelope} (member : envelope ∈ deployment.asked) :
    envelope.request ∈ deployment.introduced := by
  rcases List.mem_filterMap.mp member with ⟨entry, inJournal, hentry⟩
  cases entry with
  | posted job => cases hentry
  | asked asker found result =>
      cases hentry
      have attested := delivery.attested _ inJournal
      cases hnamed : envelope.request.session? with
      | none =>
          exact List.mem_filterMap.mpr ⟨_, inJournal, by simp [Entry.introduced?, hnamed]⟩
      | some session =>
          cases asker with
          | none =>
              change envelope.request.session? = none at attested
              rw [hnamed] at attested
              cases attested
          | some owner =>
              have inAsks : envelope.request ∈ deployment.asks owner :=
                List.mem_filterMap.mpr ⟨_, inJournal, by simp [Entry.asked?, hnamed]⟩
              exact mem_introduced_of_mem_posts ((delivery.asks_prefix owner).subset inAsks)

end Deployment
end ContentCapture
