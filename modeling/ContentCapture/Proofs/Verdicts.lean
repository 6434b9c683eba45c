import ContentCapture.Proofs.Accounts
import ContentCapture.Proofs.Succession

namespace ContentCapture

/-!
# What disables a session

A session finds out whether it is disabled when it looks, and that it looked leaves
no trace in a run.  Whether it is disabled is a matter of the past nevertheless: of the
flags of its last cycle, of the answer to the start of that cycle, if there was one
before the cycle was over, and of the vital requests that have failed since.
-/

namespace Request

def startChannel? : Request → Option ChannelId
  | .startSession _ channel => some channel
  | _ => none

theorem exists_of_startChannel? {request : Request} {channel : ChannelId}
    (h : request.startChannel? = some channel) :
    ∃ start, request = .startSession start channel := by
  cases request with
  | startSession start other => exact ⟨start, congrArg _ (Option.some.inj h)⟩
  | _ => cases h

theorem length_startChannel? (requests : List Request) :
    (requests.filterMap startChannel?).length = (requests.filterMap start?).length := by
  rw [List.length_filterMap_eq_countP, List.length_filterMap_eq_countP]
  congr 1
  funext request
  cases request <;> rfl

end Request

/-- Whether the answer to a start disables the session: a failure does, and a number in
which the third bit is set. -/
def isDisabling : Except ReplyError Int32 → Bool
  | .ok code => code.toBitVec.getLsbD 2
  | .error _ => true

theorem isDisabled_stateOf (answer : Except ReplyError Int32) :
    (Session.stateOf answer).isDisabled = isDisabling answer := by
  cases answer with
  | error failure => exact Session.isDisabled_unanswered
  | ok code =>
      change (code.toUInt32 &&& 4 == 4) = code.toBitVec.getLsbD 2
      have bits : (code.toUInt32 &&& 4 = 4) ↔ code.toBitVec.getLsbD 2 = true := by
        rw [← UInt32.toBitVec_inj]
        change code.toBitVec &&& BitVec.twoPow 32 2 = BitVec.twoPow 32 2 ↔ _
        rw [BitVec.and_twoPow]
        cases code.toBitVec.getLsbD 2 <;> decide
      rw [Bool.eq_iff_iff, beq_iff_eq]
      exact bits

/-! ## While a cycle lasts -/

theorem Body.filterMap_startChannel? {start : SessionStart} {finished : Bool}
    {body : List Request} (hbody : Body start finished body) :
    body.filterMap Request.startChannel? = [] := by
  cases hbody <;> rfl

/-- While an announced cycle lasts, a session knows what it knows from the channel of the last
start that it has posted. -/
theorem Session.Standing.exists_informed {exchange : Exchange} {session : Session}
    {cycles : List Cycle} {requests : List Request}
    (standing : session.Standing exchange cycles requests) {cycle : Cycle}
    (last : cycles.getLast? = some cycle) (announced : cycle.isAnnounced = true)
    (lasting : cycle.isOver = false) :
    ∃ channel, (requests.filterMap Request.startChannel?).getLast? = some channel ∧
      session.Informed exchange channel := by
  cases standing with
  | resting idle unannounced deaf told =>
      have ended := told.isOver cycle (List.mem_of_getLast? last)
      exact absurd (ended.symm.trans lasting) (by simp)
  | off started unannounced deaf state told off unended =>
      rw [List.getLast?_concat, Option.some_inj] at last
      subst last
      exact absurd (announced.symm.trans off) (by simp)
  | @on _ _ _ _ channel _ _ told on unended hbody silent informed =>
      refine ⟨channel, ?_, informed⟩
      rw [List.filterMap_append, List.filterMap_cons, hbody.filterMap_startChannel?]
      exact List.getLast?_concat

/-- A session that looks while its last cycle lasts finds itself disabled for one of three
reasons. -/
theorem Session.Account.disabled_polled {exchange : Exchange} {severed : Bool}
    {session : Session} {cycles : List Cycle} {requests : List Request}
    (account : session.Account exchange severed cycles requests) {cycle : Cycle}
    (last : cycles.getLast? = some cycle) (lasting : cycle.isOver = false) :
    (session.polled exchange).disabled =
      (cycle.flags.isDisabling ||
        (((requests.filterMap Request.startChannel?).getLast?).bind exchange.peek).any
          isDisabling || severed) := by
  have law := account.law
  cases account.standing with
  | resting idle unannounced deaf told =>
      have ended := told.isOver cycle (List.mem_of_getLast? last)
      exact absurd (ended.symm.trans lasting) (by simp)
  | @off _ _ latest started unannounced deaf state told off unended =>
      rw [List.getLast?_concat, Option.some_inj] at last
      subst last
      have disabling : latest.flags.isDisabling = true := by simpa [Cycle.isAnnounced] using off
      rw [Session.polled_of_startReply deaf, law, state, Session.isDisabled_turnedOff, disabling]
      rfl
  | @on _ requests body latest channel started announced told on unended hbody silent informed =>
      rw [List.getLast?_concat, Option.some_inj] at last
      subst last
      have enabling : latest.flags.isDisabling = false := by simpa [Cycle.isAnnounced] using on
      have asked : ((requests ++ .startSession (latest.start session.id) channel :: body).filterMap
          Request.startChannel?).getLast? = some channel := by
        rw [List.filterMap_append, List.filterMap_cons, hbody.filterMap_startChannel?]
        exact List.getLast?_concat
      rw [informed.law_polled law, informed.state_polled, asked, enabling, Option.bind_some,
        Bool.false_or]
      cases exchange.peek channel with
      | none => rfl
      | some answer => exact congrArg (· || severed) (isDisabled_stateOf answer)

namespace Deployment

variable {σ : Type}

/-- What is found in the channel of the last start that was posted, if anything. -/
def startAnswer? (deployment : Deployment σ) (owner : Nat) : Option (Except ReplyError Int32) :=
  (((deployment.posts owner).filterMap Request.startChannel?).getLast?).bind
    deployment.exchange.peek

/-- While its last cycle lasts, a session is disabled for one of three reasons. -/
theorem Accounted.isDisabled_eq {deployment : Deployment σ} {owner : Nat} {cycles : List Cycle}
    (accounted : Accounted deployment owner cycles) {cycle : Cycle}
    (last : cycles.getLast? = some cycle) (lasting : cycle.isOver = false) :
    deployment.isDisabled owner =
      (cycle.flags.isDisabling || (deployment.startAnswer? owner).any isDisabling ||
        deployment.isSevered owner) := by
  cases hsession : deployment.session? owner with
  | none => simp [accounted.absent hsession] at last
  | some session =>
      rw [isDisabled_of_session? hsession]
      exact (accounted.present session hsession).disabled_polled last lasting

/-- While it is not started, a session is disabled if it was so at the end of its last cycle
or was severed since. -/
theorem Accounted.isDisabled_of_over {deployment : Deployment σ} {owner : Nat}
    {cycles : List Cycle} (accounted : Accounted deployment owner cycles)
    (delivery : Delivery [] deployment)
    (hover : ∀ cycle, cycles.getLast? = some cycle → cycle.isOver = true) :
    deployment.isDisabled owner =
      ((cycles.getLast?.bind Cycle.ending).getD false || deployment.isSevered owner) := by
  cases hsession : deployment.session? owner with
  | none =>
      have unsevered := isSevered_eq_false (delivery.silent hsession 0).2.1
      rw [isDisabled_of_absent hsession, accounted.absent hsession, unsevered]
      rfl
  | some session =>
      have account := accounted.present session hsession
      have idle : session.lifecycle ≠ .started := by
        intro started
        rcases account.standing.started_iff.mp started with ⟨cycle, last, lasting⟩
        exact Bool.false_ne_true (lasting.symm.trans (hover cycle last))
      rw [isDisabled_of_session? hsession,
        Session.polled_of_startReply (account.standing.deaf_of_idle idle)]
      exact account.verdict idle

theorem Accounted.isSevered_eq_false {deployment : Deployment σ} {owner : Nat}
    (accounted : Accounted deployment owner []) (delivery : Delivery [] deployment) :
    deployment.isSevered owner = false := by
  apply Deployment.isSevered_eq_false
  have silent : deployment.posts owner = [] := by
    cases hsession : deployment.session? owner with
    | none => exact (delivery.silent hsession 0).1
    | some session => exact (accounted.present session hsession).standing.requests_eq_nil
  exact List.prefix_nil.mp (silent ▸ delivery.asks_prefix owner)

/-! ## Between two announced starts -/

theorem Accounted.length_starts {deployment : Deployment σ} {owner : Nat} {cycles : List Cycle}
    (accounted : Accounted deployment owner cycles) (delivery : Delivery [] deployment) :
    ((deployment.posts owner).filterMap Request.start?).length =
      (cycles.filter Cycle.isAnnounced).length := by
  cases hsession : deployment.session? owner with
  | none =>
      rw [(delivery.silent hsession 0).1, accounted.absent hsession]
      rfl
  | some session =>
      rw [(accounted.present session hsession).standing.filterMap_start?, announcedStarts,
        List.length_map]

/-- A session that was severed stays so until its next start is posted. -/
theorem Precedes.isSevered {first second : Deployment σ} (precedes : first.Precedes second)
    {owner : Nat}
    (starts : ((second.posts owner).filterMap Request.start?).length =
      ((first.posts owner).filterMap Request.start?).length)
    (severed : first.isSevered owner = true) : second.isSevered owner = true := by
  rcases precedes.journal with ⟨rest, hrest⟩
  have none : ∀ entry ∈ rest, entry.startsFor owner = false := by
    rw [Deployment.posts, Deployment.posts, ← hrest, List.filterMap_append,
      List.filterMap_append, List.length_append, Nat.add_eq_left, List.length_eq_zero_iff,
      List.filterMap_filterMap] at starts
    intro entry member
    have unstarted := List.filterMap_eq_nil_iff.mp starts entry member
    rw [Entry.startsFor, unstarted]
    rfl
  rw [Deployment.isSevered, ← hrest, behindLast_append none, List.any_append, Bool.or_eq_true]
  exact .inl severed

/-- The answer to a start stays what it is until the next start is posted. -/
theorem Precedes.startAnswer? {first second : Deployment σ} (precedes : first.Precedes second)
    {owner : Nat}
    (starts : ((second.posts owner).filterMap Request.start?).length =
      ((first.posts owner).filterMap Request.start?).length)
    {answer : Except ReplyError Int32} (found : first.startAnswer? owner = some answer) :
    second.startAnswer? owner = some answer := by
  have same : (first.posts owner).filterMap Request.startChannel? =
      (second.posts owner).filterMap Request.startChannel? := by
    apply ((precedes.posts owner).filterMap _).eq_of_length
    rw [Request.length_startChannel?, Request.length_startChannel?, starts]
  rcases Option.bind_eq_some_iff.mp found with ⟨channel, last, peeked⟩
  rw [Deployment.startAnswer?, ← same, last]
  exact precedes.exchange channel answer peeked

/-! ## The last cycle of a run -/

variable [Service σ] [Autonomous σ]

/-- At an earlier point of a run its last cycle had begun and was not over. -/
structure DuringLast (deployment : Deployment σ) (owner : Nat)
    (events before : List (Event σ)) : Prop where
  earlier : before <+: events
  begun : (deployment.cycles owner before).length = (deployment.cycles owner events).length
  lasting : ∃ cycle, (deployment.cycles owner before).getLast? = some cycle ∧ cycle.isOver = false

/-- If the last cycle of a run is over, it was ended at the last point at which it was
not. -/
theorem exists_ending {deployment : Deployment σ} {owner : Nat} {events : List (Event σ)}
    {cycle : Cycle} {ended : Bool}
    (last : (deployment.cycles owner events).getLast? = some cycle)
    (ending : cycle.ending = some ended) :
    ∃ before, deployment.DuringLast owner events before ∧
      ended = (deployment.follow before).isDisabled owner ∧
      ∀ other, deployment.DuringLast owner events other → other <+: before := by
  induction events using List.reverseRecOn with
  | nil => simp at last
  | append_singleton events event inductionHypothesis =>
      have earlier_of : ∀ other, deployment.DuringLast owner (events ++ [event]) other →
          other <+: events := by
        intro other during
        rcases List.prefix_concat_iff.mp during.earlier with rfl | earlier
        · rcases during.lasting with ⟨found, hfound, lasting⟩
          rw [last, Option.some_inj] at hfound
          subst hfound
          simp [Cycle.isOver, ending] at lasting
        · exact earlier
      have inherit : (deployment.cycles owner events).getLast? = some cycle →
          (deployment.cycles owner events).length =
            (deployment.cycles owner (events ++ [event])).length →
          ∃ before, deployment.DuringLast owner (events ++ [event]) before ∧
            ended = (deployment.follow before).isDisabled owner ∧
            ∀ other, deployment.DuringLast owner (events ++ [event]) other → other <+: before := by
        intro lastBefore same
        rcases inductionHypothesis lastBefore with ⟨before, during, verdict, latest⟩
        refine ⟨before, ⟨during.earlier.trans (List.prefix_append _ _), during.begun.trans same,
          during.lasting⟩, verdict, fun other duringOther => ?_⟩
        exact latest other
          ⟨earlier_of other duringOther, duringOther.begun.trans same.symm, duringOther.lasting⟩
      rcases (deployment.follow events).recount_cases owner (deployment.cycles owner events) event
        with same | ended | ⟨begun, unended, appended⟩
      · rw [← cycles_concat] at same
        rw [same] at last
        exact inherit last (by rw [same])
      · rw [← cycles_concat] at ended
        have length : (deployment.cycles owner events).length =
            (deployment.cycles owner (events ++ [event])).length := by rw [ended, List.length_map]
        rw [ended, List.getLast?_map, Option.map_eq_some_iff] at last
        rcases last with ⟨former, hformer, rfl⟩
        cases hover : former.isOver with
        | true =>
            rw [Cycle.endedBy_eq_self hover] at inherit
            exact inherit hformer length
        | false =>
            have lasting : former.ending = none := by simpa [Cycle.isOver] using hover
            rw [Cycle.endedBy, lasting, Option.some_inj] at ending
            exact ⟨events, ⟨List.prefix_append _ _, length, former, hformer, hover⟩, ending.symm,
              earlier_of⟩
      · rw [← cycles_concat] at appended
        rw [appended, List.getLast?_concat, Option.some_inj] at last
        subst last
        simp [unended] at ending

/-- The last cycle of a run was refused in time if its start had an answer that disables
at a point at which the cycle was not over. -/
def RefusedInTime (deployment : Deployment σ) (owner : Nat) (events : List (Event σ)) : Prop :=
  ∃ before, deployment.DuringLast owner events before ∧
    ((deployment.follow before).startAnswer? owner).any isDisabling = true

theorem DuringLast.beginning_eq {deployment : Deployment σ} {owner : Nat}
    {events before : List (Event σ)} (during : deployment.DuringLast owner events before) :
    (deployment.cycles owner before).map Cycle.beginning =
      (deployment.cycles owner events).map Cycle.beginning := by
  apply (deployment.beginning_prefix owner during.earlier).eq_of_length
  rw [List.length_map, List.length_map, during.begun]

/-- No start is announced while a cycle lasts. -/
theorem DuringLast.announced {deployment : Deployment σ} {owner : Nat}
    {events before : List (Event σ)} (during : deployment.DuringLast owner events before) :
    ((deployment.cycles owner events).filter Cycle.isAnnounced).length =
      ((deployment.cycles owner before).filter Cycle.isAnnounced).length := by
  rw [← Cycle.length_filter_beginning, ← during.beginning_eq, Cycle.length_filter_beginning]

section

variable {deployment : Deployment σ} (fresh : deployment.Fresh) {owner : Nat}
  {events more : List (Event σ)}

include fresh

theorem length_starts_of_follow
    (announced : ((deployment.cycles owner more).filter Cycle.isAnnounced).length =
      ((deployment.cycles owner events).filter Cycle.isAnnounced).length) :
    (((deployment.follow more).posts owner).filterMap Request.start?).length =
      (((deployment.follow events).posts owner).filterMap Request.start?).length := by
  rw [(accounted_follow fresh more owner).length_starts (delivery_follow fresh more), announced,
    (accounted_follow fresh events owner).length_starts (delivery_follow fresh events)]

/-- What disables a session does so until another start is announced. -/
theorem startAnswer?_mono (later : events <+: more)
    (announced : ((deployment.cycles owner more).filter Cycle.isAnnounced).length =
      ((deployment.cycles owner events).filter Cycle.isAnnounced).length)
    (refused : ((deployment.follow events).startAnswer? owner).any isDisabling = true) :
    ((deployment.follow more).startAnswer? owner).any isDisabling = true := by
  rcases (Option.any_eq_true _ _).mp refused with ⟨answer, found, disabling⟩
  have still := (deployment.precedes_of_prefix later).startAnswer?
    (length_starts_of_follow fresh announced) found
  exact (Option.any_eq_true _ _).mpr ⟨answer, still, disabling⟩

theorem isSevered_mono (later : events <+: more)
    (announced : ((deployment.cycles owner more).filter Cycle.isAnnounced).length =
      ((deployment.cycles owner events).filter Cycle.isAnnounced).length)
    (severed : (deployment.follow events).isSevered owner = true) :
    (deployment.follow more).isSevered owner = true :=
  (deployment.precedes_of_prefix later).isSevered (length_starts_of_follow fresh announced) severed

/-- Whether a session is disabled is told by its last cycle. -/
theorem isDisabled_iff :
    (deployment.follow events).isDisabled owner = true ↔
      ∃ cycle, (deployment.cycles owner events).getLast? = some cycle ∧
        (cycle.flags.isDisabling = true ∨ deployment.RefusedInTime owner events ∨
          (deployment.follow events).isSevered owner = true) := by
  have accounted := accounted_follow fresh events owner
  have delivery := delivery_follow fresh events
  cases last : (deployment.cycles owner events).getLast? with
  | none =>
      have none : deployment.cycles owner events = [] := List.getLast?_eq_none_iff.mp last
      rw [accounted.isDisabled_of_over delivery (by simp [last]), last]
      rw [none] at accounted
      simp [accounted.isSevered_eq_false delivery]
  | some cycle =>
      simp only [Option.some_inj, exists_eq_left']
      cases hover : cycle.isOver with
      | false =>
          rw [accounted.isDisabled_eq last hover, Bool.or_eq_true, Bool.or_eq_true, or_assoc]
          refine or_congr Iff.rfl (or_congr ⟨fun refused => ?_, fun refused => ?_⟩ Iff.rfl)
          · exact ⟨events, ⟨List.prefix_refl _, rfl, cycle, last, hover⟩, refused⟩
          · rcases refused with ⟨before, during, refused⟩
            exact startAnswer?_mono fresh during.earlier during.announced refused
      | true =>
          rcases Option.isSome_iff_exists.mp hover with ⟨ended, ending⟩
          rcases exists_ending last ending with ⟨before, during, verdict, latest⟩
          rcases during.lasting with ⟨former, hformer, lasting⟩
          have flags : former.flags = cycle.flags := by
            have lasts := congrArg List.getLast? during.beginning_eq
            rw [List.getLast?_map, List.getLast?_map, hformer, last] at lasts
            exact Cycle.flags_eq_of_beginning (Option.some_inj.mp lasts)
          have weighed := (accounted_follow fresh before owner).isDisabled_eq hformer lasting
          have overAll : ∀ found, (deployment.cycles owner events).getLast? = some found →
              found.isOver = true := by
            intro found hfound
            rw [last, Option.some_inj] at hfound
            exact hfound ▸ hover
          rw [accounted.isDisabled_of_over delivery overAll, last, Option.bind_some, ending,
            Option.getD_some, verdict, weighed, flags]
          simp only [Bool.or_eq_true]
          constructor
          · rintro (((disabling | refused) | severed) | severed)
            · exact .inl disabling
            · exact .inr (.inl ⟨before, during, refused⟩)
            · exact .inr (.inr (isSevered_mono fresh during.earlier during.announced severed))
            · exact .inr (.inr severed)
          · rintro (disabling | ⟨other, duringOther, refused⟩ | severed)
            · exact .inl (.inl (.inl disabling))
            · refine .inl (.inl (.inr ?_))
              have announced := during.announced.symm.trans duringOther.announced
              exact startAnswer?_mono fresh (latest other duringOther) announced refused
            · exact .inr severed

/-- A session that is disabled stays so until another start is announced. -/
theorem isDisabled_mono (later : events <+: more)
    (announced : ((deployment.cycles owner more).filter Cycle.isAnnounced).length =
      ((deployment.cycles owner events).filter Cycle.isAnnounced).length)
    (disabled : (deployment.follow events).isDisabled owner = true) :
    (deployment.follow more).isDisabled owner = true := by
  rcases (isDisabled_iff fresh).mp disabled with ⟨cycle, last, reason⟩
  apply (isDisabled_iff fresh).mpr
  rcases Cycle.getLast?_of_prefix (deployment.beginning_prefix owner later) last with
    ⟨final, hfinal, ⟨same, lengths⟩ | begun⟩
  · have flags := Cycle.flags_eq_of_beginning same
    refine ⟨final, hfinal, ?_⟩
    rcases reason with disabling | ⟨before, during, refused⟩ | severed
    · exact .inl (flags ▸ disabling)
    · exact .inr (.inl ⟨before, ⟨during.earlier.trans later, during.begun.trans lengths,
        during.lasting⟩, refused⟩)
    · exact .inr (.inr (isSevered_mono fresh later announced severed))
  · -- A cycle has begun since that was not announced: its flags are disabling.
    have unannounced : final.isAnnounced = false := by
      cases hannounced : final.isAnnounced with
      | false => rfl
      | true =>
          rw [hannounced, if_pos rfl] at begun
          omega
    exact ⟨final, hfinal, .inl (by simpa [Cycle.isAnnounced] using unannounced)⟩

end

/-- Whatever the service does and however the steps are interleaved, a session is disabled
exactly if it has begun a cycle and one of three things is so of the last one: its flags are
disabling, the answer to its start was there before it was over and disables, or a vital request
of the session has failed since it began.  A session that is disabled stays so until a start
without such flags begins another cycle. -/
theorem isDisabled_of_follow {deployment : Deployment σ} (fresh : deployment.Fresh)
    (events : List (Event σ)) (owner : Nat) :
    ((deployment.follow events).isDisabled owner = true ↔
      ∃ cycle, (deployment.cycles owner events).getLast? = some cycle ∧
        (cycle.flags.isDisabling = true ∨ deployment.RefusedInTime owner events ∨
          (deployment.follow events).isSevered owner = true)) ∧
      ∀ more, events <+: more →
        ((deployment.cycles owner more).filter Cycle.isAnnounced).length =
            ((deployment.cycles owner events).filter Cycle.isAnnounced).length →
          (deployment.follow events).isDisabled owner = true →
            (deployment.follow more).isDisabled owner = true :=
  ⟨isDisabled_iff fresh, fun _ later announced disabled =>
    isDisabled_mono fresh later announced disabled⟩

/-- A session that is destroyed before the service cannot be reached any more.  The event of its
end does not get through. -/
def lateFailure : List (Event ScriptedService) :=
  [.operation (.ensureSession 0), .operation (.startSession 0 ⟨"a"⟩ ⟨"p", "A"⟩ .empty),
    .work 0, .work 0, .operation (.destroySession 0),
    .act (ScriptedAct.cue .sendEvents ⟨.complete .abandoned, some "gone"⟩), .work 0]

theorem isDisabled_of_follow_lateFailure :
    let before := solitary ScriptedService.standard
    before.isDisabled 0 = false ∧ (before.follow lateFailure).isDisabled 0 = true ∧
      (before.cycles 0 lateFailure).map Cycle.ending = [some false] ∧
      ∃ cycle, (before.cycles 0 lateFailure).getLast? = some cycle ∧
        (cycle.flags.isDisabling = true ∨ before.RefusedInTime 0 lateFailure ∨
          (before.follow lateFailure).isSevered 0 = true) := by
  intro before
  have disabled : (before.follow lateFailure).isDisabled 0 = true := by decide +kernel
  exact ⟨by decide +kernel, disabled, by decide +kernel,
    (isDisabled_of_follow (fresh_solitary ScriptedService.standard) lateFailure 0).1.mp disabled⟩

end Deployment
end ContentCapture
