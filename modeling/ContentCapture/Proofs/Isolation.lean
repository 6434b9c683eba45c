import ContentCapture.Proofs.Keeping
import ContentCapture.Proofs.Outstanding

namespace ContentCapture

/-!
# Late answers

When a cycle of a session is over, the session has no use for the answer to its start any
more, but whoever keeps the channel may still use it, at any time and in any way.  Runs in
which that is done differently, later or not at all are the same to everybody else: the
sessions are the same, the service is asked the same, and everybody is told the same.

That no session holds the channel of a cycle that is over is all there is to it.  A session
holds no channel but that of its own last start, and starts do not share channels.
-/

/-- A session that holds a channel holds that of its last announced cycle, which lasts. -/
theorem Session.Standing.exists_lasting {exchange : Exchange} {session : Session}
    {cycles : List Cycle} {requests : List Request}
    (standing : session.Standing exchange cycles requests) {channel : ChannelId}
    (reply : session.startReply = some channel) :
    ∃ (index : Nat) (cycle : Cycle), (cycles.filter Cycle.isAnnounced)[index]? = some cycle ∧
      (requests.filterMap Request.startChannel?)[index]? = some channel ∧
      cycle.isOver = false := by
  cases standing with
  | resting idle unannounced deaf told => simp [deaf] at reply
  | off started unannounced deaf state told off unended => simp [deaf] at reply
  | @on cycles requests body cycle other started announced told on unended hbody silent informed =>
      cases informed with
      | told deaf found state => simp [deaf] at reply
      | waiting held state =>
          have same : other = channel := Option.some.inj (held.symm.trans reply)
          have lengths : (requests.filterMap Request.startChannel?).length =
              (cycles.filter Cycle.isAnnounced).length := by
            rw [Request.length_startChannel?, told.word.filterMap_start?, announcedStarts,
              List.length_map]
          refine ⟨(cycles.filter Cycle.isAnnounced).length, cycle, ?_, ?_, ?_⟩
          · simp [List.filter_append, on]
          · rw [List.filterMap_append, ← lengths]
            simp [Request.startChannel?, same]
          · simp [Cycle.isOver, unended]

namespace Deployment

variable {σ : Type}

/-- The starts of a session have channels of their own. -/
theorem Numbered.nodup_starts {deployment : Deployment σ} (numbered : Numbered deployment)
    (owner : Nat) : ((deployment.posts owner).filterMap Request.startChannel?).Nodup := by
  rw [posts, List.filterMap_filterMap]
  apply numbered.nodup_of_introduced
  intro entry channel carried
  cases entry with
  | asked asker envelope result => cases carried
  | posted job =>
      rcases Option.bind_eq_some_iff.mp carried with ⟨request, posted, answered⟩
      rcases Request.exists_of_startChannel? answered with ⟨start, rfl⟩
      by_cases own : job.owner = owner
      · rw [Entry.posted?, if_pos own, Option.some_inj] at posted
        rw [Entry.introduced?, posted]
        exact answered
      · simp [Entry.posted?, own] at posted

variable [Service σ] [Autonomous σ]

/-- The start of an announced cycle of a session was posted, with a channel for the answer. -/
def Begun (deployment : Deployment σ) (events : List (Event σ)) (owner : Nat) (cycle : Cycle)
    (channel : ChannelId) : Prop :=
  ∃ index : Nat, ((deployment.cycles owner events).filter Cycle.isAnnounced)[index]? = some cycle ∧
    (((deployment.follow events).posts owner).filterMap Request.startChannel?)[index]? =
      some channel

/-- A channel was for the answer to the start of a cycle that is over. -/
def IsPast (deployment : Deployment σ) (events : List (Event σ)) (channel : ChannelId) : Prop :=
  ∃ owner cycle, deployment.Begun events owner cycle channel ∧ cycle.isOver = true

namespace Begun

variable {deployment : Deployment σ} {events : List (Event σ)} {owner other : Nat}
  {cycle latter : Cycle} {channel : ChannelId}

theorem exists_start (begun : deployment.Begun events owner cycle channel) :
    ∃ start, .startSession start channel ∈ (deployment.follow events).posts owner := by
  rcases begun with ⟨index, -, asked⟩
  rcases List.mem_filterMap.mp (List.mem_of_getElem? asked) with ⟨request, posted, answered⟩
  rcases Request.exists_of_startChannel? answered with ⟨start, rfl⟩
  exact ⟨start, Option.some.inj answered ▸ posted⟩

theorem unique (numbered : Numbered (deployment.follow events))
    (begun : deployment.Begun events owner cycle channel)
    (again : deployment.Begun events other latter channel) : cycle = latter := by
  rcases begun.exists_start with ⟨start, posted⟩
  rcases again.exists_start with ⟨restart, reposted⟩
  have own : owner = other := (numbered.eq_of_posts posted reposted rfl rfl).1
  subst own
  rcases begun with ⟨index, there, asked⟩
  rcases again with ⟨place, thereToo, askedToo⟩
  have bound := (List.getElem?_eq_some_iff.mp asked).1
  have same : index = place :=
    (List.getElem?_inj bound (numbered.nodup_starts owner)).mp (asked.trans askedToo.symm)
  subst same
  exact Option.some.inj (there.symm.trans thereToo)

end Begun

namespace IsPast

variable {deployment : Deployment σ} {events : List (Event σ)} {channel : ChannelId}

theorem lt_length (fresh : deployment.Fresh) (past : deployment.IsPast events channel) :
    channel < (deployment.follow events).exchange.channels.length := by
  rcases past with ⟨owner, cycle, begun, -⟩
  rcases begun.exists_start with ⟨start, posted⟩
  exact (numbered_follow fresh events).channel_lt_of_posts posted

theorem concat (past : deployment.IsPast events channel) (event : Event σ) :
    deployment.IsPast (events ++ [event]) channel := by
  rcases past with ⟨owner, cycle, ⟨index, there, asked⟩, finished⟩
  have posts := (deployment.precedes_of_prefix (List.prefix_append events [event])).posts owner
  refine ⟨owner, cycle, ⟨index, ?_, ?_⟩, finished⟩
  · rw [cycles_concat]
    rcases (deployment.follow events).recount_cases owner (deployment.cycles owner events) event
      with same | ended | ⟨begun, -, one⟩
    · rw [same]
      exact there
    · rw [ended, List.filter_map, List.getElem?_map]
      exact (congrArg (Option.map _) there).trans (congrArg some (Cycle.endedBy_eq_self finished))
    · rw [one, List.filter_append]
      rw [List.getElem?_append_left (List.getElem?_eq_some_iff.mp there).1, there]
  · rcases List.getElem?_eq_some_iff.mp asked with ⟨inside, same⟩
    rw [List.prefix_iff_getElem?.mp (posts.filterMap _) index inside, same]

end IsPast

/-- No session waits for the answer to the start of a cycle that is over. -/
theorem deaf_follow {deployment : Deployment σ} (fresh : deployment.Fresh)
    (events : List (Event σ)) :
    (deployment.follow events).Deaf (deployment.IsPast events) := by
  rintro owner session channel there reply ⟨other, cycle, begun, finished⟩
  have standing := ((accounted_follow fresh events owner).present session there).standing
  rcases standing.exists_lasting reply with ⟨index, lasting, current, asked, unended⟩
  have same := Begun.unique (numbered_follow fresh events) begun ⟨index, current, asked⟩
  rw [same, unended] at finished
  cases finished

/-! ## Who is told what -/

/-- What is told on an event, if an operation is performed. -/
def reply? (deployment : Deployment σ) : Event σ → Option Response
  | .operation operation => some (deployment.response operation)
  | _ => none

/-- What is told to those who perform the operations of a run, observers among them. -/
def told (deployment : Deployment σ) : List (Event σ) → List Response
  | [] => []
  | event :: rest => (deployment.reply? event).toList ++ (deployment.after event).told rest

theorem told_concat (deployment : Deployment σ) (events : List (Event σ)) (event : Event σ) :
    deployment.told (events ++ [event]) =
      deployment.told events ++ ((deployment.follow events).reply? event).toList := by
  induction events generalizing deployment with
  | nil => simp [told]
  | cons first rest inductionHypothesis =>
      simp only [List.cons_append, told, inductionHypothesis, List.append_assoc]
      rfl

/-! ## Keepers of past channels -/

/-- Two runs with a keeper that are the same but for what it intends with channels of cycles
that are over at the time.  A use that the keeper makes in one run only, or later, is missing
from what it intends for that occasion in the other. -/
inductive Belated (deployment : Deployment (Keeper σ)) :
    List (Event (Keeper σ)) → List (Event (Keeper σ)) → Prop
  | nil : Belated deployment [] []
  | same {events others : List (Event (Keeper σ))} (before : Belated deployment events others)
      (event : Event (Keeper σ)) : Belated deployment (events ++ [event]) (others ++ [event])
  | intend {events others : List (Event (Keeper σ))} (before : Belated deployment events others)
      {intent other : List (List (ChannelId × Answer))}
      (strays : List.Forall₂ (Strays (deployment.IsPast events)) intent other) :
      Belated deployment (events ++ [.act (Keeper.Act.intend intent)])
        (others ++ [.act (Keeper.Act.intend other)])

theorem Belated.refl (deployment : Deployment (Keeper σ)) (events : List (Event (Keeper σ))) :
    deployment.Belated events events := by
  induction events using List.reverseRecOn with
  | nil => exact .nil
  | append_singleton events event inductionHypothesis => exact .same inductionHypothesis event

theorem reply?_of_apart {lost : ChannelId → Prop} {first second : Deployment (Keeper σ)}
    (apart : Apart lost first second) (event : Event (Keeper σ)) :
    second.reply? event = first.reply? event := by
  cases event with
  | operation operation => exact congrArg some ((lockstep_apart lost).response apart operation)
  | _ => rfl

/-- Channels that are past after an event may have been used differently by then. -/
theorem Apart.concat {deployment : Deployment (Keeper σ)} (fresh : deployment.Fresh)
    {events others : List (Event (Keeper σ))} {event other : Event (Keeper σ)}
    (apart : Apart (deployment.IsPast events) ((deployment.follow events).after event)
      ((deployment.follow others).after other)) :
    Apart (deployment.IsPast (events ++ [event])) (deployment.follow (events ++ [event]))
      (deployment.follow (others ++ [other])) := by
  rw [← follow_concat, ← follow_concat] at apart
  exact apart.mono (fun _ past => past.concat event) (deaf_follow fresh _)
    fun _ past => past.lt_length fresh

/-- What differs is what was done to channels of cycles that are over, and what is going to be
done to these. -/
theorem apart_of_belated {deployment : Deployment (Keeper σ)} (fresh : deployment.Fresh)
    {events others : List (Event (Keeper σ))} (belated : deployment.Belated events others) :
    Apart (deployment.IsPast events) (deployment.follow events) (deployment.follow others) ∧
      deployment.told others = deployment.told events := by
  induction belated with
  | nil => exact ⟨.refl (deaf_follow fresh []) fun _ past => past.lt_length fresh, rfl⟩
  | same before event inductionHypothesis =>
      rcases inductionHypothesis with ⟨apart, told⟩
      refine ⟨.concat fresh (apart.after event), ?_⟩
      rw [told_concat, told_concat, told, reply?_of_apart apart event]
  | intend before strays inductionHypothesis =>
      rcases inductionHypothesis with ⟨apart, told⟩
      refine ⟨.concat fresh (apart.intend strays), ?_⟩
      rw [told_concat, told_concat, told]
      rfl

/-- What becomes of the channel for the answer to a start once the cycle is over is of no
consequence.  Runs that differ only in how, when and whether such channels are used lead to
deployments that nothing tells apart: the service was asked the same with the same results,
the sessions are the same in every field, the same jobs wait, and everybody was told the same
on the way.  Whoever waits for any other channel finds the same there. -/
theorem indistinguishable_of_belated {deployment : Deployment (Keeper σ)}
    (fresh : deployment.Fresh) {events others : List (Event (Keeper σ))}
    (belated : deployment.Belated events others) :
    Indistinguishable (deployment.follow events) (deployment.follow others) ∧
      (deployment.follow others).managers = (deployment.follow events).managers ∧
      (deployment.follow others).dispatchers = (deployment.follow events).dispatchers ∧
      deployment.told others = deployment.told events ∧
      ∀ channel, ¬ deployment.IsPast events channel →
        ((deployment.follow others).await channel).answerOf channel =
            ((deployment.follow events).await channel).answerOf channel ∧
          ((deployment.follow others).await channel).payloadOf channel =
            ((deployment.follow events).await channel).payloadOf channel := by
  rcases apart_of_belated fresh belated with ⟨apart, told⟩
  refine ⟨apart.indistinguishable, apart.managers, apart.dispatchers, told, fun channel kept => ?_⟩
  have waited := apart.await kept
  exact ⟨waited.sameSight.answerOf kept, waited.sameSight.payloadOf kept⟩

/-- A session that is restarted before anybody has answered its first start, with a service
that keeps the channel. -/
def keptStart : List (Event (Keeper ScriptedService)) :=
  [.act (Keeper.Act.act (ScriptedAct.cue .startSession ⟨.keep, none⟩)),
    .operation (.onStart 0 ⟨"a"⟩ ⟨"p", "A"⟩ .empty), .work 0, .work 0, .operation (.onStop 0),
    .operation (.onStart 0 ⟨"b"⟩ ⟨"p", "B"⟩ .empty)]

/-- The first start is refused at once, or is dropped when the dispatcher next makes a
request. -/
theorem indistinguishable_of_belated_lateRefusal :
    let before := solitary (⟨ScriptedService.standard, []⟩ : Keeper ScriptedService)
    let intending (intent : List (List (ChannelId × Answer))) :
        List (Event (Keeper ScriptedService)) :=
      keptStart ++ [.act (Keeper.Act.intend intent)] ++ [.act Keeper.Act.proceed] ++ [.work 0]
    let refused := before.follow (intending [[(0, .complete (.ofCode 4))], []])
    let dropped := before.follow (intending [[], [(0, .complete .abandoned)]])
    before.IsPast keptStart 0 ∧ refused.exchange.peek 0 ≠ dropped.exchange.peek 0 ∧
      (refused.isEnabled 0).1 = true ∧ Indistinguishable refused dropped := by
  intro before intending refused dropped
  have past : before.IsPast keptStart 0 :=
    ⟨0, ⟨⟨"a"⟩, ⟨"p", "A"⟩, .empty, some false⟩, ⟨0, by decide +kernel, by decide +kernel⟩, rfl⟩
  have strays : List.Forall₂ (Strays (before.IsPast keptStart))
      [[(0, .complete (.ofCode 4))], []] [[], [(0, .complete .abandoned)]] :=
    .cons (.left past _ .nil) (.cons (.right past _ .nil) .nil)
  have belated : before.Belated (intending [[(0, .complete (.ofCode 4))], []])
      (intending [[], [(0, .complete .abandoned)]]) :=
    .same (.same (.intend (.refl before keptStart) strays) _) _
  have fresh : before.Fresh := fresh_solitary _
  exact ⟨past, by decide +kernel, by decide +kernel,
    (indistinguishable_of_belated fresh belated).1⟩

end Deployment
end ContentCapture
