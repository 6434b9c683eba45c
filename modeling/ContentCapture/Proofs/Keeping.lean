import ContentCapture.Proofs.Numbering
import ContentCapture.Proofs.Observers
import Mathlib.Data.List.Forall2

namespace ContentCapture

/-!
# Services that keep reply channels

A service may keep the reply channels that it is given, and use them whenever it likes.
What it does with the channels that it keeps is separated here from everything else that
it does: a keeper is a service together with what is going to be done, on the next
occasions, to channels besides.  Nothing is said about the service, which may use channels
too, and nothing about when, how or whether the keeper uses any.

Two deployments with keepers are apart by some channels if all that differs is what was
done, or is going to be done, to these.  As long as no session looks at such a channel,
every step keeps them apart by no more, and nobody is told anything else.
-/

/-- A service that is going to use reply channels besides, in this way on the next
occasions. -/
structure Keeper (σ : Type) where
  service : σ
  intent : List (List (ChannelId × Answer)) := []

namespace Keeper

variable {σ : Type}

/-- What the keeper does on the next occasion. -/
def next (keeper : Keeper σ) : List (ChannelId × Answer) :=
  keeper.intent.headD []

/-- What a keeper may do on its own. -/
inductive Act (σ : Type) [Autonomous σ] where
  /-- It is going to use channels in another way. -/
  | intend (intent : List (List (ChannelId × Answer)))
  /-- It uses them now, as it is going to. -/
  | proceed
  /-- The service does something on its own. -/
  | act (act : Autonomous.Act σ)

/-- A request is an occasion to use other channels. -/
instance [Service σ] : Service (Keeper σ) where
  receive keeper envelope :=
    let reception := Service.receive keeper.service envelope
    { service := ⟨reception.service, keeper.intent.tail⟩
      answers := keeper.next ++ reception.answers
      result := reception.result }
  identity keeper := Service.identity keeper.service

instance [Autonomous σ] : Autonomous (Keeper σ) where
  Act := Act σ
  act keeper
    | .intend intent => ({ keeper with intent := intent }, [])
    | .proceed => ({ keeper with intent := keeper.intent.tail }, keeper.next)
    | .act act =>
        let (service, answers) := Autonomous.act keeper.service act
        ({ keeper with service := service }, answers)

end Keeper

/-! ## Lost channels -/

/-- Two ways to use channels that are the same but for the uses of lost ones. -/
inductive Strays (lost : ChannelId → Prop) :
    List (ChannelId × Answer) → List (ChannelId × Answer) → Prop
  | nil : Strays lost [] []
  | both {uses others : List (ChannelId × Answer)} (use : ChannelId × Answer)
      (rest : Strays lost uses others) : Strays lost (use :: uses) (use :: others)
  | left {uses others : List (ChannelId × Answer)} {channel : ChannelId} (gone : lost channel)
      (answer : Answer) (rest : Strays lost uses others) :
      Strays lost ((channel, answer) :: uses) others
  | right {uses others : List (ChannelId × Answer)} {channel : ChannelId} (gone : lost channel)
      (answer : Answer) (rest : Strays lost uses others) :
      Strays lost uses ((channel, answer) :: others)

namespace Strays

variable {lost : ChannelId → Prop} {uses others : List (ChannelId × Answer)}

theorem refl (lost : ChannelId → Prop) (uses : List (ChannelId × Answer)) :
    Strays lost uses uses := by
  induction uses with
  | nil => exact .nil
  | cons use uses inductionHypothesis => exact .both use inductionHypothesis

theorem mono {more : ChannelId → Prop} (strays : Strays lost uses others)
    (wider : ∀ channel, lost channel → more channel) : Strays more uses others := by
  induction strays with
  | nil => exact .nil
  | both use rest inductionHypothesis => exact .both use inductionHypothesis
  | left gone answer rest inductionHypothesis =>
      exact .left (wider _ gone) answer inductionHypothesis
  | right gone answer rest inductionHypothesis =>
      exact .right (wider _ gone) answer inductionHypothesis

theorem append (strays : Strays lost uses others) (rest : List (ChannelId × Answer)) :
    Strays lost (uses ++ rest) (others ++ rest) := by
  induction strays with
  | nil => exact refl lost rest
  | both use _ inductionHypothesis => exact .both use inductionHypothesis
  | left gone answer _ inductionHypothesis => exact .left gone answer inductionHypothesis
  | right gone answer _ inductionHypothesis => exact .right gone answer inductionHypothesis

variable {intent other : List (List (ChannelId × Answer))}

/-- What two keepers do on the next occasion. -/
theorem headD (strays : List.Forall₂ (Strays lost) intent other) :
    Strays lost (intent.headD []) (other.headD []) := by
  cases strays with
  | nil => exact .nil
  | cons next later => exact next

/-- What they do on the occasions after that. -/
theorem tail (strays : List.Forall₂ (Strays lost) intent other) :
    List.Forall₂ (Strays lost) intent.tail other.tail := by
  cases strays with
  | nil => exact .nil
  | cons next later => exact later

end Strays

namespace Exchange

/-- Two exchanges that are the same but for lost channels. -/
structure SameBut (lost : ChannelId → Prop) (first second : Exchange) : Prop where
  now : second.now = first.now
  length : second.channels.length = first.channels.length
  channel : ∀ id, ¬ lost id → second.channel? id = first.channel? id

namespace SameBut

variable {lost : ChannelId → Prop} {first second : Exchange}

theorem refl (lost : ChannelId → Prop) (exchange : Exchange) : SameBut lost exchange exchange :=
  ⟨rfl, rfl, fun _ _ => rfl⟩

theorem mono {more : ChannelId → Prop} (same : SameBut lost first second)
    (wider : ∀ channel, lost channel → more channel) : SameBut more first second :=
  ⟨same.now, same.length, fun id kept => same.channel id fun gone => kept (wider id gone)⟩

theorem peek (same : SameBut lost first second) {id : ChannelId} (kept : ¬ lost id) :
    second.peek id = first.peek id := by
  rw [Exchange.peek, Exchange.peek, same.channel id kept]

theorem newChannel (same : SameBut lost first second) (timeout : Span) :
    SameBut lost (first.newChannel timeout).2 (second.newChannel timeout).2 where
  now := same.now
  length := by simp [Exchange.newChannel, same.length]
  channel id kept := by
    have before := same.channel id kept
    simp only [channel?] at before
    simp only [channel?, Exchange.newChannel, List.getElem?_append, same.length, before]

theorem answer (same : SameBut lost first second) (id : ChannelId) (use : Answer) :
    SameBut lost (first.answer id use) (second.answer id use) where
  now := same.now
  length := by simp [Exchange.answer, same.length]
  channel other kept := by
    rw [channel?_answer, channel?_answer, same.channel other kept, same.now]

theorem answer_left (same : SameBut lost first second) {id : ChannelId} (gone : lost id)
    (use : Answer) : SameBut lost (first.answer id use) second where
  now := same.now
  length := by simp [Exchange.answer, same.length]
  channel other kept := by
    have different : id ≠ other := fun equal => kept (equal ▸ gone)
    rw [channel?_answer, same.channel other kept]
    simp [different]

theorem answer_right (same : SameBut lost first second) {id : ChannelId} (gone : lost id)
    (use : Answer) : SameBut lost first (second.answer id use) where
  now := same.now
  length := by simp [Exchange.answer, same.length]
  channel other kept := by
    have different : id ≠ other := fun equal => kept (equal ▸ gone)
    rw [channel?_answer, same.channel other kept]
    simp [different]

/-- Uses that are the same but for those of lost channels. -/
theorem answerAll (same : SameBut lost first second) {uses others : List (ChannelId × Answer)}
    (strays : Strays lost uses others) :
    SameBut lost (first.answerAll uses) (second.answerAll others) := by
  induction strays generalizing first second with
  | nil => exact same
  | both use rest inductionHypothesis => exact inductionHypothesis (same.answer use.1 use.2)
  | left gone use rest inductionHypothesis => exact inductionHypothesis (same.answer_left gone use)
  | right gone use rest inductionHypothesis =>
      exact inductionHypothesis (same.answer_right gone use)

theorem reached (same : SameBut lost first second) (now : Span) :
    SameBut lost (first.reached now) (second.reached now) where
  now := rfl
  length := by simp [Exchange.reached, same.length]
  channel id kept := by rw [channel?_reached, channel?_reached, same.channel id kept]

theorem await (same : SameBut lost first second) {id : ChannelId} (kept : ¬ lost id) :
    SameBut lost (first.await id) (second.await id) := by
  rw [Exchange.await, Exchange.await, same.channel id kept]
  cases first.channel? id with
  | none => exact same
  | some channel =>
      simp only [same.now]
      exact same.reached _

/-- A session that holds no lost channel sees the same. -/
theorem polled (same : SameBut lost first second) {session : Session}
    (deaf : ∀ channel, session.startReply = some channel → ¬ lost channel) :
    session.polled second = session.polled first := by
  cases reply : session.startReply with
  | none => rw [Session.polled_of_startReply reply, Session.polled_of_startReply reply]
  | some channel => simp only [Session.polled, reply, same.peek (deaf channel reply)]

end SameBut

end Exchange

namespace Session

/-- A change of a session that makes it hold no lost channel. -/
def Discreet (lost : ChannelId → Prop) (change : Session → Session) : Prop :=
  ∀ session channel, (change session).startReply = some channel →
    session.startReply = some channel ∨ ¬ lost channel

variable {lost : ChannelId → Prop}

theorem discreet_of_eq {change : Session → Session}
    (same : ∀ session, (change session).startReply = session.startReply) :
    Discreet lost change :=
  fun session _ reply => .inl ((same session).symm.trans reply)

theorem discreet_of_none {change : Session → Session}
    (none : ∀ session, (change session).startReply = none) : Discreet lost change :=
  fun session _ reply => absurd ((none session).symm.trans reply) (by simp)

theorem discreet_polled (exchange : Exchange) : Discreet lost (polled exchange) := by
  intro session channel reply
  unfold polled at reply
  split at reply
  · exact .inl reply
  · split at reply
    · exact .inl reply
    · rw [informed_eq] at reply
      cases reply

end Session

namespace Manager

/-- A change of a manager that makes its session hold no lost channel. -/
def Discreet (lost : ChannelId → Prop) (change : Manager → Manager) : Prop :=
  ∀ manager session channel, (change manager).session = some session →
    session.startReply = some channel →
      (∃ former, manager.session = some former ∧ former.startReply = some channel) ∨ ¬ lost channel

theorem discreet_withSession {lost : ChannelId → Prop} {change : Session → Session}
    (discreet : Session.Discreet lost change) :
    Discreet lost fun manager => manager.withSession change := by
  intro manager session channel there reply
  rcases Option.map_eq_some_iff.mp there with ⟨former, hformer, rfl⟩
  exact (discreet former channel reply).imp_left fun held => ⟨former, hformer, held⟩

end Manager

namespace Deployment

variable {σ : Type}

/-- No session holds a lost channel. -/
def Deaf (lost : ChannelId → Prop) (deployment : Deployment σ) : Prop :=
  ∀ owner session channel, deployment.session? owner = some session →
    session.startReply = some channel → ¬ lost channel

/-- The deployment with another exchange and another intent of the keeper. -/
def astray (deployment : Deployment (Keeper σ)) (exchange : Exchange)
    (intent : List (List (ChannelId × Answer))) : Deployment (Keeper σ) :=
  { deployment with
    exchange := exchange
    service := { deployment.service with intent := intent } }

/-- Two deployments that are the same but for what was done, or is going to be done, to lost
channels, which no session holds. -/
inductive Apart (lost : ChannelId → Prop) (first : Deployment (Keeper σ)) :
    Deployment (Keeper σ) → Prop
  | intro {exchange : Exchange} {intent : List (List (ChannelId × Answer))}
      (deaf : first.Deaf lost)
      (made : ∀ channel, lost channel → channel < first.exchange.channels.length)
      (same : first.exchange.SameBut lost exchange)
      (strays : List.Forall₂ (Strays lost) first.service.intent intent) :
      Apart lost first (first.astray exchange intent)

theorem Deaf.updateManager {deployment : Deployment σ} {lost : ChannelId → Prop}
    (deaf : deployment.Deaf lost) (owner : Nat) {change : Manager → Manager}
    (discreet : Manager.Discreet lost change) :
    (deployment.updateManager owner change).Deaf lost := by
  intro other session channel there reply
  rcases manager_of_session? there with ⟨manager, hmanager, hsession⟩
  simp only [Deployment.updateManager, List.getElem?_modify, Option.map_eq_map,
    Option.map_eq_some_iff] at hmanager
  rcases hmanager with ⟨before, hbefore, rfl⟩
  have held := session?_of_manager hbefore
  split at hsession
  · rcases discreet before session channel hsession reply with ⟨former, hformer, waits⟩ | kept
    · exact deaf other former channel (held.trans hformer) waits
    · exact kept
  · exact deaf other session channel (held.trans hsession) reply

namespace Apart

variable {lost : ChannelId → Prop} {first second : Deployment (Keeper σ)}

/-- A deployment differs from itself in nothing. -/
theorem refl {deployment : Deployment (Keeper σ)} (deaf : deployment.Deaf lost)
    (made : ∀ channel, lost channel → channel < deployment.exchange.channels.length) :
    Apart lost deployment deployment :=
  .intro deaf made (.refl lost _) (List.forall₂_same.mpr fun uses _ => .refl lost uses)

/-- More channels may be lost, if no session holds these either. -/
theorem mono {more : ChannelId → Prop} (apart : Apart lost first second)
    (wider : ∀ channel, lost channel → more channel) (deaf : first.Deaf more)
    (made : ∀ channel, more channel → channel < first.exchange.channels.length) :
    Apart more first second := by
  cases apart with
  | intro _ _ same strays =>
      exact .intro deaf made (same.mono wider) (strays.imp fun _ _ uses => uses.mono wider)

theorem updateManager (apart : Apart lost first second) (owner : Nat)
    {change : Manager → Manager} (discreet : Manager.Discreet lost change) :
    Apart lost (first.updateManager owner change) (second.updateManager owner change) := by
  cases apart with
  | intro deaf made same strays =>
      exact .intro (deaf.updateManager owner discreet) made same strays

theorem updateSession (apart : Apart lost first second) (owner : Nat)
    {change : Session → Session} (discreet : Session.Discreet lost change) :
    Apart lost (first.updateSession owner change) (second.updateSession owner change) :=
  apart.updateManager owner (Manager.discreet_withSession discreet)

theorem poll (apart : Apart lost first second) (owner : Nat) :
    Apart lost (first.poll owner) (second.poll owner) := by
  cases apart with
  | @intro exchange intent deaf made same strays =>
      have looked : (first.astray exchange intent).poll owner =
          (first.poll owner).astray exchange intent :=
        congrArg (fun deployment : Deployment (Keeper σ) => deployment.astray exchange intent)
          (updateSession_congr_of_forall fun session hsession =>
            same.polled fun channel reply => deaf owner session channel hsession reply)
      rw [looked]
      exact .intro (deaf.updateManager owner (Manager.discreet_withSession
        (Session.discreet_polled first.exchange))) made same strays

/-- The managers are the same, and so are their sessions. -/
theorem managers (apart : Apart lost first second) : second.managers = first.managers := by
  cases apart
  rfl

theorem dispatchers (apart : Apart lost first second) :
    second.dispatchers = first.dispatchers := by
  cases apart
  rfl

theorem journal (apart : Apart lost first second) : second.journal = first.journal := by
  cases apart
  rfl

theorem now (apart : Apart lost first second) : second.exchange.now = first.exchange.now := by
  cases apart with
  | intro deaf made same strays => exact same.now

theorem addManager (apart : Apart lost first second) {manager : Manager}
    (fresh : manager.session = none) :
    Apart lost (first.addManager manager) (second.addManager manager) := by
  cases apart with
  | intro deaf made same strays =>
      refine .intro ?_ made same strays
      intro owner session channel hsession reply
      rw [session?_addManager first fresh] at hsession
      exact deaf owner session channel hsession reply

theorem mark (apart : Apart lost first second) (owner : Nat)
    (change : CaptureFlags → CaptureFlags) :
    Apart lost
      (first.updateManager owner fun manager => { manager with flags := change manager.flags })
      (second.updateManager owner fun manager => { manager with flags := change manager.flags }) :=
  apart.updateManager owner fun _ session _ there reply => .inl ⟨session, there, reply⟩

theorem make (apart : Apart lost first second) (owner : Nat) (id : SessionId) :
    Apart lost
      (first.updateManager owner fun manager => { manager with session := some { id := id } })
      (second.updateManager owner fun manager =>
        { manager with session := some { id := id } }) := by
  apply apart.updateManager owner
  intro manager session channel there reply
  cases there
  cases reply

theorem renumber (apart : Apart lost first second) (next : SessionId) :
    Apart lost { first with nextSession := next } { second with nextSession := next } := by
  cases apart with
  | intro deaf made same strays => exact .intro deaf made same strays

theorem noted (apart : Apart lost first second) (entry : Entry) :
    Apart lost (first.noted entry) (second.noted entry) := by
  cases apart with
  | intro deaf made same strays => exact .intro deaf made same strays

theorem withDispatcher (apart : Apart lost first second) (dispatcher : Nat)
    (queue : Dispatcher Job) :
    Apart lost (first.withDispatcher dispatcher queue)
      (second.withDispatcher dispatcher queue) := by
  cases apart with
  | intro deaf made same strays => exact .intro deaf made same strays

theorem newChannel_fst (apart : Apart lost first second) (timeout : Span) :
    (second.newChannel timeout).1 = (first.newChannel timeout).1 := by
  cases apart with
  | intro deaf made same strays => exact same.length

theorem newChannel (apart : Apart lost first second) (timeout : Span) :
    Apart lost (first.newChannel timeout).2 (second.newChannel timeout).2 := by
  cases apart with
  | @intro exchange intent deaf made same strays =>
      have longer : first.exchange.channels.length ≤
          (first.newChannel timeout).2.exchange.channels.length := by
        simp [Deployment.newChannel, Exchange.newChannel]
      exact .intro deaf
        (fun channel gone => Nat.lt_of_lt_of_le (made channel gone) longer)
        (same.newChannel timeout) strays

/-- A channel that is made is not lost. -/
theorem not_lost_newChannel (apart : Apart lost first second) (timeout : Span) :
    ¬ lost (first.newChannel timeout).1 := by
  cases apart with
  | intro deaf made same strays => exact fun gone => Nat.lt_irrefl _ (made _ gone)

theorem answerAll (apart : Apart lost first second) {uses others : List (ChannelId × Answer)}
    (strays : Strays lost uses others) :
    Apart lost (first.answerAll uses) (second.answerAll others) := by
  cases apart with
  | @intro exchange intent deaf made same kept =>
      refine .intro deaf ?_ (same.answerAll strays) kept
      intro channel gone
      rw [Deployment.answerAll, Exchange.length_answerAll]
      exact made channel gone

theorem discard (apart : Apart lost first second) (request : Request) :
    Apart lost (first.discard request) (second.discard request) :=
  apart.answerAll (.refl lost _)

theorem elapse (apart : Apart lost first second) (now : Span) :
    Apart lost { first with exchange := first.exchange.reached now }
      { second with exchange := second.exchange.reached now } := by
  cases apart with
  | intro deaf made same strays =>
      refine .intro deaf ?_ (same.reached now) strays
      simpa [Exchange.reached] using made

theorem await (apart : Apart lost first second) {channel : ChannelId} (kept : ¬ lost channel) :
    Apart lost (first.await channel) (second.await channel) := by
  cases apart with
  | intro deaf made same strays =>
      refine .intro deaf ?_ (same.await kept) strays
      intro other gone
      have before := made other gone
      simp only [Deployment.await, Exchange.await]
      split
      · exact before
      · simpa [Exchange.reached] using before

/-- The session comes to hold a new channel, and no new channel is lost. -/
theorem opening (apart : Apart lost first second) (owner : Nat) (manager : Manager)
    (token : ActivityToken) (component : ComponentName) (flags : CaptureFlags) :
    Apart lost (first.opening owner manager token component flags)
      (second.opening owner manager token component flags) := by
  have kept := apart.not_lost_newChannel manager.timeout
  have discreet : Session.Discreet lost fun session =>
      session.opened token component flags (first.newChannel manager.timeout).1 := by
    intro session channel reply
    cases reply
    exact .inr kept
  unfold Deployment.opening
  rw [apart.newChannel_fst]
  exact (apart.newChannel manager.timeout).updateSession owner discreet

/-- Keepers that come to intend different things, but only with lost channels. -/
theorem intend [Autonomous σ] (apart : Apart lost first second)
    {intent other : List (List (ChannelId × Answer))}
    (strays : List.Forall₂ (Strays lost) intent other) :
    Apart lost (first.acted (Keeper.Act.intend intent))
      (second.acted (Keeper.Act.intend other)) := by
  cases apart with
  | intro deaf made same _ => exact .intro deaf made same strays

theorem acted [Autonomous σ] (apart : Apart lost first second)
    (act : Autonomous.Act (Keeper σ)) : Apart lost (first.acted act) (second.acted act) := by
  cases act with
  | intend intent => exact apart.intend (List.forall₂_same.mpr fun uses _ => .refl lost uses)
  | proceed =>
      cases apart with
      | intro deaf made same strays =>
          refine .intro deaf ?_ (same.answerAll (Strays.headD strays)) (Strays.tail strays)
          intro channel gone
          exact (Exchange.length_answerAll _ _).symm ▸ made channel gone
  | act act =>
      cases apart with
      | intro deaf made same strays =>
          refine .intro deaf ?_ (same.answerAll (.refl lost _)) strays
          intro channel gone
          exact (Exchange.length_answerAll _ _).symm ▸ made channel gone

variable [Service σ]

theorem ask_fst (apart : Apart lost first second) (asker : Option Nat) (envelope : Envelope) :
    (second.ask asker envelope).1 = (first.ask asker envelope).1 := by
  cases apart
  rfl

/-- A request is an occasion for both keepers to do what they intend. -/
theorem ask (apart : Apart lost first second) (asker : Option Nat) (envelope : Envelope) :
    Apart lost (first.ask asker envelope).2 (second.ask asker envelope).2 := by
  cases apart with
  | @intro exchange intent deaf made same strays =>
      have answers := (Strays.headD strays).append
        (Service.receive first.service.service envelope).answers
      refine .intro deaf ?_ (same.answerAll answers) (Strays.tail strays)
      intro channel gone
      rw [exchange_ask, Exchange.length_answerAll]
      exact made channel gone

theorem sameSight (apart : Apart lost first second) :
    SameSight (fun channel => ¬ lost channel) first second where
  contour owner := by rw [apart.managers]
  looked owner := by rw [(apart.poll owner).managers]
  dispatchers := apart.dispatchers
  nextSession := by
    cases apart
    rfl
  journal := apart.journal
  now := apart.now
  channel channel kept := by
    cases apart with
    | intro deaf made same strays => exact same.channel channel kept
  newChannel := apart.newChannel_fst
  fresh := apart.not_lost_newChannel
  ask := apart.ask_fst
  identity := by
    cases apart
    rfl

end Apart

/-- Operations go on in lockstep where only lost channels differ. -/
theorem lockstep_apart [Service σ] (lost : ChannelId → Prop) :
    Lockstep (fun channel => ¬ lost channel) fun _ => @Apart σ lost where
  same := Apart.sameSight
  noted entry _ _ _ apart := apart.noted entry
  withDispatcher dispatcher queue _ _ _ apart := apart.withDispatcher dispatcher queue
  renumber next _ _ _ apart := apart.renumber next
  newChannel timeout _ _ _ apart := apart.newChannel timeout
  discard request _ _ _ apart := apart.discard request
  ask asker envelope _ _ _ apart := apart.ask asker envelope
  await _ kept _ _ _ apart := apart.await kept
  addManager _ fresh _ _ _ apart := apart.addManager fresh
  mark owner change _ _ _ apart := apart.mark owner change
  make owner id _ _ _ apart := apart.make owner id
  poll owner _ _ _ apart := apart.poll owner
  aloof aloof owner _ _ _ apart :=
    apart.updateSession owner (Session.discreet_of_eq aloof.startReply)
  opening owner manager token component flags _ _ _ apart :=
    apart.opening owner manager token component flags
  openedOff owner _ _ _ _ _ _ apart :=
    apart.updateSession owner (Session.discreet_of_none fun _ => rfl)
  spare owner apart := apart.poll owner
  closed owner apart := apart.updateSession owner (Session.discreet_of_none fun _ => rfl)
  relax apart := apart

namespace Apart

variable {lost : ChannelId → Prop} {first second : Deployment (Keeper σ)}

variable [Service σ] [Autonomous σ]

theorem after (apart : Apart lost first second) (event : Event (Keeper σ)) :
    Apart lost (first.after event) (second.after event) := by
  cases event with
  | operation operation => exact (lockstep_apart lost).perform apart operation
  | work dispatcher => exact (lockstep_apart lost).work apart dispatcher
  | act act => exact apart.acted act
  | elapse now => exact apart.elapse now

theorem follow (apart : Apart lost first second) (events : List (Event (Keeper σ))) :
    Apart lost (first.follow events) (second.follow events) := by
  induction events generalizing first second with
  | nil => exact apart
  | cons event rest inductionHypothesis => exact inductionHypothesis (apart.after event)

/-- Nothing that can be seen from outside tells two deployments apart that are so by lost
channels only. -/
theorem indistinguishable (apart : Apart lost first second) : Indistinguishable first second where
  journal := apart.journal
  response := (lockstep_apart lost).response apart
  flags := apart.sameSight.flags
  glance := apart.sameSight.glance
  isFeatureEnabled owner meanwhile others same :=
    ((Agrees.refl none second).indistinguishable.isFeatureEnabled owner meanwhile others same).trans
      ((lockstep_apart lost).isFeatureEnabled (fun _ _ before => before.follow meanwhile) apart
        owner)
  setFeatureEnabled owner enabled meanwhile others same :=
    ((Agrees.refl none second).indistinguishable.setFeatureEnabled owner enabled meanwhile others
      same).trans
      ((lockstep_apart lost).setFeatureEnabled (fun _ _ before => before.follow meanwhile) apart
        owner enabled)
  serviceComponentName owner meanwhile others same :=
    ((Agrees.refl none second).indistinguishable.serviceComponentName owner meanwhile others
      same).trans
      ((lockstep_apart lost).serviceComponentName (fun _ _ before => before.follow meanwhile) apart
        owner)

end Apart

end Deployment
end ContentCapture
