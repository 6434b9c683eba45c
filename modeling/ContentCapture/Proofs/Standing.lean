import ContentCapture.Proofs.Conversation

namespace ContentCapture

/-!
# Where a session stands

What a session knows, what it has said and which cycle it is in hang together.
This is the invariant of a session between operations.  Its fields do not tell
everything: that its state came from the answer to the right start, and that an
enabled session has spoken, are facts about its past.
-/

namespace Session

/-- The state that an answer to a start puts a session in. -/
def stateOf : Except ReplyError Int32 → SessionState
  | .ok code => ⟨code.toUInt32⟩
  | .error _ => unanswered

theorem isDisabled_unknown : SessionState.unknown.isDisabled = false := by decide

theorem isDisabled_turnedOff (flags : CaptureFlags) : (turnedOff flags).isDisabled = true := by
  cases hflags : flags.isDisabledByApp <;> simp only [turnedOff, hflags] <;> decide

/-- An answer disables a session exactly if its state is a disabled one. -/
theorem informed_eq (session : Session) (answer : Except ReplyError Int32) :
    session.informed answer =
      { session with
        startReply := none
        state := stateOf answer
        disabled := session.disabled || (stateOf answer).isDisabled } := by
  cases answer with
  | ok code => rfl
  | error failure => simp [informed, stateOf, isDisabled_unanswered]

/-- A look that finds an answer. -/
theorem polled_of_peek {exchange : Exchange} {session : Session} {channel : ChannelId}
    {answer : Except ReplyError Int32} (reply : session.startReply = some channel)
    (found : exchange.peek channel = some answer) :
    session.polled exchange = session.informed answer := by
  simp [polled, reply, found]

/-- A look at no channel finds nothing. -/
theorem polled_of_startReply {exchange : Exchange} {session : Session}
    (reply : session.startReply = none) : session.polled exchange = session := by
  simp [polled, reply]

/-- A look at an answer changes nothing but what the answer is about. -/
theorem polled_eq (exchange : Exchange) (session : Session) :
    session.polled exchange =
      { session with
        startReply := (session.polled exchange).startReply
        state := (session.polled exchange).state
        disabled := (session.polled exchange).disabled } := by
  unfold polled
  split
  · rfl
  · split
    · rfl
    · rw [informed_eq]

/-- No answer enables a session that is disabled. -/
theorem disabled_polled_of_disabled (exchange : Exchange) (session : Session)
    (disabled : session.disabled = true) : (session.polled exchange).disabled = true := by
  unfold polled
  split
  · exact disabled
  · split
    · exact disabled
    · rw [informed_eq, disabled]
      rfl

@[simp] theorem lifecycle_polled (exchange : Exchange) (session : Session) :
    (session.polled exchange).lifecycle = session.lifecycle := by
  rw [polled_eq]

@[simp] theorem announced_polled (exchange : Exchange) (session : Session) :
    (session.polled exchange).announced = session.announced := by
  rw [polled_eq]

@[simp] theorem buffer_polled (exchange : Exchange) (session : Session) :
    (session.polled exchange).buffer = session.buffer := by
  rw [polled_eq]

/-- What a session says at the end of a cycle. -/
def parting (session : Session) (time : UInt64) : List Request :=
  (if session.disabled then []
    else [.sendEvents session.id [⟨session.id, time, .finished⟩] .sessionFinished]) ++
  if session.announced then [.finishSession session.id] else []

/-- What a session knows of the answer to a start: nothing yet, or what was found
in the channel of the start. -/
inductive Informed (exchange : Exchange) (channel : ChannelId) (session : Session) : Prop
  | waiting (reply : session.startReply = some channel) (state : session.state = .unknown)
  | told (reply : session.startReply = none) {answer : Except ReplyError Int32}
      (found : exchange.peek channel = some answer) (state : session.state = stateOf answer)

/-- A session is where its cycles and its requests say that it is. -/
inductive Standing (exchange : Exchange) (session : Session) : List Cycle → List Request → Prop
  /-- It is not started. -/
  | resting {cycles : List Cycle} {requests : List Request}
      (idle : session.lifecycle ≠ .started) (unannounced : session.announced = false)
      (deaf : session.startReply = none) (told : Told session.id cycles requests) :
      Standing exchange session cycles requests
  /-- It was started with flags that turn it off. -/
  | off {cycles : List Cycle} {requests : List Request} {cycle : Cycle}
      (started : session.lifecycle = .started) (unannounced : session.announced = false)
      (deaf : session.startReply = none) (state : session.state = turnedOff cycle.flags)
      (told : Told session.id cycles requests) (off : cycle.isAnnounced = false)
      (unended : cycle.ending = none) :
      Standing exchange session (cycles ++ [cycle]) requests
  /-- It was started, and the service was asked to start it. -/
  | on {cycles : List Cycle} {requests body : List Request} {cycle : Cycle}
      {channel : ChannelId} (started : session.lifecycle = .started)
      (announced : session.announced = true) (told : Told session.id cycles requests)
      (on : cycle.isAnnounced = true) (unended : cycle.ending = none)
      (hbody : Body (cycle.start session.id) false body)
      (silent : body = [] → session.disabled = true)
      (informed : Informed exchange channel session) :
      Standing exchange session (cycles ++ [cycle])
        (requests ++ .startSession (cycle.start session.id) channel :: body)

/-- The invariant of a session.  It is disabled if its state is a disabled one or
it was severed from the service, and for no other reason.  While it is not started it
is so if it was disabled at the end of its last cycle or was severed since. -/
structure Account (exchange : Exchange) (severed : Bool) (session : Session)
    (cycles : List Cycle) (requests : List Request) : Prop where
  buffer : session.buffer = []
  law : session.disabled = (session.state.isDisabled || severed)
  verdict : session.lifecycle ≠ .started →
    session.disabled = ((cycles.getLast?.bind Cycle.ending).getD false || severed)
  standing : Standing exchange session cycles requests

namespace Informed

variable {exchange later : Exchange} {channel : ChannelId} {session : Session}

theorem precedes (informed : Informed exchange channel session)
    (h : exchange.Precedes later) : Informed later channel session := by
  cases informed with
  | waiting reply state => exact .waiting reply state
  | told reply found state => exact .told reply (h _ _ found) state

theorem polled (informed : Informed exchange channel session) :
    Informed exchange channel (session.polled exchange) := by
  cases informed with
  | waiting reply state =>
      cases found : exchange.peek channel with
      | none =>
          have same : session.polled exchange = session := by simp [Session.polled, reply, found]
          rw [same]
          exact .waiting reply state
      | some answer =>
          rw [polled_of_peek reply found, informed_eq]
          exact .told rfl found rfl
  | told reply found state =>
      rw [polled_of_startReply reply]
      exact .told reply found state

/-- A session that has looked knows all there is to know. -/
theorem state_polled (informed : Informed exchange channel session) :
    (session.polled exchange).state =
      ((exchange.peek channel).map stateOf).getD SessionState.unknown := by
  cases informed with
  | waiting reply state =>
      cases found : exchange.peek channel with
      | none => simp [Session.polled, reply, found, state]
      | some answer =>
          rw [polled_of_peek reply found, informed_eq]
          rfl
  | told reply found state =>
      rw [polled_of_startReply reply, found]
      exact state

/-- A session that was cut off knows what it knew. -/
theorem cutOffIf (informed : Informed exchange channel session) (cut : Bool) :
    Informed exchange channel (session.cutOffIf cut) := by
  cases informed with
  | waiting reply state => exact .waiting reply state
  | told reply found state => exact .told reply found state

/-- The channel is the only one that a session looks at. -/
theorem law_polled {severed : Bool} (informed : Informed exchange channel session)
    (law : session.disabled = (session.state.isDisabled || severed)) :
    (session.polled exchange).disabled =
      ((session.polled exchange).state.isDisabled || severed) := by
  cases informed with
  | waiting reply state =>
      cases found : exchange.peek channel with
      | none => simpa [Session.polled, reply, found] using law
      | some answer =>
          rw [state, isDisabled_unknown, Bool.false_or] at law
          rw [polled_of_peek reply found, informed_eq, law]
          exact Bool.or_comm _ _
  | told reply found state =>
      rw [polled_of_startReply reply]
      exact law

end Informed

namespace Standing

variable {exchange later : Exchange} {session : Session} {cycles : List Cycle}
  {requests : List Request}

theorem precedes (standing : Standing exchange session cycles requests)
    (h : exchange.Precedes later) : Standing later session cycles requests := by
  cases standing with
  | resting idle unannounced deaf told => exact .resting idle unannounced deaf told
  | off started unannounced deaf state told off unended =>
      exact .off started unannounced deaf state told off unended
  | on started announced told on unended hbody silent informed =>
      exact .on started announced told on unended hbody silent (informed.precedes h)

theorem cutOffIf (standing : Standing exchange session cycles requests) (cut : Bool) :
    Standing exchange (session.cutOffIf cut) cycles requests := by
  cases standing with
  | resting idle unannounced deaf told => exact .resting idle unannounced deaf told
  | off started unannounced deaf state told off unended =>
      exact .off started unannounced deaf state told off unended
  | on started announced told on unended hbody silent informed =>
      refine .on started announced told on unended hbody ?_ (informed.cutOffIf cut)
      intro empty
      simp [Session.cutOffIf, silent empty]

/-- A session whose start was never announced, or that is not started, is deaf. -/
theorem deaf_or_informed (standing : Standing exchange session cycles requests) :
    session.startReply = none ∨ ∃ channel, Informed exchange channel session := by
  cases standing with
  | resting idle unannounced deaf told => exact .inl deaf
  | off started unannounced deaf state told off unended => exact .inl deaf
  | on started announced told on unended hbody silent informed => exact .inr ⟨_, informed⟩

/-- A session that is not started looks at no channel. -/
theorem deaf_of_idle (standing : Standing exchange session cycles requests)
    (idle : session.lifecycle ≠ .started) : session.startReply = none := by
  cases standing with
  | resting idle unannounced deaf told => exact deaf
  | off started unannounced deaf state told off unended => exact deaf
  | on started announced told on unended hbody silent informed => exact absurd started idle

theorem polled (standing : Standing exchange session cycles requests) :
    Standing exchange (session.polled exchange) cycles requests := by
  cases standing with
  | resting idle unannounced deaf told =>
      rw [polled_of_startReply deaf]
      exact .resting idle unannounced deaf told
  | off started unannounced deaf state told off unended =>
      rw [polled_of_startReply deaf]
      exact .off started unannounced deaf state told off unended
  | on started announced told on unended hbody silent informed =>
      have disabled := disabled_polled_of_disabled exchange session
      have known := informed.polled
      rw [polled_eq] at known ⊢
      exact .on started announced told on unended hbody (fun empty => disabled (silent empty)) known

/-- Every cycle but the last one is over. -/
theorem isOver_or_last (standing : Standing exchange session cycles requests) :
    ∀ cycle ∈ cycles, cycle.isOver = true ∨ cycles.getLast? = some cycle := by
  intro cycle member
  cases standing with
  | resting idle unannounced deaf told => exact .inl (told.isOver cycle member)
  | off started unannounced deaf state told off unended =>
      rcases List.mem_append.mp member with member | member
      · exact .inl (told.isOver cycle member)
      · exact .inr (by rw [List.getLast?_concat, List.mem_singleton.mp member])
  | on started announced told on unended hbody silent informed =>
      rcases List.mem_append.mp member with member | member
      · exact .inl (told.isOver cycle member)
      · exact .inr (by rw [List.getLast?_concat, List.mem_singleton.mp member])

/-- What the service was told so far is the beginning of a word. -/
theorem exists_word (standing : Standing exchange session cycles requests) :
    ∃ word, Word session.id (announcedStarts session.id cycles) word ∧ requests <+: word := by
  cases standing with
  | resting idle unannounced deaf told => exact ⟨requests, told.word, List.prefix_refl requests⟩
  | off started unannounced deaf state told off unended =>
      refine ⟨requests, ?_, List.prefix_refl requests⟩
      rw [announcedStarts_concat, off]
      simpa using told.word
  | on started announced told on unended hbody silent informed =>
      rw [announcedStarts_concat, on]
      exact hbody.exists_word told.word rfl (Cycle.enabling_of_isAnnounced session.id on) _

/-- Every announced cycle has had its start. -/
theorem filterMap_start? (standing : Standing exchange session cycles requests) :
    requests.filterMap Request.start? = announcedStarts session.id cycles := by
  cases standing with
  | resting idle unannounced deaf told => exact told.word.filterMap_start?
  | off started unannounced deaf state told off unended =>
      rw [announcedStarts_concat, off, told.word.filterMap_start?]
      simp
  | on started announced told on unended hbody silent informed =>
      rw [announcedStarts_concat, on, List.filterMap_append, told.word.filterMap_start?,
        List.filterMap_cons, hbody.filterMap_start?]
      rfl

/-- Without a cycle nothing was said. -/
theorem requests_eq_nil (standing : Standing exchange session [] requests) : requests = [] := by
  generalize hcycles : ([] : List Cycle) = cycles at standing
  cases standing with
  | resting idle unannounced deaf told => exact (hcycles ▸ told).requests_eq_nil
  | off started unannounced deaf state told off unended => simp at hcycles
  | on started announced told on unended hbody silent informed => simp at hcycles

/-- A session is started exactly while its last cycle lasts. -/
theorem started_iff (standing : Standing exchange session cycles requests) :
    session.lifecycle = .started ↔
      ∃ cycle, cycles.getLast? = some cycle ∧ cycle.isOver = false := by
  cases standing with
  | resting idle unannounced deaf told =>
      constructor
      · intro started
        exact absurd started idle
      · intro lasting
        rcases lasting with ⟨cycle, last, lasting⟩
        have ended := told.isOver cycle (List.mem_of_getLast? last)
        exact absurd (ended.symm.trans lasting) (by simp)
  | off started unannounced deaf state told off unended =>
      simp [started, Cycle.isOver, unended]
  | on started announced told on unended hbody silent informed =>
      simp [started, Cycle.isOver, unended]

end Standing

namespace Account

variable {exchange later last : Exchange} {severed : Bool} {session : Session}
  {cycles : List Cycle} {requests : List Request}

/-- A session that was just made has nothing to account for. -/
theorem made (exchange : Exchange) (id : SessionId) :
    Account exchange false { id := id } [] [] where
  buffer := rfl
  law := by rw [isDisabled_unknown]; rfl
  verdict _ := rfl
  standing := .resting (by simp) rfl rfl .nil

theorem precedes (account : Account exchange severed session cycles requests)
    (h : exchange.Precedes later) : Account later severed session cycles requests :=
  ⟨account.buffer, account.law, account.verdict, account.standing.precedes h⟩

theorem cutOffIf (account : Account exchange severed session cycles requests) (cut : Bool) :
    Account exchange (severed || cut) (session.cutOffIf cut) cycles requests where
  buffer := account.buffer
  law := by
    rw [Session.cutOffIf, account.law]
    exact Bool.or_assoc _ _ _
  verdict idle := by
    rw [Session.cutOffIf, account.verdict idle]
    exact Bool.or_assoc _ _ _
  standing := account.standing.cutOffIf cut

theorem polled (account : Account exchange severed session cycles requests) :
    Account exchange severed (session.polled exchange) cycles requests where
  buffer := (buffer_polled exchange session).trans account.buffer
  law := by
    rcases account.standing.deaf_or_informed with deaf | ⟨channel, informed⟩
    · rw [polled_of_startReply deaf]
      exact account.law
    · exact informed.law_polled account.law
  verdict idle := by
    rw [lifecycle_polled] at idle
    rw [polled_of_startReply (account.standing.deaf_of_idle idle)]
    exact account.verdict idle
  standing := account.standing.polled

/-- A session that is not started has told of all its cycles. -/
theorem told (account : Account exchange severed session cycles requests)
    (idle : session.lifecycle ≠ .started) : Told session.id cycles requests := by
  cases account.standing with
  | resting idle unannounced deaf told => exact told
  | off started unannounced deaf state told off unended => exact absurd started idle
  | on started announced told on unended hbody silent informed => exact absurd started idle

theorem retired (account : Account exchange severed session cycles requests)
    (idle : session.lifecycle ≠ .started) :
    Account exchange severed session.retired cycles requests where
  buffer := account.buffer
  law := account.law
  verdict _ := account.verdict idle
  standing := by
    cases account.standing with
    | resting idle unannounced deaf told =>
        exact .resting (by simp [Session.retired]) unannounced deaf told
    | off started unannounced deaf state told off unended => exact absurd started idle
    | on started announced told on unended hbody silent informed => exact absurd started idle

theorem openedOff (account : Account exchange severed session cycles requests)
    (idle : session.lifecycle ≠ .started) (token : ActivityToken) (component : ComponentName)
    {flags : CaptureFlags} (disabling : flags.isDisabling = true) :
    Account exchange severed (session.openedOff token component flags)
      (cycles ++ [⟨token, component, flags, none⟩]) requests where
  buffer := rfl
  law := by simp [Session.openedOff, isDisabled_turnedOff]
  verdict idle := absurd rfl idle
  standing := by
    cases account.standing with
    | resting idle unannounced deaf told =>
        exact .off rfl unannounced rfl rfl told (by simp [Cycle.isAnnounced, disabling]) rfl
    | off started unannounced deaf state told off unended => exact absurd started idle
    | on started announced told on unended hbody silent informed => exact absurd started idle

/-- The service is asked to start a session.  What the session says then depends on
what it finds when it looks at the answer. -/
theorem begun (account : Account exchange severed session cycles requests)
    (idle : session.lifecycle ≠ .started) (token : ActivityToken) (component : ComponentName)
    {flags : CaptureFlags} (enabling : flags.isDisabling = false) (channel : ChannelId)
    (cut : Bool) {body : List Request}
    (hbody : Body ⟨session.id, token, component, flags⟩ false body)
    (silent : body = [] →
      (((session.opened token component flags channel).cutOffIf cut).polled later).disabled =
        true) :
    Account later cut
      (((session.opened token component flags channel).cutOffIf cut).polled later)
      (cycles ++ [⟨token, component, flags, none⟩])
      (requests ++ .startSession ⟨session.id, token, component, flags⟩ channel :: body) := by
  have informed : Informed later channel
      ((session.opened token component flags channel).cutOffIf cut) := .waiting rfl rfl
  have law : ((session.opened token component flags channel).cutOffIf cut).disabled =
      (((session.opened token component flags channel).cutOffIf cut).state.isDisabled || cut) := by
    change (false || cut) = (SessionState.unknown.isDisabled || cut)
    rw [isDisabled_unknown]
  have known := informed.polled
  have lawful := informed.law_polled law
  have on : Cycle.isAnnounced ⟨token, component, flags, none⟩ = true := by
    simp [Cycle.isAnnounced, enabling]
  refine ⟨buffer_polled _ _, lawful, ?_, ?_⟩
  · rw [lifecycle_polled]
    exact fun idle => absurd rfl idle
  · rw [polled_eq] at known ⊢
    exact .on rfl rfl (account.told idle) on rfl hbody silent known

/-- A session is destroyed that has looked at the answer.  Unless it is disabled it
says first that it was finished. -/
theorem closed (account : Account exchange severed session cycles requests)
    (started : session.lifecycle = .started) (cut : Bool) (time : UInt64) :
    Account later (severed || cut) (session.cutOffIf cut).closed
      (cycles.map (Cycle.endedBy session.disabled))
      (requests ++ session.parting time) where
  buffer := rfl
  law := by
    change (session.disabled || cut) = (session.state.isDisabled || (severed || cut))
    rw [account.law, Bool.or_assoc]
  verdict _ := by
    rcases account.standing.started_iff.mp started with ⟨former, hformer, lasting⟩
    have unended : former.ending = none := by simpa [Cycle.isOver] using lasting
    rw [List.getLast?_map, hformer, Option.map_some, Option.bind_some, Cycle.endedBy, unended]
    change (session.disabled || cut) = (session.disabled || (severed || cut))
    rw [← Bool.or_assoc]
    congr 1
    rw [account.law, Bool.or_assoc, Bool.or_self]
  standing := by
    refine .resting (by simp [Session.closed]) rfl rfl ?_
    change Told session.id _ _
    have law := account.law
    cases account.standing with
    | resting idle unannounced deaf told => exact absurd started idle
    | @off _ _ cycle started unannounced deaf state told off unended =>
        rw [state, isDisabled_turnedOff, Bool.true_or] at law
        rw [parting, law, unannounced, List.map_append, told.map_endedBy]
        have endedOff : (cycle.endedBy true).isAnnounced = false := off
        simpa using told.off endedOff rfl
    | @on _ _ body cycle channel started announced told on unended hbody silent informed =>
        rw [parting, announced, List.map_append, told.map_endedBy]
        have ending : (cycle.endedBy session.disabled).ending = some session.disabled := by
          simp [Cycle.endedBy, unended]
        cases disabled : session.disabled with
        | true =>
            rw [disabled] at ending
            have endedOn : (cycle.endedBy true).isAnnounced = true := on
            simpa using told.on endedOn ending channel hbody
        | false =>
            rw [disabled] at ending silent
            cases hbody with
            | silent => exact absurd (silent rfl) Bool.false_ne_true
            | started earlier =>
                have endedOn : (cycle.endedBy false).isAnnounced = true := on
                have finished : Body (cycle.start session.id) true
                    [(cycle.start session.id).startedRequest earlier,
                      .sendEvents session.id [⟨session.id, time, .finished⟩] .sessionFinished] :=
                  .finished earlier time
                simpa using told.on endedOn ending channel finished

end Account
end Session
end ContentCapture
