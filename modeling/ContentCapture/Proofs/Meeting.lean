import ContentCapture.Reply.Rendezvous
import Mathlib.Data.List.Induction

namespace ContentCapture

/-!
# The meeting of the two ends

The sink of a reply channel and its receiver are held by different threads.  The one
completes the channel or drops the sink, the other peeks and finally waits, and the clock
goes on meanwhile.  Here both ends are taken step by step, in any order in which their
threads may get hold of the channel.

A wait fixes its deadline, looks at the channel, and falls asleep if there is no outcome.  A
sleeper may be woken any number of times, for a reason or for none.  All that is known of a
wake-up that says that the time is up is that the deadline has come.  What the receiver does
when it looks and when it is woken is `Channel.wake`.

The first outcome is the only one: what was peeked, what the wait ends in, and what a drop
leaves behind are all told by it.  A wait of an exchange, which passes over the time in
which nothing happens, is one of these runs.
-/

/-- What is left of the sink of a channel. -/
inductive SinkEnd where
  | held
  /-- The channel was completed with it. -/
  | used
  | gone
  deriving DecidableEq, Repr

/-- What is left of the receiver of a channel. -/
inductive ReceiverEnd where
  | held
  /-- It is about to look at the channel for the first time. -/
  | entering (deadline : Span)
  | asleep (deadline : Span)
  /-- The wait is over. -/
  | done (result : Except ReplyError Reply)

/-- A channel and its two ends at some time. -/
structure Meeting where
  channel : Channel
  now : Span
  sink : SinkEnd := .held
  receiver : ReceiverEnd := .held

/-- What one of the threads does, or the clock. -/
inductive Move where
  /-- The channel is completed, which uses the sink up. -/
  | complete (outcome : Outcome)
  /-- The sink is dropped, whether or not it was used. -/
  | drop
  | peek
  | await
  /-- The receiver that is to wait looks at the channel. -/
  | look
  /-- The sleeping receiver is woken, and told whether its time is up. -/
  | wake (expired : Bool)
  | elapse (now : Span)

namespace Move

/-- The outcome that a move is to decide. -/
def outcome? : Move → Option Outcome
  | .complete outcome => some outcome
  | .drop => some .abandoned
  | _ => none

/-- If the waiting receiver looks at the channel, whether it has been told that its time is
up. -/
def check? : Move → Option Bool
  | .look => some false
  | .wake expired => some expired
  | _ => none

end Move

/-- The outcome that the first of some moves to do so decides. -/
def decided (moves : List Move) : Option Outcome :=
  moves.findSome? Move.outcome?

@[simp] theorem decided_nil : decided [] = none := rfl

theorem decided_append (first second : List Move) :
    decided (first ++ second) = (decided first).or (decided second) :=
  List.findSome?_append

theorem decided_singleton (move : Move) : decided [move] = move.outcome? := by
  cases houtcome : move.outcome? <;> simp [decided, houtcome]

theorem decided_mono {before : List Move} {outcome : Outcome}
    (first : decided before = some outcome) (after : List Move) :
    decided (before ++ after) = some outcome := by
  rw [decided_append, first, Option.some_or]

namespace Meeting

def fresh (timeout now : Span) : Meeting :=
  { channel := { timeout := timeout }, now := now }

/-- The waiting receiver has looked at the channel. -/
def checked (meeting : Meeting) (deadline : Span) (expired : Bool) : Meeting :=
  { meeting with
    receiver :=
      match meeting.channel.wake expired with
      | some result => .done result
      | none => .asleep deadline }

/-- The meeting after a move, if the move can be made. -/
def after? (meeting : Meeting) : Move → Option Meeting
  | .complete outcome =>
      match meeting.sink with
      | .held => some { meeting with channel := meeting.channel.complete outcome, sink := .used }
      | _ => none
  | .drop =>
      match meeting.sink with
      | .held => some { meeting with channel := meeting.channel.complete .abandoned, sink := .gone }
      | .used => some { meeting with sink := .gone }
      | .gone => none
  | .peek =>
      match meeting.receiver with
      | .held => some meeting
      | _ => none
  | .await =>
      match meeting.receiver with
      | .held =>
          some
            { meeting with receiver := .entering (meeting.now.followedBy meeting.channel.timeout) }
      | _ => none
  | .look =>
      match meeting.receiver with
      | .entering deadline => some (meeting.checked deadline false)
      | _ => none
  | .wake expired =>
      match meeting.receiver with
      | .asleep deadline =>
          if expired && decide (meeting.now.nanoseconds < deadline.nanoseconds) then none
          else some (meeting.checked deadline expired)
      | _ => none
  | .elapse now =>
      if meeting.now.nanoseconds ≤ now.nanoseconds then some { meeting with now := now } else none

def follow? (meeting : Meeting) (moves : List Move) : Option Meeting :=
  moves.foldlM after? meeting

@[simp] theorem follow?_nil (meeting : Meeting) : meeting.follow? [] = some meeting := rfl

theorem follow?_append (meeting : Meeting) (first second : List Move) :
    meeting.follow? (first ++ second) =
      (meeting.follow? first).bind fun between => between.follow? second :=
  List.foldlM_append

theorem follow?_singleton (meeting : Meeting) (move : Move) :
    meeting.follow? [move] = meeting.after? move := by
  simp [follow?]

theorem follow?_concat {meeting last : Meeting} {moves : List Move} {move : Move}
    (run : meeting.follow? (moves ++ [move]) = some last) :
    ∃ between, meeting.follow? moves = some between ∧ between.after? move = some last := by
  rw [follow?_append, Option.bind_eq_some_iff] at run
  rcases run with ⟨between, before, step⟩
  exact ⟨between, before, by rwa [follow?_singleton] at step⟩

theorem exists_of_follow? {meeting last : Meeting} {before after : List Move} {move : Move}
    (run : meeting.follow? (before ++ move :: after) = some last) :
    ∃ now next, meeting.follow? before = some now ∧ now.after? move = some next ∧
      next.follow? after = some last := by
  rw [follow?_append, Option.bind_eq_some_iff] at run
  rcases run with ⟨now, hnow, rest⟩
  rw [← List.singleton_append, follow?_append, Option.bind_eq_some_iff, follow?_singleton] at rest
  rcases rest with ⟨next, hnext, hlast⟩
  exact ⟨now, next, hnow, hnext, hlast⟩

/-! ## Steps -/

/-- The moves that can be made, and what they lead to. -/
inductive Step (meeting : Meeting) : Move → Meeting → Prop where
  | complete (held : meeting.sink = .held) (outcome : Outcome) :
      Step meeting (.complete outcome)
        { meeting with channel := meeting.channel.complete outcome, sink := .used }
  | abandon (held : meeting.sink = .held) :
      Step meeting .drop
        { meeting with channel := meeting.channel.complete .abandoned, sink := .gone }
  | letGo (used : meeting.sink = .used) : Step meeting .drop { meeting with sink := .gone }
  | peek (held : meeting.receiver = .held) : Step meeting .peek meeting
  | await (held : meeting.receiver = .held) :
      Step meeting .await
        { meeting with receiver := .entering (meeting.now.followedBy meeting.channel.timeout) }
  | look {deadline : Span} (entering : meeting.receiver = .entering deadline) :
      Step meeting .look (meeting.checked deadline false)
  | wake {deadline : Span} (asleep : meeting.receiver = .asleep deadline) {expired : Bool}
      (due : expired = true → deadline.nanoseconds ≤ meeting.now.nanoseconds) :
      Step meeting (.wake expired) (meeting.checked deadline expired)
  | elapse {now : Span} (later : meeting.now.nanoseconds ≤ now.nanoseconds) :
      Step meeting (.elapse now) { meeting with now := now }

theorem step_of_after? {meeting next : Meeting} {move : Move}
    (step : meeting.after? move = some next) : Step meeting move next := by
  cases move with
  | complete outcome =>
      cases held : meeting.sink <;>
        simp only [after?, held, Option.some.injEq, reduceCtorEq] at step
      exact step ▸ .complete held outcome
  | drop =>
      cases held : meeting.sink <;>
        simp only [after?, held, Option.some.injEq, reduceCtorEq] at step
      · exact step ▸ .abandon held
      · exact step ▸ .letGo held
  | peek =>
      cases held : meeting.receiver <;>
        simp only [after?, held, Option.some.injEq, reduceCtorEq] at step
      exact step ▸ .peek held
  | await =>
      cases held : meeting.receiver <;>
        simp only [after?, held, Option.some.injEq, reduceCtorEq] at step
      exact step ▸ .await held
  | look =>
      cases held : meeting.receiver <;>
        simp only [after?, held, Option.some.injEq, reduceCtorEq] at step
      exact step ▸ .look held
  | wake expired =>
      cases held : meeting.receiver <;>
        simp only [after?, held, Option.ite_none_left_eq_some, Option.some.injEq, reduceCtorEq]
          at step
      refine step.2 ▸ .wake held fun expires => ?_
      simpa [expires] using step.1
  | elapse now =>
      simp only [after?, Option.ite_none_right_eq_some, Option.some.injEq] at step
      exact step.2 ▸ .elapse step.1

/-! ## The sink -/

/-- The channel has the outcome that was decided first, and the sink is held until one is. -/
structure Settled (timeout : Span) (first : Option Outcome) (meeting : Meeting) : Prop where
  timeout : meeting.channel.timeout = timeout
  outcome : meeting.channel.outcome = first
  sink : meeting.sink = .held ↔ first = none

theorem settled_fresh (timeout now : Span) : Settled timeout none (fresh timeout now) :=
  ⟨rfl, rfl, by simp [fresh]⟩

namespace Settled

variable {timeout : Span} {first : Option Outcome} {meeting next : Meeting}

/-- As long as the sink is held, the outcome is what it makes of the channel. -/
theorem complete (settled : Settled timeout first meeting) (held : meeting.sink = .held)
    (outcome : Outcome) :
    first = none ∧ meeting.channel.complete outcome =
      { meeting.channel with outcome := some outcome } := by
  have undecided := settled.sink.mp held
  exact ⟨undecided, by simp [Channel.complete, settled.outcome, undecided]⟩

/-- Only a move of the sink decides an outcome, and only the first one does. -/
theorem after (settled : Settled timeout first meeting) {move : Move}
    (step : Step meeting move next) : Settled timeout (first.or move.outcome?) next := by
  cases step with
  | complete held outcome =>
      rcases settled.complete held outcome with ⟨rfl, completed⟩
      exact ⟨by rw [completed, settled.timeout], by rw [completed]; rfl, by simp [Move.outcome?]⟩
  | abandon held =>
      rcases settled.complete held .abandoned with ⟨rfl, completed⟩
      exact ⟨by rw [completed, settled.timeout], by rw [completed]; rfl, by simp [Move.outcome?]⟩
  | letGo used =>
      cases first with
      | none => exact absurd (settled.sink.mpr rfl) (by simp [used])
      | some outcome => exact ⟨settled.timeout, settled.outcome, by simp⟩
  | _ =>
      simp only [Move.outcome?, Option.or_none]
      exact ⟨settled.timeout, settled.outcome, settled.sink⟩

end Settled

theorem settled_follow? {timeout begun : Span} {moves : List Move} {meeting : Meeting}
    (run : (fresh timeout begun).follow? moves = some meeting) :
    Settled timeout (decided moves) meeting := by
  induction moves using List.reverseRecOn generalizing meeting with
  | nil =>
      cases run
      exact settled_fresh timeout begun
  | append_singleton moves move inductionHypothesis =>
      rcases follow?_concat run with ⟨between, before, step⟩
      rw [decided_append, decided_singleton]
      exact (inductionHypothesis before).after (step_of_after? step)

theorem peek_follow? {timeout begun : Span} {moves : List Move} {meeting : Meeting}
    (run : (fresh timeout begun).follow? moves = some meeting) :
    meeting.channel.peek =
      (decided moves).map fun outcome => outcome.resolve.map Reply.code := by
  rw [Channel.peek, (settled_follow? run).outcome]

/-- A drop leaves a channel that was completed as it is, and abandons any other. -/
theorem drop_follow? {timeout begun : Span} {before : List Move} {now next : Meeting}
    (run : (fresh timeout begun).follow? before = some now) (step : now.after? .drop = some next) :
    ((decided before).isSome = true → next.channel = now.channel) ∧
      (decided before = none →
        next.channel.conclude = .error (.remote "reply sink dropped without a result")) := by
  have settled := settled_follow? run
  cases step_of_after? step with
  | abandon held =>
      rcases settled.complete held .abandoned with ⟨undecided, completed⟩
      refine ⟨fun there => by simp [undecided] at there, fun _ => ?_⟩
      simp [completed, Channel.conclude, Outcome.resolve]
  | letGo used =>
      refine ⟨fun _ => rfl, fun undecided => ?_⟩
      have held := settled.sink.mpr undecided
      simp [used] at held

/-! ## The receiver -/

theorem wake_eq_some_iff (channel : Channel) (expired : Bool)
    (result : Except ReplyError Reply) :
    channel.wake expired = some result ↔
      (∃ outcome, channel.outcome = some outcome ∧ result = outcome.resolve) ∨
        (channel.outcome = none ∧ expired = true ∧ result = .error (.timeout channel.timeout)) := by
  cases houtcome : channel.outcome with
  | none => cases expired <;> simp [Channel.wake, Channel.conclude, houtcome, eq_comm]
  | some outcome => simp [Channel.wake, Channel.conclude, houtcome, eq_comm]

/-- An outcome is not the end of the time. -/
theorem resolve_ne_timeout (outcome : Outcome) (span : Span) :
    outcome.resolve ≠ .error (.timeout span) := by
  cases outcome <;> simp [Outcome.resolve]

/-- A wait is over once a look at the channel has ended it. -/
theorem done_iff_of_step {meeting next : Meeting} {move : Move} (step : Step meeting move next)
    (result : Except ReplyError Reply) :
    next.receiver = .done result ↔ meeting.receiver = .done result ∨
      ∃ expired, move.check? = some expired ∧ meeting.channel.wake expired = some result := by
  cases step with
  | look entering =>
      cases woken : meeting.channel.wake false <;> simp [checked, woken, Move.check?, entering]
  | @wake deadline asleep expired due =>
      cases woken : meeting.channel.wake expired <;> simp [checked, woken, Move.check?, asleep]
  | await held => simp [held, Move.check?]
  | _ => simp [Move.check?]

/-- What a wait ends in is what one of the looks at the channel has found. -/
theorem done_follow?_iff {timeout begun : Span} {moves : List Move} {meeting : Meeting}
    (run : (fresh timeout begun).follow? moves = some meeting)
    (result : Except ReplyError Reply) :
    meeting.receiver = .done result ↔
      ∃ before move after now expired, moves = before ++ move :: after ∧
        (fresh timeout begun).follow? before = some now ∧ move.check? = some expired ∧
          now.channel.wake expired = some result := by
  induction moves using List.reverseRecOn generalizing meeting with
  | nil =>
      cases run
      simp [fresh]
  | append_singleton moves last inductionHypothesis =>
      rcases follow?_concat run with ⟨between, earlier, step⟩
      rw [done_iff_of_step (step_of_after? step), inductionHypothesis earlier]
      constructor
      · rintro (⟨before, move, after, now, expired, rfl, found⟩ | ⟨expired, check, woken⟩)
        · exact ⟨before, move, after ++ [last], now, expired, by simp, found⟩
        · exact ⟨moves, last, [], between, expired, rfl, earlier, check, woken⟩
      · rintro ⟨before, move, after, now, expired, split, reached, check, woken⟩
        rcases after.eq_nil_or_concat with rfl | ⟨rest, final, rfl⟩
        · rcases List.append_inj' split rfl with ⟨rfl, same⟩
          cases same
          rw [earlier, Option.some_inj] at reached
          exact .inr ⟨expired, check, reached ▸ woken⟩
        · rw [List.concat_eq_append, ← List.cons_append, ← List.append_assoc] at split
          rcases List.append_inj' split rfl with ⟨rfl, -⟩
          exact .inl ⟨before, move, rest, now, expired, rfl, reached, check, woken⟩

/-- A wait ends with the outcome if a look finds one, and with the end of the time if it finds
none and the time is up. -/
theorem done_iff {timeout begun : Span} {moves : List Move} {meeting : Meeting}
    (run : (fresh timeout begun).follow? moves = some meeting)
    (result : Except ReplyError Reply) :
    meeting.receiver = .done result ↔
      ∃ before move after expired, moves = before ++ move :: after ∧
        move.check? = some expired ∧
        ((∃ outcome, decided before = some outcome ∧ result = outcome.resolve) ∨
          (decided before = none ∧ expired = true ∧ result = .error (.timeout timeout))) := by
  have found : ∀ {before : List Move} {now : Meeting} {expired : Bool},
      (fresh timeout begun).follow? before = some now →
        (now.channel.wake expired = some result ↔
          (∃ outcome, decided before = some outcome ∧ result = outcome.resolve) ∨
            (decided before = none ∧ expired = true ∧ result = .error (.timeout timeout))) := by
    intro before now expired reached
    have settled := settled_follow? reached
    rw [wake_eq_some_iff, settled.outcome, settled.timeout]
  rw [done_follow?_iff run]
  constructor
  · rintro ⟨before, move, after, now, expired, split, reached, check, woken⟩
    exact ⟨before, move, after, expired, split, check, (found reached).mp woken⟩
  · rintro ⟨before, move, after, expired, rfl, check, finds⟩
    rcases exists_of_follow? run with ⟨now, next, reached, -, -⟩
    exact ⟨before, move, after, now, expired, rfl, reached, check, (found reached).mpr finds⟩

/-- The time was up for a wait that timed out, and there was nothing. -/
theorem timeout_iff {timeout begun : Span} {moves : List Move} {meeting : Meeting}
    (run : (fresh timeout begun).follow? moves = some meeting) (span : Span) :
    meeting.receiver = .done (.error (.timeout span)) ↔
      span = timeout ∧ ∃ before after, moves = before ++ .wake true :: after ∧
        decided before = none := by
  rw [done_iff run]
  constructor
  · rintro ⟨before, move, after, expired, split, check,
      ⟨outcome, -, same⟩ | ⟨undecided, rfl, same⟩⟩
    · exact absurd same.symm (resolve_ne_timeout outcome span)
    · cases move <;> simp only [Move.check?, Option.some.injEq, reduceCtorEq] at check
      subst check
      rw [Except.error.injEq, ReplyError.timeout.injEq] at same
      exact ⟨same, before, after, split, undecided⟩
  · rintro ⟨rfl, before, after, split, undecided⟩
    exact ⟨before, .wake true, after, true, split, rfl, .inr ⟨undecided, rfl, rfl⟩⟩

/-! ## The deadline -/

/-- The deadline of a receiver that waits. -/
def deadline? (meeting : Meeting) : Option Span :=
  match meeting.receiver with
  | .entering deadline => some deadline
  | .asleep deadline => some deadline
  | _ => none

theorem eq_of_deadline?_checked {meeting : Meeting} {fixed deadline : Span} {expired : Bool}
    (waits : (meeting.checked fixed expired).deadline? = some deadline) : fixed = deadline := by
  cases woken : meeting.channel.wake expired with
  | none => simpa [deadline?, checked, woken] using waits
  | some result => simp [deadline?, checked, woken] at waits

/-- A deadline is fixed when the wait begins. -/
theorem deadline?_of_step {meeting next : Meeting} {move : Move} {deadline : Span}
    (step : Step meeting move next) (waits : next.deadline? = some deadline) :
    meeting.deadline? = some deadline ∨
      move = .await ∧ deadline = meeting.now.followedBy meeting.channel.timeout := by
  cases step with
  | await held => exact .inr ⟨rfl, by simpa [deadline?] using waits.symm⟩
  | look entering => exact .inl (by simp [deadline?, entering, eq_of_deadline?_checked waits])
  | wake asleep due => exact .inl (by simp [deadline?, asleep, eq_of_deadline?_checked waits])
  | _ => exact .inl waits

/-- A deadline is as long after the beginning of the wait as the timeout says. -/
theorem exists_await_of_deadline? {timeout begun : Span} {moves : List Move} {meeting : Meeting}
    (run : (fresh timeout begun).follow? moves = some meeting) {deadline : Span}
    (waits : meeting.deadline? = some deadline) :
    ∃ before during entered, moves = before ++ .await :: during ∧
      (fresh timeout begun).follow? before = some entered ∧
        deadline = entered.now.followedBy timeout := by
  induction moves using List.reverseRecOn generalizing meeting with
  | nil =>
      cases run
      simp [fresh, deadline?] at waits
  | append_singleton moves last inductionHypothesis =>
      rcases follow?_concat run with ⟨between, earlier, step⟩
      rcases deadline?_of_step (step_of_after? step) waits with waited | ⟨rfl, fixed⟩
      · rcases inductionHypothesis earlier waited with ⟨before, during, entered, rfl, rest⟩
        exact ⟨before, during ++ [last], entered, by simp, rest⟩
      · rw [(settled_follow? earlier).timeout] at fixed
        exact ⟨moves, [], between, rfl, earlier, fixed⟩

/-- No wake-up says that the time is up before it is. -/
theorem deadline_le_of_wake {timeout begun : Span} {before after : List Move} {meeting : Meeting}
    (run : (fresh timeout begun).follow? (before ++ .wake true :: after) = some meeting) :
    ∃ earlier during entered now, before = earlier ++ .await :: during ∧
      (fresh timeout begun).follow? earlier = some entered ∧
      (fresh timeout begun).follow? before = some now ∧
      (entered.now.followedBy timeout).nanoseconds ≤ now.now.nanoseconds := by
  rcases exists_of_follow? run with ⟨now, next, reached, step, -⟩
  cases step_of_after? step with
  | @wake deadline asleep _ due =>
      have waits : now.deadline? = some deadline := by rw [deadline?, asleep]
      rcases exists_await_of_deadline? reached waits with
        ⟨earlier, during, entered, split, began, rfl⟩
      exact ⟨earlier, during, entered, now, split, began, reached, due rfl⟩

/-! ## The waits of an exchange -/

end Meeting

/-- A channel as its two ends see it, with an outcome that is underway still to be decided. -/
def Channel.meeting (channel : Channel) (now : Span) : Meeting :=
  { channel := { channel with underway := none }
    now := now
    sink := if channel.outcome.isNone then .held else .used }

namespace Meeting

/-- Some run leads from a meeting to the end of the wait, with that result and at that
time. -/
def EndsIn (meeting : Meeting) (result : Except ReplyError Reply) (time : Span) : Prop :=
  ∃ moves last, meeting.follow? moves = some last ∧ last.receiver = .done result ∧
    last.now = time

/-- A receiver that finds the channel decided goes away with the outcome. -/
theorem endsIn_of_outcome {meeting : Meeting} (waits : meeting.receiver = .held)
    {outcome : Outcome} (there : meeting.channel.outcome = some outcome) :
    EndsIn meeting outcome.resolve meeting.now := by
  refine ⟨[.await, .look], { meeting with receiver := .done outcome.resolve }, ?_, rfl, rfl⟩
  simp [follow?, after?, waits, checked, Channel.wake, Channel.conclude, there]

theorem endsIn_of_completed {meeting : Meeting} (waits : meeting.receiver = .held)
    (held : meeting.sink = .held) (undecided : meeting.channel.outcome = none)
    (outcome : Outcome) : EndsIn meeting outcome.resolve meeting.now := by
  let completed : Meeting :=
    { meeting with channel := meeting.channel.complete outcome, sink := .used }
  have there : completed.channel.outcome = some outcome := by
    simp [completed, Channel.complete, undecided]
  have step : meeting.after? (.complete outcome) = some completed := by
    simp [after?, held, completed]
  have waiting : completed.receiver = .held := waits
  rcases endsIn_of_outcome waiting there with ⟨moves, last, run, ends⟩
  refine ⟨.complete outcome :: moves, last, ?_, ends⟩
  rw [← List.singleton_append, follow?_append, follow?_singleton, step, Option.bind_some, run]

/-- A receiver to which no outcome comes sleeps until its time is up. -/
theorem endsIn_timeout {meeting : Meeting} (waits : meeting.receiver = .held)
    (undecided : meeting.channel.outcome = none) :
    EndsIn meeting (.error (.timeout meeting.channel.timeout))
      (meeting.now.followedBy meeting.channel.timeout) := by
  let deadline := meeting.now.followedBy meeting.channel.timeout
  have later : meeting.now.nanoseconds ≤ deadline.nanoseconds := Nat.le_add_right _ _
  refine ⟨[.await, .look, .elapse deadline, .wake true], { meeting with
    now := deadline
    receiver := .done (.error (.timeout meeting.channel.timeout)) }, ?_, rfl, rfl⟩
  simp [follow?, after?, waits, checked, Channel.wake, Channel.conclude, undecided, deadline, later]

/-- One that sleeps when the outcome arrives is woken by it. -/
theorem endsIn_of_arrival {meeting : Meeting} (waits : meeting.receiver = .held)
    (held : meeting.sink = .held) (undecided : meeting.channel.outcome = none)
    {arrival : Span} (later : meeting.now.nanoseconds ≤ arrival.nanoseconds) (outcome : Outcome) :
    EndsIn meeting outcome.resolve arrival := by
  refine ⟨[.await, .look, .elapse arrival, .complete outcome, .wake false],
    { channel := { meeting.channel with outcome := some outcome }
      now := arrival
      sink := .used
      receiver := .done outcome.resolve }, ?_, rfl, rfl⟩
  simp [follow?, after?, waits, held, checked, Channel.wake, Channel.conclude, Channel.complete,
    undecided, later]

/-- A wait for an outcome that is underway ends when it arrives, or at the deadline if that
is earlier. -/
theorem endsIn_wait_of_underway {waiting : Channel} (undecided : waiting.outcome = none)
    {arrival : Span} {outcome : Outcome} (underway : waiting.underway = some (arrival, outcome))
    (now : Span) :
    EndsIn (waiting.meeting now) (waiting.reached (waiting.waitEnd now)).conclude
      (waiting.waitEnd now) := by
  have waits : (waiting.meeting now).receiver = .held := rfl
  have held : (waiting.meeting now).sink = .held := by simp [Channel.meeting, undecided]
  have concluded : ∀ reached : Span, (waiting.reached reached).conclude =
      if arrival.nanoseconds ≤ reached.nanoseconds then outcome.resolve
      else .error (.timeout waiting.timeout) := by
    intro reached
    simp only [Channel.reached, underway]
    split <;> simp [Channel.complete, Channel.conclude, undecided]
  rw [concluded]
  simp only [Channel.waitEnd, undecided, underway]
  split
  · exact endsIn_of_completed waits held undecided outcome
  · next late =>
      have later : now.nanoseconds ≤ arrival.nanoseconds := Nat.le_of_not_le late
      split
      · rw [if_pos (Nat.le_refl _)]
        exact endsIn_of_arrival waits held undecided later outcome
      · -- An outcome that arrives just at the deadline is still in time.
        split
        · exact endsIn_of_arrival waits held undecided (Nat.le_add_right _ _) outcome
        · exact endsIn_timeout waits undecided

/-- What a wait of an exchange leads to is what the receiver comes to by itself. -/
theorem endsIn_wait (waiting : Channel) (now : Span) :
    EndsIn (waiting.meeting now) (waiting.reached (waiting.waitEnd now)).conclude
      (waiting.waitEnd now) := by
  have waits : (waiting.meeting now).receiver = .held := rfl
  cases houtcome : waiting.outcome with
  | some outcome =>
      have concluded : (waiting.reached (waiting.waitEnd now)).conclude = outcome.resolve := by
        unfold Channel.reached
        split
        · simp [Channel.conclude, houtcome]
        · split <;> simp [Channel.complete, Channel.conclude, houtcome]
      have ending : waiting.waitEnd now = now := by simp [Channel.waitEnd, houtcome]
      rw [concluded, ending]
      exact endsIn_of_outcome waits houtcome
  | none =>
      cases hunderway : waiting.underway with
      | none =>
          have ending : waiting.waitEnd now = now.followedBy waiting.timeout := by
            simp [Channel.waitEnd, houtcome, hunderway]
          have concluded : (waiting.reached (waiting.waitEnd now)).conclude =
              .error (.timeout waiting.timeout) := by
            simp [Channel.reached, hunderway, Channel.conclude, houtcome]
          rw [concluded, ending]
          exact endsIn_timeout waits houtcome
      | some sent => exact endsIn_wait_of_underway houtcome hunderway now

/-- Who waits goes away with what a run of the two ends leads to. -/
theorem endsIn_await? {rendezvous later : Rendezvous} {id : ChannelId} {channel : Channel}
    (awaited : rendezvous.await? id = some (channel, later)) :
    ∃ waiting, rendezvous.exchange.channel? id = some waiting ∧
      EndsIn (waiting.meeting rendezvous.exchange.now) channel.conclude later.exchange.now := by
  rw [Rendezvous.await?, Option.map_eq_some_iff] at awaited
  rcases awaited with ⟨reached, received, same⟩
  rw [Prod.mk.injEq] at same
  rcases same with ⟨rfl, rfl⟩
  rw [Rendezvous.received?, Option.ite_none_right_eq_some] at received
  have there : (rendezvous.exchange.await id).channel? id = some reached := received.2
  change ∃ waiting, _ ∧ EndsIn _ reached.conclude (rendezvous.exchange.await id).now
  unfold Exchange.await at there ⊢
  cases hwaiting : rendezvous.exchange.channel? id with
  | none => simp [hwaiting] at there
  | some waiting =>
      simp only [hwaiting, Exchange.channel?_reached, Option.map_some, Option.some.injEq] at there ⊢
      exact ⟨waiting, rfl, there ▸ endsIn_wait waiting rendezvous.exchange.now⟩

/-- For every channel and however the moves of its two ends and of the clock are interleaved:
who peeks sees nothing until an outcome is decided and the first outcome ever after; a drop
changes nothing if the channel was completed, and is a failure if it was not; a wait ends in the
outcome if a look finds one, be the time up or not, and in a timeout exactly if a wake-up that
says that the time is up finds none, which is not before the deadline.  And every wait of an
exchange ends as one of these runs does. -/
theorem rendezvous_of_run {timeout begun : Span} {moves : List Move} {meeting : Meeting}
    (run : (fresh timeout begun).follow? moves = some meeting) :
    (∀ before after, moves = before ++ .peek :: after →
      ∃ now, (fresh timeout begun).follow? before = some now ∧
        now.channel.peek =
          (decided before).map fun outcome => outcome.resolve.map Reply.code) ∧
    (∀ before after outcome, moves = before ++ after → decided before = some outcome →
      decided moves = some outcome) ∧
    (∀ before after, moves = before ++ .drop :: after →
      ∃ now next, (fresh timeout begun).follow? before = some now ∧
        now.after? .drop = some next ∧
        ((decided before).isSome = true → next.channel = now.channel) ∧
        (decided before = none →
          next.channel.conclude = .error (.remote "reply sink dropped without a result"))) ∧
    (∀ result, meeting.receiver = .done result ↔
      ∃ before move after expired, moves = before ++ move :: after ∧
        move.check? = some expired ∧
        ((∃ outcome, decided before = some outcome ∧ result = outcome.resolve) ∨
          (decided before = none ∧ expired = true ∧ result = .error (.timeout timeout)))) ∧
    (∀ span, meeting.receiver = .done (.error (.timeout span)) ↔
      span = timeout ∧ ∃ before after, moves = before ++ .wake true :: after ∧
        decided before = none) ∧
    (∀ before after, moves = before ++ .wake true :: after →
      ∃ earlier during entered now, before = earlier ++ .await :: during ∧
        (fresh timeout begun).follow? earlier = some entered ∧
        (fresh timeout begun).follow? before = some now ∧
        (entered.now.followedBy timeout).nanoseconds ≤ now.now.nanoseconds) ∧
    ∀ (rendezvous : Rendezvous) id channel later,
      rendezvous.await? id = some (channel, later) →
        ∃ waiting, rendezvous.exchange.channel? id = some waiting ∧
          EndsIn (waiting.meeting rendezvous.exchange.now) channel.conclude
            later.exchange.now := by
  refine ⟨?peeks, ?first, ?drops, done_iff run, timeout_iff run, ?deadline,
    fun _ _ _ _ awaited => endsIn_await? awaited⟩
  case peeks =>
    rintro before after rfl
    rcases exists_of_follow? run with ⟨now, next, reached, -, -⟩
    exact ⟨now, reached, peek_follow? reached⟩
  case first =>
    rintro before after outcome rfl found
    exact decided_mono found after
  case drops =>
    rintro before after rfl
    rcases exists_of_follow? run with ⟨now, next, reached, step, -⟩
    exact ⟨now, next, reached, step, drop_follow? reached step⟩
  case deadline =>
    rintro before after rfl
    exact deadline_le_of_wake run

/-- The receiver is woken for no reason, peeked at before it waits, and told that its time is up
just after the channel was completed. -/
def photoFinish : List Move :=
  [.peek, .await, .look, .elapse ⟨3⟩, .wake false, .elapse ⟨5⟩, .complete (.failed "boom"), .drop,
    .wake true]

theorem rendezvous_of_run_photoFinish :
    ∃ meeting, (fresh ⟨5⟩ ⟨0⟩).follow? photoFinish = some meeting ∧
      decided photoFinish = some (.failed "boom") ∧
      meeting.receiver = .done (.error (.remote "boom")) ∧
      ∃ now next : Meeting, now.after? .drop = some next ∧ next.channel = now.channel := by
  have there : ((fresh ⟨5⟩ ⟨0⟩).follow? photoFinish).isSome = true := by decide
  rcases Option.isSome_iff_exists.mp there with ⟨meeting, run⟩
  have facts := rendezvous_of_run run
  rcases facts.2.2.1 (photoFinish.take 7) [.wake true] rfl with ⟨now, next, -, step, same, -⟩
  refine ⟨meeting, run, rfl, ?_, now, next, step, same rfl⟩
  exact (facts.2.2.2.1 (.error (.remote "boom"))).mpr
    ⟨photoFinish.take 8, .wake true, [], true, rfl, rfl, .inl ⟨.failed "boom", rfl, rfl⟩⟩

end Meeting
end ContentCapture
