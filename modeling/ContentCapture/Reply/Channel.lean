import ContentCapture.Reply.Outcome

namespace ContentCapture

/-!
# Reply channels

A reply channel is used once.  Its first outcome is final: nothing that happens
at the sending end afterwards changes it.  The receiving end may look at the
outcome any number of times, and may wait for it once, for as long as the span
that was fixed when the channel was made.

A waiting receiver is woken when an outcome arrives, when its time is up, or for
no reason at all.  `Channel.wake` says what it does then: it goes back to sleep
unless there is an outcome or its time is up, and an outcome takes precedence
over the end of the time.

A channel does not know what time it is.  Where that matters, the time is given
as the span that has passed since some fixed instant.
-/

/-- The number of a reply channel. -/
abbrev ChannelId := Nat

/-- A reply channel, as its receiver sees it. -/
structure Channel where
  timeout : Span
  outcome : Option Outcome := none
  /-- The outcome that will be decided later, and the time at which it is. -/
  underway : Option (Span × Outcome) := none

namespace Channel

/-- Decides the outcome, unless it is decided already. -/
def complete (channel : Channel) (outcome : Outcome) : Channel :=
  match channel.outcome with
  | some _ => channel
  | none => { channel with outcome := some outcome }

/-- The channel after what a service does with it at some time. -/
def answered (channel : Channel) (now : Span) : Answer → Channel
  | .complete outcome => channel.complete outcome
  | .later delay outcome => { channel with underway := some (now.followedBy delay, outcome) }
  | .keep => channel

/-- The channel at a later time.  An outcome that was underway may have arrived. -/
def reached (channel : Channel) (now : Span) : Channel :=
  match channel.underway with
  | none => channel
  | some (arrival, outcome) =>
      if arrival.nanoseconds ≤ now.nanoseconds then
        { channel with underway := none }.complete outcome
      else channel

/-- The number in the reply, if the outcome is decided. -/
def peek (channel : Channel) : Option (Except ReplyError Int32) :=
  channel.outcome.map fun outcome => outcome.resolve.map Reply.code

/-- What a receiver goes away with: the outcome, or the end of its time. -/
def conclude (channel : Channel) : Except ReplyError Reply :=
  match channel.outcome with
  | some outcome => outcome.resolve
  | none => .error (.timeout channel.timeout)

/-- What a waiting receiver does when it is woken, its time being up or not. -/
def wake (expired : Bool) (channel : Channel) : Option (Except ReplyError Reply) :=
  if channel.outcome.isSome || expired then some channel.conclude else none

/-- The time at which a wait that begins at some time is over: when the outcome is
there, or when the time of the receiver is up, whichever comes first. -/
def waitEnd (channel : Channel) (now : Span) : Span :=
  let deadline := now.followedBy channel.timeout
  match channel.outcome, channel.underway with
  | some _, _ => now
  | none, none => deadline
  | none, some (arrival, _) =>
      if arrival.nanoseconds ≤ now.nanoseconds then now
      else if arrival.nanoseconds < deadline.nanoseconds then arrival
      else deadline

/-- What a receiver of the number in the reply goes away with. -/
def concludeCode (channel : Channel) : Except ReplyError Int32 :=
  channel.conclude.map Reply.code

/-- What a receiver of a payload of a type goes away with. -/
def concludePayload (α : Type) [WireForm α] (channel : Channel) :
    Except ReplyError (Option α) :=
  channel.conclude.bind fun reply => reply.payloadAs α

/-- The first outcome is final. -/
theorem complete_complete (channel : Channel) (first second : Outcome) :
    (channel.complete first).complete second = channel.complete first := by
  cases h : channel.outcome <;> simp [complete, h]

end Channel
end ContentCapture
