import ContentCapture.Reply.Exchange
import ContentCapture.Text.Diagnostic

namespace ContentCapture

/-!
# The two ends of a reply channel

Each end is held until it is used up: the sink by deciding the outcome, the
receiver by waiting or by being dropped.  A sink that is merely kept is still
held.
-/

/-- Which ends of a reply channel are still held. -/
structure Holding where
  sink : Bool := true
  receiver : Bool := true
  deriving DecidableEq, Repr

/-- Reply channels together with which ends of them are still held. -/
structure Rendezvous where
  exchange : Exchange := {}
  holdings : List Holding := []

namespace Rendezvous

/-- One more channel, both ends of which are held. -/
def opened (rendezvous : Rendezvous) (timeout : Span) : Rendezvous :=
  { exchange := (rendezvous.exchange.newChannel timeout).2
    holdings := rendezvous.holdings ++ [{}] }

def sinkHeld (rendezvous : Rendezvous) (id : ChannelId) : Bool :=
  (rendezvous.holdings[id]?).any Holding.sink

def receiverHeld (rendezvous : Rendezvous) (id : ChannelId) : Bool :=
  (rendezvous.holdings[id]?).any Holding.receiver

def releaseSink (rendezvous : Rendezvous) (id : ChannelId) : Rendezvous :=
  { rendezvous with
    holdings := rendezvous.holdings.modify id fun holding => { holding with sink := false } }

def releaseReceiver (rendezvous : Rendezvous) (id : ChannelId) : Rendezvous :=
  { rendezvous with
    holdings := rendezvous.holdings.modify id fun holding => { holding with receiver := false } }

/-- Uses the sink of a channel, if it is still held. -/
def send? (rendezvous : Rendezvous) (id : ChannelId) (answer : Answer) : Option Rendezvous :=
  if rendezvous.sinkHeld id then
    let sent := { rendezvous with exchange := rendezvous.exchange.answer id answer }
    match answer with
    | .keep => some sent
    | _ => some (sent.releaseSink id)
  else none

/-- The channel of a receiver, if the receiver is still held. -/
def received? (rendezvous : Rendezvous) (id : ChannelId) : Option Channel :=
  if rendezvous.receiverHeld id then rendezvous.exchange.channel? id else none

/-- Waits for the reply of a channel, which uses the receiver up, if it is still
held.  The channel is the one at the end of the wait. -/
def await? (rendezvous : Rendezvous) (id : ChannelId) : Option (Channel × Rendezvous) :=
  let awaited := { rendezvous with exchange := rendezvous.exchange.await id }
  (awaited.received? id).map fun channel => (channel, awaited.releaseReceiver id)

def sinkDiagnostic? (rendezvous : Rendezvous) (id : ChannelId) : Option String :=
  if rendezvous.sinkHeld id then some (Text.record "ResultSink" [("pending", Text.ofBool true)])
  else none

def receiverDiagnostic? (rendezvous : Rendezvous) (id : ChannelId) : Option String :=
  (rendezvous.received? id).map fun channel =>
    Text.record "SyncResultReceiver"
      [("timeout", channel.timeout.text), ("completed", Text.ofBool channel.outcome.isSome)]

end Rendezvous
end ContentCapture
