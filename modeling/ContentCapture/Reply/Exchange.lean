import ContentCapture.Reply.Channel

namespace ContentCapture

/-!
# The exchange

Reply channels are independent of each other but for the time, which passes for
all of them at once.  An exchange holds the channels that were made, by number,
and the time.  The time passes only while somebody waits: a wait for one channel
lasts until its outcome is there or the time of its receiver is up, and all
outcomes that were to arrive by then have arrived, on whichever channel.
-/

/-- The reply channels that were made, and the time since the epoch. -/
structure Exchange where
  now : Span := ⟨0⟩
  channels : List Channel := []

namespace Exchange

def channel? (exchange : Exchange) (id : ChannelId) : Option Channel :=
  exchange.channels[id]?

def newChannel (exchange : Exchange) (timeout : Span) : ChannelId × Exchange :=
  (exchange.channels.length,
    { exchange with channels := exchange.channels ++ [{ timeout := timeout }] })

/-- Does to a channel what a service does with it. -/
def answer (exchange : Exchange) (id : ChannelId) (answer : Answer) : Exchange :=
  { exchange with
    channels := exchange.channels.modify id fun channel => channel.answered exchange.now answer }

/-- Does to several channels, one after another, what a service does with them. -/
def answerAll (exchange : Exchange) (answers : List (ChannelId × Answer)) : Exchange :=
  answers.foldl (fun exchange (id, answer) => exchange.answer id answer) exchange

/-- The number in the reply of a channel, if its outcome is decided. -/
def peek (exchange : Exchange) (id : ChannelId) : Option (Except ReplyError Int32) :=
  (exchange.channel? id).bind Channel.peek

/-- The exchange at a later time. -/
def reached (exchange : Exchange) (now : Span) : Exchange :=
  { now := now, channels := exchange.channels.map fun channel => channel.reached now }

/-- The exchange at the end of a wait for a channel. -/
def await (exchange : Exchange) (id : ChannelId) : Exchange :=
  match exchange.channel? id with
  | none => exchange
  | some channel => exchange.reached (channel.waitEnd exchange.now)

/-- The time changes what is underway and nothing else about a channel. -/
theorem channel?_reached (exchange : Exchange) (now : Span) (id : ChannelId) :
    (exchange.reached now).channel? id =
      (exchange.channel? id).map fun channel => channel.reached now := by
  simp [channel?, reached]

end Exchange
end ContentCapture
