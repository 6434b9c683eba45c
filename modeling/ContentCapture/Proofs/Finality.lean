import ContentCapture.Reply.Exchange

namespace ContentCapture

/-!
# Outcomes are final

Whatever happens to an exchange, an answer that was found in a channel once is
found there ever after.  One exchange precedes another if that is so between
them.
-/

namespace Channel

theorem outcome_complete {channel : Channel} {outcome : Outcome} (other : Outcome)
    (decided : channel.outcome = some outcome) :
    (channel.complete other).outcome = some outcome := by
  simp [complete, decided]

theorem outcome_answered {channel : Channel} {outcome : Outcome} (now : Span) (answer : Answer)
    (decided : channel.outcome = some outcome) :
    (channel.answered now answer).outcome = some outcome := by
  cases answer with
  | complete other => exact outcome_complete other decided
  | later delay other => exact decided
  | keep => exact decided

theorem outcome_reached {channel : Channel} {outcome : Outcome} (now : Span)
    (decided : channel.outcome = some outcome) :
    (channel.reached now).outcome = some outcome := by
  cases hunderway : channel.underway with
  | none => simpa [reached, hunderway] using decided
  | some arriving =>
      rcases arriving with ⟨arrival, other⟩
      by_cases harrived : arrival.nanoseconds ≤ now.nanoseconds
      · have arrivedAt : { channel with underway := none }.outcome = some outcome := decided
        simpa [reached, hunderway, harrived] using outcome_complete other arrivedAt
      · simpa [reached, hunderway, harrived] using decided

end Channel

namespace Exchange

/-- Whatever is found in a channel of the first exchange is found there in the
second one. -/
def Precedes (first second : Exchange) : Prop :=
  ∀ channel answer, first.peek channel = some answer → second.peek channel = some answer

theorem Precedes.refl (exchange : Exchange) : exchange.Precedes exchange :=
  fun _ _ found => found

theorem Precedes.trans {first second third : Exchange} (earlier : first.Precedes second)
    (later : second.Precedes third) : first.Precedes third :=
  fun channel answer found => later channel answer (earlier channel answer found)

/-- A found answer is that of a channel with an outcome. -/
theorem peek_eq_some_iff {exchange : Exchange} {id : ChannelId}
    {answer : Except ReplyError Int32} :
    exchange.peek id = some answer ↔
      ∃ channel outcome, exchange.channel? id = some channel ∧ channel.outcome = some outcome ∧
        outcome.resolve.map Reply.code = answer := by
  simp [peek, Channel.peek, Option.bind_eq_some_iff]

/-- An exchange precedes one whose channels keep their outcomes. -/
theorem precedes_of_outcome {first second : Exchange}
    (keeps : ∀ id channel outcome, first.channel? id = some channel →
      channel.outcome = some outcome →
      ∃ later, second.channel? id = some later ∧ later.outcome = some outcome) :
    first.Precedes second := by
  intro id answer found
  rcases peek_eq_some_iff.mp found with ⟨channel, outcome, hchannel, houtcome, hanswer⟩
  rcases keeps id channel outcome hchannel houtcome with ⟨later, hlater, hkept⟩
  exact peek_eq_some_iff.mpr ⟨later, outcome, hlater, hkept, hanswer⟩

theorem channel?_newChannel {exchange : Exchange} {id : ChannelId} {channel : Channel}
    (timeout : Span) (h : exchange.channel? id = some channel) :
    (exchange.newChannel timeout).2.channel? id = some channel := by
  have bound := (List.getElem?_eq_some_iff.mp h).1
  simpa [channel?, newChannel, List.getElem?_append_left bound] using h

theorem precedes_newChannel (exchange : Exchange) (timeout : Span) :
    exchange.Precedes (exchange.newChannel timeout).2 :=
  precedes_of_outcome fun _ channel _ hchannel houtcome =>
    ⟨channel, channel?_newChannel timeout hchannel, houtcome⟩

/-- Nothing is found in a new channel. -/
theorem peek_newChannel (exchange : Exchange) (timeout : Span) :
    (exchange.newChannel timeout).2.peek (exchange.newChannel timeout).1 = none := by
  simp [peek, channel?, newChannel, Channel.peek]

theorem channel?_answer (exchange : Exchange) (id other : ChannelId) (answer : Answer) :
    (exchange.answer id answer).channel? other =
      (exchange.channel? other).map fun channel =>
        if id = other then channel.answered exchange.now answer else channel := by
  simp [channel?, Exchange.answer, List.getElem?_modify]

theorem precedes_answer (exchange : Exchange) (id : ChannelId) (answer : Answer) :
    exchange.Precedes (exchange.answer id answer) := by
  refine precedes_of_outcome fun other channel outcome hchannel houtcome => ?_
  rw [channel?_answer, hchannel]
  refine ⟨_, rfl, ?_⟩
  split
  · exact Channel.outcome_answered _ _ houtcome
  · exact houtcome

theorem precedes_answerAll (exchange : Exchange) (answers : List (ChannelId × Answer)) :
    exchange.Precedes (exchange.answerAll answers) := by
  induction answers generalizing exchange with
  | nil => exact .refl exchange
  | cons answer rest inductionHypothesis =>
      exact (exchange.precedes_answer answer.1 answer.2).trans (inductionHypothesis _)

theorem precedes_reached (exchange : Exchange) (now : Span) :
    exchange.Precedes (exchange.reached now) := by
  refine precedes_of_outcome fun id channel outcome hchannel houtcome => ?_
  rw [channel?_reached, hchannel]
  exact ⟨_, rfl, Channel.outcome_reached now houtcome⟩

end Exchange
end ContentCapture
