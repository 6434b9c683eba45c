import ContentCapture.Proofs.Accounts
import ContentCapture.Proofs.Numbering
import ContentCapture.Proofs.Sinks
import ContentCapture.Proofs.Succession

namespace ContentCapture

/-!
# Clients without a manager

A local service takes connections from anybody.  A client that has one, but no manager, asks
whatever it likes, with a reply channel of its own if the request wants an answer.  Runs are
taken here together with the calls of such clients.

Only the service and the exchange notice such a call.  The journal tells what managers and
their sessions have done, and does not mention it.  So what is true of managers without clients
around is true of them with clients around, and the reply channels of the clients are found in
the same places as those of the managers.
-/

namespace Request

/-- The request with another channel, if it wants an answer. -/
def through (channel : ChannelId) : Request → Request
  | .serviceComponentName _ => .serviceComponentName channel
  | .featureEnabled _ => .featureEnabled channel
  | .setFeatureEnabled enabled _ => .setFeatureEnabled enabled channel
  | .startSession start _ => .startSession start channel
  | request => request

theorem channel?_through (channel : ChannelId) (request : Request) :
    (request.through channel).channel? = request.channel?.map fun _ => channel := by
  cases request <;> rfl

theorem method_through (channel : ChannelId) (request : Request) :
    (request.through channel).method = request.method := by
  cases request <;> rfl

end Request

/-- A step of a run in which there may be clients. -/
inductive Occurrence where
  | event (event : Event LocalService)
  /-- A client makes a request.  The channel in it does not matter. -/
  | call (caller : String) (timeout : Span) (request : Request)

namespace Deployment

/-! ## Calls -/

/-- The deployment with a new channel for a request, if it wants an answer. -/
def equipped (deployment : Deployment LocalService) (timeout : Span) (request : Request) :
    Deployment LocalService :=
  if request.channel?.isSome then (deployment.newChannel timeout).2 else deployment

def called (deployment : Deployment LocalService) (caller : String) (timeout : Span)
    (request : Request) : Except Unreachable Unit × Deployment LocalService :=
  let asked := (deployment.equipped timeout request).ask none
    ⟨caller, request.through (deployment.newChannel timeout).1⟩
  (asked.1, { asked.2 with journal := deployment.journal })

/-- Nobody but the service and the exchange notices a call. -/
theorem called_fields (deployment : Deployment LocalService) (caller : String) (timeout : Span)
    (request : Request) :
    (deployment.called caller timeout request).2.managers = deployment.managers ∧
      (deployment.called caller timeout request).2.dispatchers = deployment.dispatchers ∧
      (deployment.called caller timeout request).2.journal = deployment.journal := by
  have equipment : (deployment.equipped timeout request).managers = deployment.managers ∧
      (deployment.equipped timeout request).dispatchers = deployment.dispatchers := by
    unfold equipped
    split <;> exact ⟨rfl, rfl⟩
  exact ⟨equipment.1, equipment.2, rfl⟩

/-- But for the journal, a call is handled like the requests of managers. -/
theorem exists_handled_called (deployment : Deployment LocalService) (caller : String)
    (timeout : Span) (request : Request) :
    ∃ asked, Handled [] deployment [] asked ∧
      (deployment.called caller timeout request).2 =
        { asked with journal := deployment.journal } := by
  have handed := Handling.ask (deployment.equipped timeout request) none
    ⟨caller, request.through (deployment.newChannel timeout).1⟩
  rw [Request.channel?_through] at handed
  refine ⟨_, ?_, rfl⟩
  cases hchannel : request.channel? with
  | none =>
      have bare : deployment.equipped timeout request = deployment := by simp [equipped, hchannel]
      rw [hchannel, Option.map_none, bare] at handed
      rw [bare]
      exact .single handed
  | some channel =>
      have made : deployment.equipped timeout request = (deployment.newChannel timeout).2 := by
        simp [equipped, hchannel]
      rw [hchannel, Option.map_some, made] at handed
      rw [made]
      exact (Handled.single (.channel deployment timeout)).tail handed

/-- What has happened stays when a client makes a request. -/
theorem precedes_called (deployment : Deployment LocalService) (caller : String) (timeout : Span)
    (request : Request) : deployment.Precedes (deployment.called caller timeout request).2 := by
  obtain ⟨managers, dispatchers, journal⟩ := deployment.called_fields caller timeout request
  obtain ⟨asked, handled, same⟩ := deployment.exists_handled_called caller timeout request
  have lines : deployment.journal <+: (deployment.called caller timeout request).2.journal :=
    ⟨[], by rw [List.append_nil, journal]⟩
  refine ⟨.of_eq managers, fun _ => by rw [mode?, dispatchers, mode?], lines, ?_⟩
  rw [same]
  exact handled.advances.2.2

/-! ## Runs -/

def undergo (deployment : Deployment LocalService) : Occurrence → Deployment LocalService
  | .event event => deployment.after event
  | .call caller timeout request => (deployment.called caller timeout request).2

def traverse (deployment : Deployment LocalService) (occurrences : List Occurrence) :
    Deployment LocalService :=
  occurrences.foldl undergo deployment

theorem traverse_concat (deployment : Deployment LocalService) (occurrences : List Occurrence)
    (occurrence : Occurrence) :
    deployment.traverse (occurrences ++ [occurrence]) =
      (deployment.traverse occurrences).undergo occurrence := by
  simp [traverse]

/-- The end of the loop of the service is a step. -/
theorem traverse_stop (deployment : Deployment LocalService) (before after : List Occurrence) :
    deployment.traverse (before ++ .event (.act LocalAct.stop) :: after) =
      (deployment.traverse before).stop.traverse after := by
  rw [traverse, List.foldl_append, List.foldl_cons, ← acted_stop]
  rfl

/-- What every step keeps is kept by a run. -/
theorem traverse_keeps {property : Deployment LocalService → Prop}
    (step : ∀ deployment occurrence, property deployment → property (deployment.undergo occurrence))
    {deployment : Deployment LocalService} (holds : property deployment)
    (occurrences : List Occurrence) : property (deployment.traverse occurrences) := by
  induction occurrences using List.reverseRecOn with
  | nil => exact holds
  | append_singleton occurrences occurrence inductionHypothesis =>
      rw [traverse_concat]
      exact step _ occurrence inductionHypothesis

theorem precedes_traverse (deployment : Deployment LocalService) (occurrences : List Occurrence) :
    deployment.Precedes (deployment.traverse occurrences) := by
  have step : ∀ (between : Deployment LocalService) (occurrence : Occurrence),
      deployment.Precedes between → deployment.Precedes (between.undergo occurrence) := by
    intro between occurrence before
    cases occurrence with
    | event event => exact before.trans (between.precedes_after event)
    | call caller timeout request =>
        exact before.trans (between.precedes_called caller timeout request)
  exact traverse_keeps step (.refl deployment) occurrences

/-- What is kept whenever a channel is handed on, and by the loop of the service and the time,
is kept by a step with clients around, if it is not a matter of the journal. -/
theorem undergo_keeps_handling {property : List ChannelId → Deployment LocalService → Prop}
    (step : ∀ {hand first after second}, Handling hand first after second →
      property hand first → property after second)
    (serve : ∀ deployment, property [] deployment → property [] deployment.serve)
    (stop : ∀ deployment, property [] deployment → property [] deployment.stop)
    (elapse : ∀ (deployment : Deployment LocalService) now, property [] deployment →
      property [] { deployment with exchange := deployment.exchange.reached now })
    (unwritten : ∀ (deployment : Deployment LocalService) journal, property [] deployment →
      property [] { deployment with journal := journal })
    {deployment : Deployment LocalService} (occurrence : Occurrence)
    (holds : property [] deployment) : property [] (deployment.undergo occurrence) := by
  cases occurrence with
  | event event =>
      refine after_keeps_handling step (fun deployment act before => ?_) elapse event holds
      cases act with
      | serve =>
          rw [acted_serve]
          exact serve deployment before
      | stop =>
          rw [acted_stop]
          exact stop deployment before
  | call caller timeout request =>
      obtain ⟨asked, handled, same⟩ := deployment.exists_handled_called caller timeout request
      rw [undergo, same]
      exact unwritten asked _ (handled.keeps step holds)

/-! ## What is true of every run with clients -/

/-- What is decided when the next request is worked off is one more outcome. -/
theorem exists_records_serve {deployment : Deployment LocalService}
    (recorded : ∃ decisions, deployment.exchange.Records decisions) :
    ∃ decisions, deployment.serve.exchange.Records decisions := by
  rcases recorded with ⟨decisions, records⟩
  cases hinbox : deployment.service.inbox with
  | nil =>
      rw [serve_eq_self hinbox]
      exact ⟨decisions, records⟩
  | cons envelope rest =>
      rw [serve_eq hinbox]
      cases LocalService.decides { deployment.service with inbox := rest } envelope with
      | none => exact ⟨decisions, records⟩
      | some decided =>
          exact ⟨decisions ++ [decided],
            (records.mono [decided]).complete decided.1 decided.2 (.inr (by simp))⟩

/-- Every channel lies in its place, and no outcome is underway. -/
structure Placed (hand : List ChannelId) (deployment : Deployment LocalService) : Prop where
  balanced : Balanced hand deployment
  recorded : ∃ decisions, deployment.exchange.Records decisions

namespace Placed

variable {deployment : Deployment LocalService}

theorem handling {hand after : List ChannelId} {first second : Deployment LocalService}
    (step : Handling hand first after second) (placed : Placed hand first) :
    Placed after second := by
  rcases placed.recorded with ⟨decisions, records⟩
  exact ⟨placed.balanced.handling step, decisions, step.records records⟩

theorem serve (deployment : Deployment LocalService) (placed : Placed [] deployment) :
    Placed [] deployment.serve :=
  ⟨placed.balanced.serve, exists_records_serve placed.recorded⟩

theorem stop (deployment : Deployment LocalService) (placed : Placed [] deployment) :
    Placed [] deployment.stop := by
  rcases placed.recorded with ⟨decisions, records⟩
  refine ⟨placed.balanced.stop, decisions, ?_⟩
  rw [exchange_stop]
  exact records.abandonAll _

theorem elapse (deployment : Deployment LocalService) (now : Span)
    (placed : Placed [] deployment) :
    Placed [] { deployment with exchange := deployment.exchange.reached now } := by
  rcases placed.recorded with ⟨decisions, records⟩
  refine ⟨fun id => ?_, decisions, records.reached now⟩
  have same := records.isUndecided_reached now id
  exact (placed.balanced id).trans (congrArg Bool.toNat same.symm)

theorem undergo (placed : Placed [] deployment) (occurrence : Occurrence) :
    Placed [] (deployment.undergo occurrence) := by
  have unwritten : ∀ (between : Deployment LocalService) (journal : List Entry),
      Placed [] between → Placed [] { between with journal := journal } :=
    fun _ _ before => ⟨before.balanced, before.recorded⟩
  exact undergo_keeps_handling handling serve stop elapse unwritten occurrence placed

end Placed

/-- What the managers and the channels of a deployment satisfy at every point of a run. -/
structure Sound (deployment : Deployment LocalService) : Prop where
  delivery : Delivery [] deployment
  numbered : Numbered deployment
  placed : Placed [] deployment

/-- The cycles of a session after a step, given those before it. -/
def tally (deployment : Deployment LocalService) (owner : Nat) (cycles : List Cycle) :
    Occurrence → List Cycle
  | .event event => deployment.recount owner cycles event
  | .call _ _ _ => cycles

theorem Accounted.undergo {deployment : Deployment LocalService} {owner : Nat}
    {cycles : List Cycle} (accounted : Accounted deployment owner cycles)
    (delivery : Delivery [] deployment) (occurrence : Occurrence) :
    Accounted (deployment.undergo occurrence) owner
      (deployment.tally owner cycles occurrence) := by
  cases occurrence with
  | event event => exact accounted.after delivery event
  | call caller timeout request =>
      obtain ⟨managers, -, journal⟩ := deployment.called_fields caller timeout request
      have outcomes := (deployment.precedes_called caller timeout request).exchange
      have same : (deployment.called caller timeout request).2.session? owner =
          deployment.session? owner := by rw [session?, managers, session?]
      exact accounted.sequel (.of_eq same journal outcomes)

namespace Sound

variable {deployment : Deployment LocalService}

theorem undergo (sound : Sound deployment) (occurrence : Occurrence) :
    Sound (deployment.undergo occurrence) := by
  have placed := sound.placed.undergo occurrence
  cases occurrence with
  | event event =>
      exact ⟨sound.delivery.after event, sound.numbered.after sound.delivery event, placed⟩
  | call caller timeout request =>
      obtain ⟨managers, dispatchers, journal⟩ := deployment.called_fields caller timeout request
      obtain ⟨asked, handled, same⟩ := deployment.exists_handled_called caller timeout request
      refine ⟨sound.delivery.extend (.of_eq managers) dispatchers journal, ?_, placed⟩
      apply sound.numbered.keep
      · rw [Deployment.undergo, introduced, journal, introduced]
      · rw [Deployment.undergo, same]
        exact handled.length_le

theorem traverse (sound : Sound deployment) (occurrences : List Occurrence) :
    Sound (deployment.traverse occurrences) :=
  traverse_keeps (fun _ occurrence sound => sound.undergo occurrence) sound occurrences

end Sound

/-- A deployment in which nothing has happened yet, around a new service. -/
theorem Fresh.sound {deployment : Deployment LocalService} (fresh : deployment.Fresh)
    {configuration : LocalConfiguration} (made : deployment.service = .new configuration) :
    Sound deployment where
  delivery := fresh.delivery
  numbered := numbered_follow fresh []
  placed := ⟨(fresh.ledger made).balanced, _, (fresh.history made).outcomes⟩

/-- After any run with clients every session accounts for some cycles. -/
theorem exists_accounted_traverse {deployment : Deployment LocalService}
    (fresh : deployment.Fresh) {configuration : LocalConfiguration}
    (made : deployment.service = .new configuration) (occurrences : List Occurrence)
    (owner : Nat) : ∃ cycles, Accounted (deployment.traverse occurrences) owner cycles := by
  have step : ∀ (between : Deployment LocalService) (occurrence : Occurrence),
      (Sound between ∧ ∃ cycles, Accounted between owner cycles) →
        Sound (between.undergo occurrence) ∧
          ∃ cycles, Accounted (between.undergo occurrence) owner cycles := by
    rintro between occurrence ⟨sound, cycles, accounted⟩
    exact ⟨sound.undergo occurrence, _, accounted.undergo sound.delivery occurrence⟩
  have start : Sound deployment ∧ ∃ cycles, Accounted deployment owner cycles :=
    ⟨fresh.sound made, [], accounted_follow fresh [] owner⟩
  exact (traverse_keeps step start occurrences).2

end Deployment
end ContentCapture
