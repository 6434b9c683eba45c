import ContentCapture.Proofs.Batches
import ContentCapture.Proofs.Register

namespace ContentCapture

/-!
# A local service is the sum of its requests

What a local service holds after some requests can be told from the requests alone.  The
batches and the removals are lists of requests of their kind.  The toggle is a register.  The
records are those of the sessions that were ever started, and each of them tells of the last
start of its session, of how the service stood towards the session at that moment, and of
whether the session was finished since.

Callers and session ids are arbitrary here.  A client may start a session that it does not own,
start it again while it is open, or finish one that was never started.
-/

/-- The removal that a request asks for, and the package of the client. -/
def Envelope.removal? (envelope : Envelope) : Option (String × RemovalRequest) :=
  match envelope.request with
  | .removeUserData removal => some (envelope.caller, removal)
  | _ => none

/-- Whether a request starts a session. -/
def Envelope.Starts (session : SessionId) (envelope : Envelope) : Prop :=
  ∃ start channel, envelope.request = .startSession start channel ∧ start.session = session

/-- The last start of a session among some requests, with the requests before it and those
after it. -/
structure LastStart (session : SessionId) (handled earlier : List Envelope) (caller : String)
    (start : SessionStart) (channel : ChannelId) (later : List Envelope) : Prop where
  split : handled = earlier ++ ⟨caller, .startSession start channel⟩ :: later
  own : start.session = session
  last : ∀ envelope ∈ later, ¬ envelope.Starts session

/-- Some start of a session is not followed by a finish of it. -/
def Unclosed (session : SessionId) (handled : List Envelope) : Prop :=
  ∃ earlier envelope later, handled = earlier ++ envelope :: later ∧ envelope.Starts session ∧
    ∀ other ∈ later, other.request ≠ .finishSession session

/-- The state in which a session is started, given what the service was asked before.  The
first reason not to capture the session is the one that is told. -/
inductive Appraised (configuration : LocalConfiguration) (earlier : List Envelope)
    (caller : String) (start : SessionStart) : SessionState → Prop
  | duplicate (unclosed : Unclosed start.session earlier) :
      Appraised configuration earlier caller start (SessionState.disabled.merge .duplicatedId)
  | byApp (closed : ¬ Unclosed start.session earlier)
      (unwanted : start.flags.isDisabledByApp = true) :
      Appraised configuration earlier caller start (SessionState.disabled.merge .byApp)
  | flagSecure (closed : ¬ Unclosed start.session earlier)
      (wanted : start.flags.isDisabledByApp = false)
      (secure : start.flags.isDisabledByFlagSecure = true) :
      Appraised configuration earlier caller start (SessionState.disabled.merge .flagSecure)
  | noService (closed : ¬ Unclosed start.session earlier)
      (enabling : start.flags.isDisabling = false)
      (barred : register configuration earlier = false ∨ caller ∈ configuration.disabledPackages) :
      Appraised configuration earlier caller start (SessionState.disabled.merge .noService)
  | active (closed : ¬ Unclosed start.session earlier)
      (enabling : start.flags.isDisabling = false) (on : register configuration earlier = true)
      (welcome : caller ∉ configuration.disabledPackages) :
      Appraised configuration earlier caller start .active

/-! ## Starts and finishes among requests -/

theorem Envelope.starts_iff (session : SessionId) (caller : String) (start : SessionStart)
    (channel : ChannelId) :
    Envelope.Starts session ⟨caller, .startSession start channel⟩ ↔ start.session = session := by
  constructor
  · rintro ⟨found, other, same, own⟩
    cases same
    exact own
  · intro own
    exact ⟨start, channel, rfl, own⟩

theorem LastStart.concat {session : SessionId} {handled earlier later : List Envelope}
    {caller : String} {start : SessionStart} {channel : ChannelId}
    (lastStart : LastStart session handled earlier caller start channel later)
    {envelope : Envelope} (other : ¬ envelope.Starts session) :
    LastStart session (handled ++ [envelope]) earlier caller start channel
      (later ++ [envelope]) where
  split := by rw [lastStart.split, List.append_assoc, List.cons_append]
  own := lastStart.own
  last := by
    intro found member
    rcases List.mem_append.mp member with member | member
    · exact lastStart.last found member
    · rw [List.mem_singleton.mp member]
      exact other

theorem not_unclosed_nil (session : SessionId) : ¬ Unclosed session [] := by
  rintro ⟨earlier, envelope, later, split, -, -⟩
  cases earlier <;> cases split

/-- A start opens a session, and a finish closes it. -/
theorem unclosed_concat_iff (session : SessionId) (handled : List Envelope)
    (envelope : Envelope) :
    Unclosed session (handled ++ [envelope]) ↔
      envelope.Starts session ∨
        envelope.request ≠ .finishSession session ∧ Unclosed session handled := by
  constructor
  · rintro ⟨earlier, starting, later, split, starts, unfinished⟩
    rcases concat_eq_append_cons_iff.mp split with ⟨-, rfl, -⟩ | ⟨between, before, rfl⟩
    · exact .inl starts
    · refine .inr ⟨unfinished envelope (by simp), earlier, starting, between, before, starts, ?_⟩
      exact fun other member => unfinished other (by simp [member])
  · rintro (starts | ⟨ongoing, earlier, starting, later, rfl, starts, unfinished⟩)
    · exact ⟨handled, envelope, [], rfl, starts, by simp⟩
    · refine ⟨earlier, starting, later ++ [envelope], by simp, starts, fun other member => ?_⟩
      rcases List.mem_append.mp member with member | member
      · exact unfinished other member
      · rw [List.mem_singleton.mp member]
        exact ongoing

/-! ## The order of the records -/

namespace SessionRecord

/-- Whether the first record comes before the second one. -/
def Ahead (first second : SessionRecord) : Prop :=
  first.start.session.value < second.start.session.value

theorem pairwise_insert (record : SessionRecord) {records : List SessionRecord}
    (ascending : records.Pairwise Ahead) : (insert record records).Pairwise Ahead := by
  induction records with
  | nil => exact List.pairwise_singleton _ record
  | cons other rest inductionHypothesis =>
      rw [List.pairwise_cons] at ascending
      rcases ascending with ⟨first, ascending⟩
      unfold insert
      split
      · next less =>
          refine List.pairwise_cons.mpr ⟨fun found member => ?_, List.pairwise_cons.mpr
            ⟨first, ascending⟩⟩
          rcases List.mem_cons.mp member with rfl | member
          · exact less
          · exact UInt64.lt_trans less (first found member)
      · next notLess =>
          split
          · next same =>
              refine List.pairwise_cons.mpr ⟨fun found member => ?_, ascending⟩
              have beyond := first found member
              rwa [Ahead, ← same] at beyond
          · next different =>
              have greater : Ahead other record := by
                have distinct : record.start.session.value ≠ other.start.session.value :=
                  fun same => different (congrArg SessionId.mk same)
                exact UInt64.lt_of_le_of_ne (UInt64.not_lt.mp notLess) distinct.symm
              refine List.pairwise_cons.mpr ⟨fun found member => ?_, inductionHypothesis ascending⟩
              rcases mem_insert member with rfl | member
              · exact greater
              · exact first found member

theorem pairwise_finish (session : SessionId) {records : List SessionRecord}
    (ascending : records.Pairwise Ahead) : (finish session records).Pairwise Ahead := by
  have kept : ∀ record : SessionRecord, (if record.start.session = session then
      { record with finished := true } else record).start = record.start := by
    intro record
    split <;> rfl
  rw [finish, List.pairwise_map]
  refine ascending.imp ?_
  intro first second ahead
  rwa [Ahead, kept, kept]

/-- Among records in ascending order each is the one of its session. -/
theorem find?_of_mem {records : List SessionRecord} (ascending : records.Pairwise Ahead)
    {record : SessionRecord} (member : record ∈ records) :
    find? record.start.session records = some record := by
  induction records with
  | nil => cases member
  | cons other rest inductionHypothesis =>
      rw [List.pairwise_cons] at ascending
      rcases List.mem_cons.mp member with rfl | inside
      · simp [find?]
      · have different : other.start.session ≠ record.start.session := by
          intro same
          have ahead : Ahead other record := ascending.1 record inside
          rw [Ahead, same] at ahead
          exact UInt64.lt_irrefl _ ahead
        have found := inductionHypothesis ascending.2 inside
        rw [find?] at found ⊢
        rw [List.find?_cons_of_neg (by simpa using different), found]

end SessionRecord

namespace LocalService

/-! ## The lists and the order of the records -/

theorem removals_past (configuration : LocalConfiguration) (handled : List Envelope) :
    (past configuration handled).removals = handled.filterMap Envelope.removal? := by
  induction handled using List.reverseRecOn with
  | nil => rfl
  | append_singleton handled envelope inductionHypothesis =>
      rw [past_concat, workOff_eq, List.filterMap_append, ← inductionHypothesis]
      change ((past configuration handled).handle envelope).1.removals = _
      rcases envelope with ⟨caller, request⟩
      cases request with
      | setFeatureEnabled enabled channel =>
          cases howner : (past configuration handled).isOwner caller <;>
            simp [handle, howner, Envelope.removal?]
      | removeUserData removal => rfl
      | _ => exact (List.append_nil _).symm

/-- What a request makes of all records. -/
theorem sessions_past_concat (configuration : LocalConfiguration) (handled : List Envelope)
    (envelope : Envelope) :
    (past configuration (handled ++ [envelope])).sessions =
      match envelope.request with
      | .startSession start _ =>
          SessionRecord.insert ⟨envelope.caller, start,
            (past configuration handled).stateOf envelope.caller start, false⟩
            (past configuration handled).sessions
      | .finishSession session =>
          SessionRecord.finish session (past configuration handled).sessions
      | _ => (past configuration handled).sessions := by
  rw [past_concat, workOff_eq]
  rcases envelope with ⟨caller, request⟩
  cases request with
  | setFeatureEnabled enabled channel =>
      cases howner : (past configuration handled).isOwner caller <;> simp [handle, howner]
  | _ => rfl

theorem ascending_past (configuration : LocalConfiguration) (handled : List Envelope) :
    (past configuration handled).sessions.Pairwise SessionRecord.Ahead := by
  induction handled using List.reverseRecOn with
  | nil => exact .nil
  | append_singleton handled envelope inductionHypothesis =>
      rw [sessions_past_concat]
      split
      · exact SessionRecord.pairwise_insert _ inductionHypothesis
      · exact SessionRecord.pairwise_finish _ inductionHypothesis
      · exact inductionHypothesis

theorem mem_sessions_past_iff (configuration : LocalConfiguration) (handled : List Envelope)
    (record : SessionRecord) :
    record ∈ (past configuration handled).sessions ↔
      (past configuration handled).session? record.start.session = some record :=
  ⟨SessionRecord.find?_of_mem (ascending_past configuration handled), List.mem_of_find?_eq_some⟩

/-! ## What a record tells -/

/-- A record is unfinished exactly if some start of its session is not followed by a finish. -/
theorem unclosed_iff (configuration : LocalConfiguration) (session : SessionId)
    (handled : List Envelope) :
    Unclosed session handled ↔
      ((past configuration handled).session? session).any (fun record => !record.finished) =
        true := by
  induction handled using List.reverseRecOn with
  | nil => exact ⟨fun unclosed => absurd unclosed (not_unclosed_nil session), fun h => nomatch h⟩
  | append_singleton handled envelope inductionHypothesis =>
      rw [unclosed_concat_iff, inductionHypothesis, session?_past_concat]
      rcases envelope with ⟨caller, request⟩
      cases request with
      | startSession start channel =>
          rw [Envelope.starts_iff]
          by_cases own : start.session = session <;> simp [own]
      | finishSession other =>
          by_cases own : other = session
          · simp [own, Envelope.Starts, Option.any_map]
          · simp [own, Envelope.Starts]
      | _ => simp [Envelope.Starts]

theorem appraised_stateOf (configuration : LocalConfiguration) (earlier : List Envelope)
    (caller : String) (start : SessionStart) :
    Appraised configuration earlier caller start
      ((past configuration earlier).stateOf caller start) := by
  have known := unclosed_iff configuration start.session earlier
  rw [session?] at known
  unfold stateOf
  split
  · next unfinished => exact .duplicate (known.mpr unfinished)
  · next finished =>
      have closed : ¬ Unclosed start.session earlier := fun unclosed =>
        finished (known.mp unclosed)
      split
      · next unwanted => exact .byApp closed unwanted
      · next wanted =>
          rw [Bool.not_eq_true] at wanted
          split
          · next secure => exact .flagSecure closed wanted secure
          · next insecure =>
              rw [Bool.not_eq_true] at insecure
              have enabling : start.flags.isDisabling = false := by
                rw [CaptureFlags.isDisabling, wanted, insecure]
                rfl
              rw [featureEnabled_past, configuration_past]
              split
              · next barred => exact .noService closed enabling (by simpa using barred)
              · next captured =>
                  rw [Bool.or_eq_true, not_or] at captured
                  exact .active closed enabling (by simpa using captured.1)
                    (by simpa using captured.2)

/-- A record tells of the last start of its session and of what came after that. -/
structure Recalled (configuration : LocalConfiguration) (handled : List Envelope)
    (record : SessionRecord) (earlier : List Envelope) (channel : ChannelId)
    (later : List Envelope) : Prop where
  lastStart : LastStart record.start.session handled earlier record.caller record.start channel
    later
  finished : record.finished = true ↔
    ∃ envelope ∈ later, envelope.request = .finishSession record.start.session
  state : Appraised configuration earlier record.caller record.start record.state

namespace Recalled

variable {configuration : LocalConfiguration} {handled earlier later : List Envelope}
  {record : SessionRecord} {channel : ChannelId} {envelope : Envelope}

/-- A request that is no business of the session. -/
theorem concat (recalled : Recalled configuration handled record earlier channel later)
    (other : ¬ envelope.Starts record.start.session)
    (ongoing : envelope.request ≠ .finishSession record.start.session) :
    Recalled configuration (handled ++ [envelope]) record earlier channel
      (later ++ [envelope]) where
  lastStart := recalled.lastStart.concat other
  finished := by
    rw [recalled.finished]
    simp [ongoing]
  state := recalled.state

/-- The end of the session. -/
theorem finish (recalled : Recalled configuration handled record earlier channel later)
    (ends : envelope.request = .finishSession record.start.session) :
    Recalled configuration (handled ++ [envelope]) { record with finished := true } earlier
      channel (later ++ [envelope]) where
  lastStart := recalled.lastStart.concat (by rintro ⟨start, channel, same, -⟩; simp [same] at ends)
  finished := ⟨fun _ => ⟨envelope, by simp, ends⟩, fun _ => rfl⟩
  state := recalled.state

end Recalled

/-- What the service holds of a session: nothing if it was never started, and otherwise a record
that tells of the last start. -/
def Recollects (configuration : LocalConfiguration) (handled : List Envelope)
    (session : SessionId) : Option SessionRecord → Prop
  | none => ∀ envelope ∈ handled, ¬ envelope.Starts session
  | some record => record.start.session = session ∧
      ∃ earlier channel later, Recalled configuration handled record earlier channel later

namespace Recollects

variable {configuration : LocalConfiguration} {handled : List Envelope} {session : SessionId}
  {record : Option SessionRecord} {envelope : Envelope}

theorem not_starts_concat (absent : ∀ found ∈ handled, ¬ Envelope.Starts session found)
    (other : ¬ envelope.Starts session) :
    ∀ found ∈ handled ++ [envelope], ¬ found.Starts session := by
  intro found member
  rcases List.mem_append.mp member with member | member
  · exact absent found member
  · rw [List.mem_singleton.mp member]
    exact other

theorem aside (recollects : Recollects configuration handled session record)
    (other : ¬ envelope.Starts session) (ongoing : envelope.request ≠ .finishSession session) :
    Recollects configuration (handled ++ [envelope]) session record := by
  cases record with
  | none => exact not_starts_concat recollects other
  | some record =>
      rcases recollects with ⟨rfl, earlier, channel, later, recalled⟩
      exact ⟨rfl, earlier, channel, _, recalled.concat other ongoing⟩

theorem finish (recollects : Recollects configuration handled session record)
    (ends : envelope.request = .finishSession session) :
    Recollects configuration (handled ++ [envelope]) session
      (record.map fun record => { record with finished := true }) := by
  cases record with
  | none => exact not_starts_concat recollects fun ⟨_, _, same, _⟩ => by simp [same] at ends
  | some record =>
      rcases recollects with ⟨rfl, earlier, channel, later, recalled⟩
      exact ⟨rfl, earlier, channel, _, recalled.finish ends⟩

end Recollects

theorem recollects_past (configuration : LocalConfiguration) (handled : List Envelope)
    (session : SessionId) :
    Recollects configuration handled session ((past configuration handled).session? session) := by
  induction handled using List.reverseRecOn with
  | nil => exact fun _ member => nomatch member
  | append_singleton handled envelope inductionHypothesis =>
      rw [session?_past_concat]
      rcases envelope with ⟨caller, request⟩
      cases request with
      | startSession start channel =>
          by_cases own : start.session = session
          · -- The session is started anew, so that nothing that came before matters.
            simp only [own, if_true]
            refine ⟨own, handled, channel, [], ⟨rfl, rfl, by simp⟩, by simp, ?_⟩
            exact appraised_stateOf configuration handled caller start
          · simp only [own, if_false]
            exact inductionHypothesis.aside (by rwa [Envelope.starts_iff]) (by simp)
      | finishSession other =>
          by_cases own : other = session
          · simp only [own, if_true]
            exact inductionHypothesis.finish rfl
          · simp only [own, if_false, Option.map_id']
            exact inductionHypothesis.aside (by simp [Envelope.Starts]) (by simpa using own)
      | _ => exact inductionHypothesis.aside (by simp [Envelope.Starts]) (by simp)

/-- Exactly the sessions that were ever started have a record. -/
theorem exists_record_iff (configuration : LocalConfiguration) (handled : List Envelope)
    (session : SessionId) :
    (∃ record ∈ (past configuration handled).sessions, record.start.session = session) ↔
      ∃ envelope ∈ handled, envelope.Starts session := by
  have recollects := recollects_past configuration handled session
  cases found : (past configuration handled).session? session with
  | none =>
      rw [found] at recollects
      have unrecorded : ¬ ∃ record ∈ (past configuration handled).sessions,
          record.start.session = session := by
        rintro ⟨record, member, rfl⟩
        rw [mem_sessions_past_iff, found] at member
        cases member
      exact iff_of_false unrecorded fun ⟨envelope, member, starts⟩ =>
        recollects envelope member starts
  | some record =>
      rw [found] at recollects
      rcases recollects with ⟨rfl, earlier, channel, later, recalled⟩
      refine iff_of_true ⟨record, (mem_sessions_past_iff _ _ _).mpr found, rfl⟩ ?_
      refine ⟨⟨record.caller, .startSession record.start channel⟩, ?_, _, channel, rfl, rfl⟩
      rw [recalled.lastStart.split]
      simp

/-! ## What is answered -/

/-- A responsive service answers a start with the state of the record that it makes. -/
theorem decisions_concat_startSession {configuration : LocalConfiguration}
    (responsive : configuration.unresponsive = false) (earlier : List Envelope) (caller : String)
    (start : SessionStart) (channel : ChannelId) :
    decisions configuration (earlier ++ [⟨caller, .startSession start channel⟩]) =
      decisions configuration earlier ++
        [(channel, .ofCode ((past configuration earlier).stateOf caller start).bits.toInt32)] := by
  rw [decisions_concat, workOff_eq, decides, configuration_past, responsive]
  rfl

theorem decisions_of_unresponsive {configuration : LocalConfiguration}
    (unresponsive : configuration.unresponsive = true) (handled : List Envelope) :
    decisions configuration handled = [] := by
  induction handled using List.reverseRecOn with
  | nil => rfl
  | append_singleton handled envelope inductionHypothesis =>
      rw [decisions_concat, workOff_eq, decides, configuration_past, unresponsive,
        inductionHypothesis]
      rfl

/-- A service that has worked off some requests, from whomever and about whatever sessions,
holds what the requests amount to.  The batches and the removals are those that it was sent, in
order.  The records are in ascending order of their sessions, there is one for each session
that was ever started, and it tells of the last start: who made it and how, whether the session
was finished since, and in which state it was started, as the requests before that start tell.
If the service is responsive, that state is also the answer to the start, and otherwise there
are no answers. -/
theorem summary_of_past (configuration : LocalConfiguration) (handled : List Envelope) :
    let service := past configuration handled
    (service.batches = handled.filterMap (fun envelope => envelope.request.batch?) ∧
      service.removals = handled.filterMap Envelope.removal? ∧
      service.featureEnabled = register configuration handled) ∧
    (service.sessions.Pairwise SessionRecord.Ahead ∧
      (∀ session, (∃ record ∈ service.sessions, record.start.session = session) ↔
        ∃ envelope ∈ handled, envelope.Starts session) ∧
      ∀ record ∈ service.sessions, ∃ earlier channel later,
        LastStart record.start.session handled earlier record.caller record.start channel later ∧
        (record.finished = true ↔
          ∃ envelope ∈ later, envelope.request = .finishSession record.start.session) ∧
        Appraised configuration earlier record.caller record.start record.state) ∧
    (configuration.unresponsive = false → ∀ earlier caller start channel,
      earlier ++ [⟨caller, .startSession start channel⟩] <+: handled →
        ∃ state, Appraised configuration earlier caller start state ∧
          (past configuration (earlier ++ [⟨caller, .startSession start channel⟩])).session?
            start.session = some ⟨caller, start, state, false⟩ ∧
          decisions configuration earlier ++ [(channel, .ofCode state.bits.toInt32)] <+:
            decisions configuration handled) ∧
    (configuration.unresponsive = true → decisions configuration handled = []) := by
  intro service
  refine ⟨?lists, ?records, ?answers, fun unresponsive => decisions_of_unresponsive unresponsive _⟩
  case lists =>
    exact ⟨Deployment.batches_past configuration handled, removals_past configuration handled,
      featureEnabled_past configuration handled⟩
  case records =>
    refine ⟨ascending_past configuration handled, exists_record_iff configuration handled,
      fun record member => ?_⟩
    have recollects := recollects_past configuration handled record.start.session
    rw [(mem_sessions_past_iff configuration handled record).mp member] at recollects
    rcases recollects with ⟨-, earlier, channel, later, recalled⟩
    exact ⟨earlier, channel, later, recalled.lastStart, recalled.finished, recalled.state⟩
  case answers =>
    intro responsive earlier caller start channel within
    refine ⟨_, appraised_stateOf configuration earlier caller start, ?_, ?_⟩
    · rw [session?_past_concat]
      simp
    · rw [← decisions_concat_startSession responsive]
      exact decisions_mono within

/-- Two clients that use one session id, and the owner of the service turning the feature off
between them.  The second start comes too early, and the fourth one after the toggle. -/
def sharedId : List Envelope :=
  [⟨"p", .finishSession ⟨7⟩⟩,
    ⟨"p", .startSession ⟨⟨7⟩, ⟨"a"⟩, ⟨"p", "A"⟩, .empty⟩ 0⟩,
    ⟨"q", .startSession ⟨⟨7⟩, ⟨"b"⟩, ⟨"q", "B"⟩, .disabledByApp⟩ 1⟩,
    ⟨"q", .startSession ⟨⟨3⟩, ⟨"c"⟩, ⟨"q", "C"⟩, .disabledByFlagSecure⟩ 2⟩,
    ⟨"com.example.capture", .setFeatureEnabled false 3⟩,
    ⟨"p", .finishSession ⟨3⟩⟩,
    ⟨"q", .finishSession ⟨7⟩⟩,
    ⟨"p", .startSession ⟨⟨3⟩, ⟨"d"⟩, ⟨"p", "D"⟩, .empty⟩ 4⟩]

theorem summary_of_past_sharedId :
    (past {} sharedId).sessions =
        [⟨"p", ⟨⟨3⟩, ⟨"d"⟩, ⟨"p", "D"⟩, .empty⟩, ⟨0x14⟩, false⟩,
          ⟨"q", ⟨⟨7⟩, ⟨"b"⟩, ⟨"q", "B"⟩, .disabledByApp⟩, ⟨0xC⟩, true⟩] ∧
      (∃ record ∈ (past {} sharedId).sessions, record.start.session = ⟨7⟩ ∧
        ∃ earlier, Appraised {} earlier record.caller record.start record.state) ∧
      (∃ state, Appraised {} (sharedId.take 2) "q"
          ⟨⟨7⟩, ⟨"b"⟩, ⟨"q", "B"⟩, .disabledByApp⟩ state ∧
        decisions {} (sharedId.take 2) ++ [(1, .ofCode state.bits.toInt32)] <+:
          decisions {} sharedId) ∧
      decisions { unresponsive := true } sharedId = [] := by
  obtain ⟨-, ⟨-, started, recorded⟩, answered, -⟩ := summary_of_past {} sharedId
  refine ⟨by decide +kernel, ?_, ?_, (summary_of_past { unresponsive := true } sharedId).2.2.2 rfl⟩
  · have known := (started ⟨7⟩).mpr ⟨⟨"p", .startSession ⟨⟨7⟩, ⟨"a"⟩, ⟨"p", "A"⟩, .empty⟩ 0⟩,
      by simp [sharedId], _, 0, rfl, rfl⟩
    rcases known with ⟨record, member, own⟩
    rcases recorded record member with ⟨earlier, channel, later, -, -, appraised⟩
    exact ⟨record, member, own, earlier, appraised⟩
  · have within : sharedId.take 2 ++
        [⟨"q", .startSession ⟨⟨7⟩, ⟨"b"⟩, ⟨"q", "B"⟩, .disabledByApp⟩ 1⟩] <+: sharedId := by
      decide +kernel
    rcases answered rfl _ _ _ _ within with ⟨state, appraised, -, told⟩
    exact ⟨state, appraised, told⟩

end LocalService
end ContentCapture
