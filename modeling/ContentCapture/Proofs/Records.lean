import ContentCapture.Proofs.Sinks
import ContentCapture.Proofs.Accounts
import ContentCapture.Proofs.Identity
import ContentCapture.Proofs.Numbering
import Mathlib.Data.List.Basic

namespace ContentCapture

/-!
# What a local service remembers of a session

The record of a session depends on the requests for that session: it is made by the
last start, and is finished if the session was finished since.  Sessions that speak
their language start only when their record is finished or not there, so that the
service never takes them for duplicates.
-/

namespace SessionRecord

theorem find?_insert (record : SessionRecord) (records : List SessionRecord)
    (session : SessionId) :
    find? session (insert record records) =
      if record.start.session = session then some record else find? session records := by
  induction records with
  | nil => simp [insert, find?]
  | cons other rest inductionHypothesis =>
      unfold insert
      by_cases less : record.start.session.value < other.start.session.value
      · rw [if_pos less]
        by_cases same : record.start.session = session <;> simp [find?, same]
      · rw [if_neg less]
        by_cases replaced : record.start.session = other.start.session
        · rw [if_pos replaced]
          by_cases same : record.start.session = session
          · simp [find?, same]
          · simp [find?, same, ← replaced]
        · rw [if_neg replaced]
          by_cases same : record.start.session = session
          · subst same
            simp only [find?, List.find?_cons, beq_eq_false_iff_ne.mpr (Ne.symm replaced)]
            simpa [find?] using inductionHypothesis
          · rw [if_neg same] at inductionHypothesis ⊢
            simp only [find?, List.find?_cons] at inductionHypothesis ⊢
            rw [inductionHypothesis]

theorem find?_finish (session other : SessionId) (records : List SessionRecord) :
    find? other (finish session records) =
      (find? other records).map fun record =>
        if session = other then { record with finished := true } else record := by
  induction records with
  | nil => rfl
  | cons record rest inductionHypothesis =>
      simp only [find?, finish] at inductionHypothesis
      have kept : (if record.start.session = session then { record with finished := true }
          else record).start = record.start := by split <;> rfl
      simp only [find?, finish, List.map_cons, List.find?_cons, kept]
      cases hother : record.start.session == other with
      | false => exact inductionHypothesis
      | true =>
          rw [beq_iff_eq] at hother
          simp [hother, eq_comm]

theorem mem_insert {record other : SessionRecord} {records : List SessionRecord}
    (member : other ∈ insert record records) : other = record ∨ other ∈ records := by
  induction records with
  | nil => exact .inl (List.mem_singleton.mp member)
  | cons head rest inductionHypothesis =>
      unfold insert at member
      split at member
      · exact List.mem_cons.mp member
      · split at member
        · rcases List.mem_cons.mp member with same | member
          · exact .inl same
          · exact .inr (List.mem_cons_of_mem head member)
        · rcases List.mem_cons.mp member with same | member
          · exact .inr (same ▸ List.mem_cons_self)
          · rcases inductionHypothesis member with same | member
            · exact .inl same
            · exact .inr (List.mem_cons_of_mem head member)

end SessionRecord

/-- Whether the last start in some requests is not followed by a finish. -/
def isOpen (requests : List Request) : Bool :=
  requests.foldl
    (fun isOpen request =>
      match request with
      | .startSession _ _ => true
      | .finishSession _ => false
      | _ => isOpen)
    false

theorem isOpen_concat (requests : List Request) (request : Request) :
    isOpen (requests ++ [request]) =
      match request with
      | .startSession _ _ => true
      | .finishSession _ => false
      | _ => isOpen requests := by
  rw [isOpen, List.foldl_append]
  rfl

namespace Word

variable {session : SessionId} {starts : List SessionStart} {requests : List Request}

/-- At the end of a word no cycle is open. -/
theorem isOpen_eq_false (word : Word session starts requests) : isOpen requests = false := by
  cases word with
  | nil => rfl
  | cycle before own enabling channel hbody =>
      rw [← List.cons_append, ← List.append_assoc, isOpen_concat]

/-- A start in a word comes when no cycle is open, and does not turn the session
off. -/
theorem start_of_prefix (word : Word session starts requests) {earlier : List Request}
    {start : SessionStart} {channel : ChannelId}
    (h : earlier ++ [.startSession start channel] <+: requests) :
    isOpen earlier = false ∧ start.flags.isDisabling = false := by
  induction word with
  | nil => simp at h
  | @cycle starts requests body finished opening before own enabling former hbody
      inductionHypothesis =>
      rcases List.prefix_or_prefix_of_prefix h (List.prefix_append requests _) with within | beyond
      · exact inductionHypothesis within
      · rcases beyond with ⟨rest, hrest⟩
        rcases List.eq_nil_or_concat rest with rfl | ⟨front, last, rfl⟩
        · rw [List.append_nil] at hrest
          exact inductionHypothesis ⟨[], by rw [← hrest, List.append_nil]⟩
        · rw [List.concat_eq_append, ← List.append_assoc] at hrest
          rcases List.append_inj' hrest rfl with ⟨hearlier, hlast⟩
          subst hearlier
          rw [List.append_assoc, List.prefix_append_right_inj] at h
          cases front with
          | nil =>
              have same := (List.cons_prefix_cons.mp h).1
              cases same
              rw [List.append_nil]
              exact ⟨before.isOpen_eq_false, enabling⟩
          | cons head front =>
              have inside := (List.cons_prefix_cons.mp h).2
              have member : Request.startSession start channel ∈ body ++ [.finishSession session] :=
                inside.subset (by simp)
              have silent := List.filterMap_eq_nil_iff.mp hbody.filterMap_start?
              rcases List.mem_append.mp member with member | member
              · exact absurd (silent _ member) (by simp [Request.start?])
              · exact absurd (List.mem_singleton.mp member) (by simp)

end Word

/-- The requests for a session, among some. -/
def heard (session : SessionId) (envelopes : List Envelope) : List Envelope :=
  envelopes.filter fun envelope => envelope.request.session? = some session

theorem heard_concat (session : SessionId) (envelopes : List Envelope) (envelope : Envelope) :
    heard session (envelopes ++ [envelope]) =
      heard session envelopes ++
        if envelope.request.session? = some session then [envelope] else [] := by
  by_cases named : envelope.request.session? = some session <;> simp [heard, named]

theorem heard_prefix (session : SessionId) {first second : List Envelope} (h : first <+: second) :
    heard session first <+: heard session second :=
  h.filter _

/-- Who starts a session with a request, how, and where the answer is to go. -/
def Envelope.opening? : Envelope → Option (String × SessionStart × ChannelId)
  | ⟨caller, .startSession start channel⟩ => some (caller, start, channel)
  | _ => none

def openings (envelopes : List Envelope) : List (String × SessionStart × ChannelId) :=
  envelopes.filterMap Envelope.opening?

theorem openings_concat (envelopes : List Envelope) (envelope : Envelope) :
    openings (envelopes ++ [envelope]) = openings envelopes ++ envelope.opening?.toList := by
  rw [openings, List.filterMap_append]
  cases hopening : envelope.opening? <;> simp [openings, hopening]

namespace LocalService

/-- What a request makes of the record of a session. -/
theorem session?_past_concat (configuration : LocalConfiguration) (handled : List Envelope)
    (envelope : Envelope) (session : SessionId) :
    (past configuration (handled ++ [envelope])).session? session =
      match envelope.request with
      | .startSession start _ =>
          if start.session = session then
            some ⟨envelope.caller, start,
              (past configuration handled).stateOf envelope.caller start, false⟩
          else (past configuration handled).session? session
      | .finishSession other =>
          ((past configuration handled).session? session).map fun record =>
            if other = session then { record with finished := true } else record
      | _ => (past configuration handled).session? session := by
  rw [past_concat, workOff_eq]
  rcases envelope with ⟨caller, request⟩
  cases request with
  | startSession start channel => exact SessionRecord.find?_insert _ _ _
  | finishSession other => exact SessionRecord.find?_finish _ _ _
  | setFeatureEnabled enabled channel =>
      cases howner : (past configuration handled).isOwner caller <;>
        simp [session?, handle, howner]
  | _ => rfl

/-- A service remembers a session by the last of its starts, together with the state
that it was in then. -/
inductive Remembers (configuration : LocalConfiguration) (handled : List Envelope) :
    List (String × SessionStart × ChannelId) → Option SessionRecord → Prop
  | never : Remembers configuration handled [] none
  | last {starts : List (String × SessionStart × ChannelId)} {record : SessionRecord}
      {channel : ChannelId} {earlier : List Envelope}
      (asked : earlier ++ [⟨record.caller, .startSession record.start channel⟩] <+: handled)
      (state : record.state = (past configuration earlier).stateOf record.caller record.start) :
      Remembers configuration handled (starts ++ [(record.caller, record.start, channel)])
        (some record)

namespace Remembers

variable {configuration : LocalConfiguration} {handled later : List Envelope}
  {starts : List (String × SessionStart × ChannelId)} {record : Option SessionRecord}

theorem mono (remembers : Remembers configuration handled starts record)
    (h : handled <+: later) : Remembers configuration later starts record := by
  cases remembers with
  | never => exact .never
  | last asked state => exact .last (asked.trans h) state

/-- What is finished is remembered by the same start. -/
theorem finished (remembers : Remembers configuration handled starts record) :
    Remembers configuration handled starts
      (record.map fun record => { record with finished := true }) := by
  cases remembers with
  | never => exact .never
  | @last starts former channel earlier asked state =>
      let marked : SessionRecord := { former with finished := true }
      exact @last _ _ starts marked channel earlier asked state

theorem map_eq_getLast? (remembers : Remembers configuration handled starts record) :
    (record.map fun record => (record.caller, record.start)) =
      starts.getLast?.map fun (caller, start, _) => (caller, start) := by
  cases remembers with
  | never => rfl
  | last asked state => simp

theorem exists_of_getLast? (remembers : Remembers configuration handled starts record)
    {caller : String} {start : SessionStart} {channel : ChannelId}
    (h : starts.getLast? = some (caller, start, channel)) :
    ∃ found earlier, record = some found ∧
      earlier ++ [⟨caller, .startSession start channel⟩] <+: handled ∧
        found.state = (past configuration earlier).stateOf caller start := by
  cases remembers with
  | never => cases h
  | @last _ found _ earlier asked state =>
      rw [List.getLast?_concat] at h
      cases h
      exact ⟨found, earlier, rfl, asked, state⟩

end Remembers

theorem remembers_past (configuration : LocalConfiguration) (handled : List Envelope)
    (session : SessionId) :
    Remembers configuration handled (openings (heard session handled))
      ((past configuration handled).session? session) := by
  induction handled using List.reverseRecOn with
  | nil => exact .never
  | append_singleton handled envelope inductionHypothesis =>
      have before := inductionHypothesis.mono (List.prefix_append handled [envelope])
      rw [session?_past_concat, heard_concat]
      rcases envelope with ⟨caller, request⟩
      cases request with
      | startSession start channel =>
          by_cases same : start.session = session
          · rw [if_pos (by simp [same, Request.session?]), openings_concat]
            simp only [same, if_true]
            let record : SessionRecord :=
              ⟨caller, start, (past configuration handled).stateOf caller start, false⟩
            exact @Remembers.last _ _ _ record channel handled (List.prefix_refl _) rfl
          · simpa [same, Request.session?] using before
      | finishSession other =>
          by_cases same : other = session
          · rw [if_pos (by simp [same, Request.session?]), openings_concat]
            simpa [same, Envelope.opening?] using before.finished
          · simpa [same, Request.session?] using before
      | sendEvents other events reason =>
          by_cases same : other = session
          · rw [if_pos (by simp [same, Request.session?]), openings_concat]
            simpa [Envelope.opening?] using before
          · simpa [same, Request.session?] using before
      | _ => simpa [Request.session?] using before

/-- The record of a session is unfinished exactly if a cycle of it is open. -/
theorem any_session?_past (configuration : LocalConfiguration) (handled : List Envelope)
    (session : SessionId) :
    (((past configuration handled).session? session).any fun record => !record.finished) =
      isOpen ((heard session handled).map Envelope.request) := by
  induction handled using List.reverseRecOn with
  | nil => rfl
  | append_singleton handled envelope inductionHypothesis =>
      rw [session?_past_concat, heard_concat]
      rcases envelope with ⟨caller, request⟩
      cases request with
      | startSession start channel =>
          by_cases same : start.session = session
          · simp [same, Request.session?, isOpen_concat]
          · simpa [same, Request.session?] using inductionHypothesis
      | finishSession other =>
          by_cases same : other = session
          · simp [same, Request.session?, isOpen_concat, Option.any_map]
          · simpa [same, Request.session?] using inductionHypothesis
      | sendEvents other events reason =>
          by_cases same : other = session
          · simpa [same, Request.session?, isOpen_concat] using inductionHypothesis
          · simpa [same, Request.session?] using inductionHypothesis
      | _ => simpa [Request.session?] using inductionHypothesis

/-- Every start among the requests for a session comes when no cycle of it is open,
and does not turn it off. -/
def Orderly (handled : List Envelope) : Prop :=
  ∀ earlier caller start channel,
    earlier ++ [⟨caller, .startSession start channel⟩] <+: handled →
      isOpen ((heard start.session earlier).map Envelope.request) = false ∧
        start.flags.isDisabling = false

/-- A state that says nothing about the session itself. -/
def isPlain (state : SessionState) : Prop :=
  state = .active ∨ state = SessionState.disabled.merge .noService

/-- A start that comes in order is not taken for a duplicate. -/
theorem isPlain_stateOf {configuration : LocalConfiguration} {handled : List Envelope}
    (orderly : Orderly handled) {earlier : List Envelope} {caller : String} {start : SessionStart}
    {channel : ChannelId}
    (h : earlier ++ [⟨caller, .startSession start channel⟩] <+: handled) :
    isPlain ((past configuration earlier).stateOf caller start) := by
  rcases orderly earlier caller start channel h with ⟨closed, enabling⟩
  rw [← any_session?_past configuration] at closed
  rw [CaptureFlags.isDisabling, Bool.or_eq_false_iff] at enabling
  unfold stateOf
  rw [session?] at closed
  rw [closed, enabling.1, enabling.2]
  simp only [Bool.false_eq_true, if_false]
  split
  · exact .inr rfl
  · exact .inl rfl

theorem isPlain_of_mem_sessions {configuration : LocalConfiguration} {handled : List Envelope}
    (orderly : Orderly handled) {record : SessionRecord}
    (member : record ∈ (past configuration handled).sessions) : isPlain record.state := by
  induction handled using List.reverseRecOn generalizing record with
  | nil => cases member
  | append_singleton handled envelope inductionHypothesis =>
      have before : Orderly handled := fun earlier caller start channel h =>
        orderly earlier caller start channel (h.trans (List.prefix_append _ _))
      rw [past_concat, workOff_eq] at member
      rcases envelope with ⟨caller, request⟩
      cases request with
      | startSession start channel =>
          rcases SessionRecord.mem_insert member with rfl | member
          · exact isPlain_stateOf orderly (List.prefix_refl _)
          · exact inductionHypothesis before member
      | finishSession session =>
          rcases List.mem_map.mp member with ⟨former, hformer, rfl⟩
          have kept : (if former.start.session = session then { former with finished := true }
              else former).state = former.state := by split <;> rfl
          rw [kept]
          exact inductionHypothesis before hformer
      | setFeatureEnabled enabled channel =>
          apply inductionHypothesis before
          cases howner : (past configuration handled).isOwner caller <;>
            simpa [handle, howner] using member
      | _ => exact inductionHypothesis before member

end LocalService

namespace Deployment

variable {σ : Type}

/-- What the service was asked for a session is what it was asked on behalf of its
manager. -/
theorem heard_asked {deployment : Deployment σ} (delivery : Delivery [] deployment)
    (distinct : deployment.DistinctIds) {owner : Nat} {manager : Manager} {session : Session}
    (hmanager : deployment.managers[owner]? = some manager)
    (hsession : manager.session = some session) :
    heard session.id deployment.asked =
      (deployment.asks owner).map fun request => ⟨manager.caller, request⟩ := by
  rw [heard, asked, List.filter_filterMap, asks, List.map_filterMap]
  refine List.filterMap_congr fun entry member => ?_
  have there : deployment.session? owner = some session :=
    (session?_of_manager hmanager).trans hsession
  have attested := delivery.attested entry member
  cases entry with
  | posted job => rfl
  | asked asker envelope result =>
      rcases envelope with ⟨caller, request⟩
      cases asker with
      | none =>
          have unnamed : request.session? = none := attested
          simp [unnamed, Entry.asked?, Option.filter]
      | some who =>
          by_cases named : request.session? = some session.id
          · have signed : deployment.Signs who caller request := attested (by simp [named])
            rcases signed with ⟨found, other, hfound, hcaller, hother, hrequest⟩
            have same : who = owner := by
              apply distinct who owner other session (by simp [session?, hfound, hother]) there
              rw [hrequest] at named
              exact Option.some.inj named
            subst same
            rw [hmanager] at hfound
            cases hfound
            simp [Entry.asked?, Option.filter, named, hcaller]
          · have silent :
                Entry.asked? owner (.asked (some who) ⟨caller, request⟩ result) = none := by
              simp only [Entry.asked?, ite_eq_right_iff, reduceCtorEq, imp_false]
              rintro ⟨rfl, hnamed⟩
              rcases (attested hnamed).session? with ⟨other, hother, hrequest⟩
              rw [there] at hother
              cases hother
              exact named hrequest
            simp [silent, Option.filter, named]

theorem owner_of_mem_asked {deployment : Deployment σ} (delivery : Delivery [] deployment)
    {envelope : Envelope} (member : envelope ∈ deployment.asked) {id : SessionId}
    (named : envelope.request.session? = some id) :
    ∃ (owner : Nat) (manager : Manager) (session : Session),
      deployment.managers[owner]? = some manager ∧ manager.session = some session ∧
        session.id = id := by
  rcases List.mem_filterMap.mp member with ⟨entry, inJournal, hentry⟩
  have attested := delivery.attested entry inJournal
  cases entry with
  | posted job => cases hentry
  | asked asker found result =>
      cases hentry
      cases asker with
      | none => exact absurd (named.symm.trans attested) (by simp)
      | some owner =>
          rcases attested (by simp [named]) with ⟨manager, session, hmanager, -, hsession, hrequest⟩
          exact ⟨owner, manager, session, hmanager, hsession,
            Option.some.inj (hrequest.symm.trans named)⟩

variable {configuration : LocalConfiguration} {handled : List Envelope}

/-- Sessions of managers start in order. -/
theorem orderly_of_history {deployment : Deployment LocalService}
    (history : History configuration handled deployment) (delivery : Delivery [] deployment)
    (distinct : deployment.DistinctIds)
    (words : ∀ owner session, deployment.session? owner = some session →
      ∃ starts word, Word session.id starts word ∧ deployment.posts owner <+: word) :
    LocalService.Orderly handled := by
  intro earlier caller start channel h
  have inAsked := h.trans history.handled_prefix
  have member : (⟨caller, .startSession start channel⟩ : Envelope) ∈ deployment.asked :=
    inAsked.subset (by simp)
  rcases owner_of_mem_asked delivery member rfl with
    ⟨owner, manager, session, hmanager, hsession, hid⟩
  have there : deployment.session? owner = some session :=
    (session?_of_manager hmanager).trans hsession
  rcases words owner session there with ⟨starts, word, hword, posted⟩
  have heardBefore := heard_prefix session.id inAsked
  rw [heard_asked delivery distinct hmanager hsession, heard_concat,
    if_pos (by simp [hid, Request.session?])] at heardBefore
  have requests := heardBefore.map Envelope.request
  have unsigned : (Envelope.request ∘ fun request => ⟨manager.caller, request⟩) = id := rfl
  rw [List.map_append, List.map_map, unsigned, List.map_id] at requests
  have started : (heard session.id earlier).map Envelope.request ++
      [.startSession start channel] <+: word := by
    refine List.IsPrefix.trans ?_ ((delivery.asks_prefix owner).trans posted)
    simpa using requests
  rw [← hid]
  exact hword.start_of_prefix started

/-- Whatever happens, and however often sessions are stopped and restarted, no
session of a manager is taken for a duplicate: the service remembers every one as
active or without a service, and answers nothing else. -/
theorem isPlain_of_follow {deployment : Deployment LocalService} (fresh : deployment.Fresh)
    {configuration : LocalConfiguration} (made : deployment.service = .new configuration)
    (events : List (Event LocalService)) (distinct : (deployment.follow events).DistinctIds) :
    (∀ record ∈ (deployment.follow events).service.sessions, LocalService.isPlain record.state) ∧
      ∀ owner start channel code,
        .startSession start channel ∈ (deployment.follow events).posts owner →
          (deployment.follow events).exchange.peek channel = some (.ok code) →
            LocalService.isPlain ⟨code.toUInt32⟩ := by
  rcases exists_ledger fresh made events with ⟨handled, ledger⟩
  have history := ledger.history
  have delivery := delivery_follow fresh events
  have orderly : LocalService.Orderly handled := by
    refine orderly_of_history history delivery distinct fun owner session hsession => ?_
    have standing := ((accounted_follow fresh events owner).present session hsession).standing
    exact ⟨_, standing.exists_word⟩
  constructor
  · intro record member
    rw [history.service] at member
    exact LocalService.isPlain_of_mem_sessions orderly member
  · intro owner start channel code posted found
    rcases Exchange.peek_eq_some_iff.mp found with ⟨replied, outcome, hchannel, houtcome, hcode⟩
    rcases (history.outcomes channel replied hchannel).2 outcome houtcome with abandoned | decided
    · subst abandoned
      cases hcode
    · rcases LocalService.exists_of_mem_decisions decided with
        ⟨earlier, ⟨caller, request⟩, before, carried, answered⟩
      have asked : (⟨caller, request⟩ : Envelope) ∈ (deployment.follow events).asked :=
        (before.trans history.handled_prefix).subset (by simp)
      have same : request = .startSession start channel :=
        (numbered_follow fresh events).eq_of_channel? (mem_introduced_of_mem_asked delivery asked)
          (mem_introduced_of_mem_posts posted) carried rfl
      subst same
      have plain : LocalService.isPlain
          ((LocalService.past configuration earlier).stateOf caller start) :=
        LocalService.isPlain_stateOf orderly before
      cases answered
      cases hcode
      exact plain

/-- A session that is restarted while what it said before still waits, around a service
that stops before it has come to the rest. -/
def interruptedRestart : List (Event LocalService) :=
  [.operation (.onStart 0 ⟨"a"⟩ ⟨"p", "A"⟩ .empty), .work 0, .act .serve,
    .operation (.onStop 0), .operation (.onStart 0 ⟨"b"⟩ ⟨"p", "B"⟩ .empty),
    .work 0, .work 0, .work 0, .work 0, .act .serve, .act .serve, .act .serve, .act .serve,
    .act .stop]

theorem isPlain_of_follow_interruptedRestart :
    let after := (solitary (LocalService.new {})).follow interruptedRestart
    (∃ record ∈ after.service.sessions, record.start.token = ⟨"b"⟩ ∧
      LocalService.isPlain record.state) ∧
      after.exchange.peek 1 = some (.ok 2) ∧ LocalService.isPlain ⟨(2 : Int32).toUInt32⟩ := by
  intro after
  have distinct : after.DistinctIds :=
    distinctIds_follow (fresh_solitary _) interruptedRestart (by decide +kernel)
  have plain := isPlain_of_follow (fresh_solitary _) rfl interruptedRestart distinct
  have recorded : ∃ record ∈ after.service.sessions, record.start.token = ⟨"b"⟩ := by
    decide +kernel
  rcases recorded with ⟨record, member, token⟩
  have answered : after.exchange.peek 1 = some (.ok 2) := by decide +kernel
  have posted : .startSession ⟨⟨1⟩, ⟨"b"⟩, ⟨"p", "B"⟩, .empty⟩ 1 ∈ after.posts 0 := by
    decide +kernel
  exact ⟨⟨record, member, token, plain.1 record member⟩, answered,
    plain.2 0 _ 1 2 posted answered⟩

end Deployment
end ContentCapture
