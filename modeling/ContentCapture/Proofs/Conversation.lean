import ContentCapture.Proofs.Cycle
import ContentCapture.Proofs.Journal

namespace ContentCapture

/-!
# What a session says to its service

Session and service speak a small language.  The service is told that a cycle
begins, then perhaps that the session was started, then perhaps, and only if it
knows of the start, that it was finished, and in the end that the cycle is over.
A cycle that its flags turn off is not mentioned at all.
-/

def CaptureEvent.timeless (event : CaptureEvent) : CaptureEvent :=
  { event with time := 0 }

/-- What a request says, whatever the times of its events and wherever its answer is to go. -/
def Request.bare : Request → Request
  | .startSession start _ => .startSession start 0
  | .sendEvents session events reason =>
      .sendEvents session (events.map CaptureEvent.timeless) reason
  | request => request

namespace SessionStart

/-- The request that delivers the event of a start. -/
def startedRequest (start : SessionStart) (time : UInt64) : Request :=
  .sendEvents start.session [⟨start.session, time, .started start.token start.component⟩]
    .sessionStarted

/-- The request that delivers the event of the end. -/
def finishedRequest (start : SessionStart) (time : UInt64) : Request :=
  .sendEvents start.session [⟨start.session, time, .finished⟩] .sessionFinished

end SessionStart

/-- What is said in a cycle between its first and its last request, and whether
the event of the end is part of it. -/
inductive Body (start : SessionStart) : Bool → List Request → Prop
  | silent : Body start false []
  | started (time : UInt64) : Body start false [start.startedRequest time]
  | finished (time later : UInt64) :
      Body start true [start.startedRequest time, start.finishedRequest later]

/-- The words of the language, with the starts that are announced in them. -/
inductive Word (session : SessionId) : List SessionStart → List Request → Prop
  | nil : Word session [] []
  | cycle {starts : List SessionStart} {requests body : List Request} {finished : Bool}
      {start : SessionStart} (before : Word session starts requests)
      (own : start.session = session) (enabling : start.flags.isDisabling = false)
      (channel : ChannelId) (hbody : Body start finished body) :
      Word session (starts ++ [start])
        (requests ++ .startSession start channel :: (body ++ [.finishSession session]))

/-- What the service was told of cycles that are over.  It learns of the end of a
session exactly if that was not disabled when it was destroyed. -/
inductive Told (session : SessionId) : List Cycle → List Request → Prop
  | nil : Told session [] []
  | off {cycles : List Cycle} {requests : List Request} {cycle : Cycle}
      (before : Told session cycles requests) (off : cycle.isAnnounced = false)
      (ended : cycle.isOver = true) : Told session (cycles ++ [cycle]) requests
  | on {cycles : List Cycle} {requests body : List Request} {cycle : Cycle} {disabled : Bool}
      (before : Told session cycles requests) (on : cycle.isAnnounced = true)
      (ending : cycle.ending = some disabled) (channel : ChannelId)
      (hbody : Body (cycle.start session) (!disabled) body) :
      Told session (cycles ++ [cycle])
        (requests ++
          .startSession (cycle.start session) channel :: (body ++ [.finishSession session]))

/-- What is said in a cycle that is announced, times and channels aside, if the session speaks
of its start. -/
def Cycle.requests (session : SessionId) (cycle : Cycle) : List Request :=
  [.startSession (cycle.start session) 0, (cycle.start session).startedRequest 0] ++
    match cycle.ending with
    | none => []
    | some disabled =>
        (if disabled then [] else [(cycle.start session).finishedRequest 0]) ++
          [.finishSession session]

/-- The starts of the announced ones among some cycles. -/
def announcedStarts (session : SessionId) (cycles : List Cycle) : List SessionStart :=
  (cycles.filter Cycle.isAnnounced).map fun cycle => cycle.start session

theorem announcedStarts_concat (session : SessionId) (cycles : List Cycle) (cycle : Cycle) :
    announcedStarts session (cycles ++ [cycle]) =
      announcedStarts session cycles ++
        if cycle.isAnnounced then [cycle.start session] else [] := by
  cases hannounced : cycle.isAnnounced <;> simp [announcedStarts, hannounced]

theorem Cycle.enabling_of_isAnnounced {cycle : Cycle} (session : SessionId)
    (on : cycle.isAnnounced = true) : (cycle.start session).flags.isDisabling = false := by
  simpa [Cycle.isAnnounced, Cycle.start] using on

namespace Body

variable {start : SessionStart} {finished : Bool} {body : List Request}

theorem filterMap_start? (hbody : Body start finished body) :
    body.filterMap Request.start? = [] := by
  cases hbody <;> rfl

/-- A body can always be gone on with, up to the end of a cycle. -/
theorem exists_word {session : SessionId} {starts : List SessionStart} {requests : List Request}
    (before : Word session starts requests) (own : start.session = session)
    (enabling : start.flags.isDisabling = false) (channel : ChannelId)
    (hbody : Body start finished body) :
    ∃ word, Word session (starts ++ [start]) word ∧
      requests ++ .startSession start channel :: body <+: word := by
  refine ⟨_, .cycle before own enabling channel hbody, ?_⟩
  rw [← List.cons_append, ← List.append_assoc]
  exact List.prefix_append _ _

end Body

namespace Word

variable {session : SessionId} {starts : List SessionStart} {requests : List Request}

theorem filterMap_start? (word : Word session starts requests) :
    requests.filterMap Request.start? = starts := by
  induction word with
  | nil => rfl
  | cycle before own enabling channel hbody inductionHypothesis =>
      rw [List.filterMap_append, inductionHypothesis, List.filterMap_cons, List.filterMap_append,
        hbody.filterMap_start?]
      rfl

end Word

namespace Told

variable {session : SessionId} {cycles : List Cycle} {requests : List Request}

theorem isOver (told : Told session cycles requests) : ∀ cycle ∈ cycles, cycle.isOver = true := by
  induction told with
  | nil => simp
  | off before off ended inductionHypothesis =>
      intro cycle member
      rcases List.mem_append.mp member with member | member
      · exact inductionHypothesis cycle member
      · rw [List.mem_singleton.mp member]
        exact ended
  | on before on ending channel hbody inductionHypothesis =>
      intro cycle member
      rcases List.mem_append.mp member with member | member
      · exact inductionHypothesis cycle member
      · rw [List.mem_singleton.mp member, Cycle.isOver, ending]
        rfl

theorem requests_eq_nil (told : Told session [] requests) : requests = [] := by
  generalize hcycles : ([] : List Cycle) = cycles at told
  cases told with
  | nil => rfl
  | off before off ended => simp at hcycles
  | on before on ending channel hbody => simp at hcycles

theorem map_endedBy (told : Told session cycles requests) (disabled : Bool) :
    cycles.map (Cycle.endedBy disabled) = cycles := by
  calc
    cycles.map (Cycle.endedBy disabled) = cycles.map id :=
      List.map_congr_left fun cycle member => Cycle.endedBy_eq_self (told.isOver cycle member)
    _ = cycles := List.map_id cycles

/-- What the service is told of cycles that are over is a word. -/
theorem word (told : Told session cycles requests) :
    Word session (announcedStarts session cycles) requests := by
  induction told with
  | nil => exact .nil
  | off before off ended inductionHypothesis =>
      rw [announcedStarts_concat, off]
      simpa using inductionHypothesis
  | on before on ending channel hbody inductionHypothesis =>
      rw [announcedStarts_concat, on]
      exact .cycle inductionHypothesis rfl (Cycle.enabling_of_isAnnounced session on) channel hbody

end Told
end ContentCapture
