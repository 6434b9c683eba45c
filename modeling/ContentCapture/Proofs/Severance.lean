import ContentCapture.Proofs.Verdicts

namespace ContentCapture

/-!
# The flag and the state of a session

A session keeps a state and a flag that says whether it is disabled.  The answer to
its start, the lack of one, and disabling flags decide both of them at once.  The
failure of a vital request is different.  The job that makes the request has no access
to the state and sets the flag alone, so that a session which is cut off goes on
reporting the state that the service has given it.

What is true of the two is that a disabled state implies the flag, and that the
severance of the session is all that lies between them.
-/

namespace Deployment

variable {σ : Type}

/-- What one who looks sees of a session. -/
theorem exists_of_observeSession {deployment : Deployment σ} {owner : Nat} {seen : Session}
    (look : (deployment.observeSession owner).1 = some seen) :
    ∃ session, deployment.session? owner = some session ∧
      seen = session.polled deployment.exchange := by
  rw [observeSession, session?_poll, Option.map_eq_some_iff] at look
  rcases look with ⟨session, hsession, same⟩
  exact ⟨session, hsession, same.symm⟩

variable [Service σ] [Autonomous σ]

/-- Whatever the service does and however the steps are interleaved, one who looks at a
session sees the flag set exactly if the state is a disabled one or the session is severed
from the service.  While an announced cycle lasts, the state is told by the answer to its
start alone: no failure of a request ever reaches it. -/
theorem disabled_eq_of_follow {deployment : Deployment σ} (fresh : deployment.Fresh)
    (events : List (Event σ)) (owner : Nat) {seen : Session}
    (look : ((deployment.follow events).observeSession owner).1 = some seen) :
    seen.disabled = (seen.state.isDisabled || (deployment.follow events).isSevered owner) ∧
      ∀ cycle, (deployment.cycles owner events).getLast? = some cycle →
        cycle.isAnnounced = true → cycle.isOver = false →
          seen.state = (((deployment.follow events).startAnswer? owner).map Session.stateOf).getD
            SessionState.unknown := by
  rcases exists_of_observeSession look with ⟨session, hsession, rfl⟩
  have account := (accounted_follow fresh events owner).present session hsession
  refine ⟨account.polled.law, fun cycle last announced lasting => ?_⟩
  rcases account.standing.exists_informed last announced lasting with ⟨channel, latest, informed⟩
  rw [startAnswer?, latest]
  exact informed.state_polled

/-- A session that is active when the service cannot be reached any more. -/
def severedWhileActive : List (Event ScriptedService) :=
  [.act (ScriptedAct.cue .sendEvents ⟨.complete .abandoned, some "gone"⟩),
    .operation (.onStart 0 ⟨"a"⟩ ⟨"p", "A"⟩ .empty), .work 0, .work 0]

theorem disabled_eq_of_follow_severedWhileActive :
    let after := (solitary ScriptedService.standard).follow severedWhileActive
    ∃ seen, (after.observeSession 0).1 = some seen ∧
      seen.disabled = (seen.state.isDisabled || after.isSevered 0) ∧
      seen.disabled = true ∧ seen.state = .active ∧ seen.state.isDisabled = false := by
  intro after
  have there : (after.observeSession 0).1.isSome = true := by decide +kernel
  rcases Option.isSome_iff_exists.mp there with ⟨seen, look⟩
  have law := (disabled_eq_of_follow (fresh_solitary _) severedWhileActive 0 look).1
  have fields : ((after.observeSession 0).1.map fun session =>
      (session.disabled, session.state)) = some (true, .active) := by decide +kernel
  rw [look, Option.map_some, Option.some_inj, Prod.mk.injEq] at fields
  refine ⟨seen, look, law, fields.1, fields.2, ?_⟩
  rw [fields.2]
  decide

end Deployment
end ContentCapture
