import ContentCapture.Failure
import ContentCapture.Service.Request

namespace ContentCapture

/-!
# Services

To its clients a service is something that takes requests.  Taking a request
does not wait for anything: the service may decide the outcome of the reply
channel, or keep the channel and decide it later, on whatever occasion.  A
service that cannot be reached says so to the caller, and what it has done with
the channel before does not depend on that.

Everything about clients is stated for every service.  Two kinds are provided:
`Service.Local`, which works the requests off in a loop of its own, and
`Service.Scripted`, which does as it is told.
-/

/-- A service after it has taken a request, what it has done with the reply
channels that it holds, in order, and what it tells the caller. -/
structure Reception (σ : Type) where
  service : σ
  answers : List (ChannelId × Answer) := []
  result : Except Unreachable Unit := .ok ()

/-- What clients know of a service in a state of type `σ`. -/
class Service (σ : Type) where
  /-- Takes a request from a client. -/
  receive : σ → Envelope → Reception σ
  /-- The name that diagnostics of a client give to the service. -/
  identity : σ → (caller : String) → String

end ContentCapture
