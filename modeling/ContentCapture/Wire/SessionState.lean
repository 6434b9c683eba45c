import ContentCapture.Text.Diagnostic
import ContentCapture.Wire.Form

namespace ContentCapture

/-!
# Session states

The service answers the start of a session with a set of state bits.  The empty
set says that nothing is known.  Unlike with flags, no state contains the empty
set.
-/

/-- A set of state bits. -/
structure SessionState where
  bits : UInt32
  deriving DecidableEq, Repr

namespace SessionState

/-- Nothing is known. -/
def unknown : SessionState := ⟨0⟩

/-- The session is captured. -/
def active : SessionState := ⟨0x2⟩

/-- The session is not captured. -/
def disabled : SessionState := ⟨0x4⟩

/-- A session of that id is open already. -/
def duplicatedId : SessionState := ⟨0x8⟩

/-- No service captures for this client. -/
def noService : SessionState := ⟨0x10⟩

/-- The window is marked secure. -/
def flagSecure : SessionState := ⟨0x20⟩

/-- The app has turned capture off. -/
def byApp : SessionState := ⟨0x40⟩

/-- The service did not answer. -/
def noResponse : SessionState := ⟨0x80⟩

/-- No usable state came from the service. -/
def internalError : SessionState := ⟨0x100⟩

instance : Inhabited SessionState := ⟨unknown⟩

/-- The bits of either set. -/
def merge (state other : SessionState) : SessionState :=
  ⟨state.bits ||| other.bits⟩

/-- Whether the second set is not empty and all of its bits are in the first. -/
def contains (state other : SessionState) : Bool :=
  other.bits != 0 && state.bits &&& other.bits == other.bits

def isDisabled (state : SessionState) : Bool :=
  state.contains disabled

/-- The bits that have a name, in ascending order. -/
def named : List (SessionState × String) :=
  [(active, "ACTIVE"), (disabled, "DISABLED"), (duplicatedId, "DUPLICATED_ID"),
   (noService, "NO_SERVICE"), (flagSecure, "FLAG_SECURE"), (byApp, "BY_APP"),
   (noResponse, "NO_RESPONSE"), (internalError, "INTERNAL_ERROR")]

def names (state : SessionState) : List String :=
  (named.filter fun entry => state.contains entry.1).map (·.2)

/-- The names of the bits, and the bits as a number. -/
def text (state : SessionState) : String :=
  if state.bits == 0 then "UNKNOWN"
  else "|".intercalate state.names ++ " (" ++ Text.ofNat state.bits.toNat ++ ")"

def diagnostic (state : SessionState) : String :=
  Text.tagged "SessionState" (Text.ofNat state.bits.toNat)

instance : WireForm SessionState where
  encode state := WireForm.encode state.bits
  decode? document := (WireForm.decode? document).map SessionState.mk

end SessionState
end ContentCapture
