import ContentCapture.Failure
import ContentCapture.Text.Blank
import ContentCapture.Wire.Form

namespace ContentCapture

/-!
# Configurations

A configuration says how long a blocking question may take, and whether the
service is to run at all.  It is read from a JSON text, which may come from a
file, and the environment may override the timeout.  On neither way does a
timeout of zero get through.
-/

/-- A configuration. -/
structure Configuration where
  /-- The timeout in milliseconds. -/
  timeout : UInt64 := 5000
  /-- The kill switch of the service; it may be left open. -/
  explicitlyEnabled : Option Bool := none
  deriving DecidableEq, Repr

namespace Configuration

def fieldNames : List String := ["sync_calls_timeout_ms", "service_explicitly_enabled"]

/-- Both fields may be missing, and no other member is allowed. -/
instance : WireForm Configuration where
  encode configuration :=
    .object [("sync_calls_timeout_ms", WireForm.encode configuration.timeout),
      ("service_explicitly_enabled", WireForm.encode configuration.explicitlyEnabled)]
  decode? document := do
    let standard : Configuration := {}
    let fields ← Json.Fields.readClosed? fieldNames document
    let timeout ← fields.optional "sync_calls_timeout_ms" standard.timeout WireForm.decode?
    let explicitlyEnabled ←
      fields.optional "service_explicitly_enabled" standard.explicitlyEnabled WireForm.decode?
    return { timeout, explicitlyEnabled }

def timeoutSpan (configuration : Configuration) : Span :=
  .ofMilliseconds configuration.timeout.toNat

/-- Refuses a timeout of zero. -/
def validated (configuration : Configuration) : Except Failure Configuration :=
  if configuration.timeout = 0 then .error (.configuration .zeroTimeout) else .ok configuration

def ofText (text : String) : Except Failure Configuration :=
  match WireForm.ofText? (α := Configuration) text with
  | none => .error (.configuration .undecodable)
  | some configuration => configuration.validated

/-- The text that bytes encode in UTF-8. -/
def decodedBytes (bytes : ByteArray) : Except Failure String :=
  match String.fromUTF8? bytes with
  | none => .error (.file .notText)
  | some text => .ok text

/-- The configuration that a file gives, the outcome of reading it being known. -/
def ofFile (content : Except FileFault ByteArray) : Except Failure Configuration := do
  let bytes ← content.mapError Failure.file
  let text ← decodedBytes bytes
  ofText text

/-- The number of milliseconds that a setting asks for: blank characters around
it and a single plus sign in front of it do not count. -/
def milliseconds? (text : String) : Option UInt64 :=
  match Text.trim text.toList with
  | '+' :: numeral => Text.word64? numeral
  | numeral => Text.word64? numeral

/-- The configuration with another timeout, if a setting for it is given. -/
def overridden (configuration : Configuration) : Option String → Except Failure Configuration
  | none => configuration.validated
  | some text =>
      match milliseconds? text with
      | none => .error (.configuration (.malformedOverride text))
      | some timeout => { configuration with timeout := timeout }.validated

/-- The configuration after the environment has had its say.  A variable that is
not UTF-8 text counts as unset. -/
def inEnvironment (configuration : Configuration) (setting : Option ByteArray) :
    Except Failure Configuration :=
  configuration.overridden (setting.bind String.fromUTF8?)

end Configuration
end ContentCapture
