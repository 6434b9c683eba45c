import ContentCapture.Text.Diagnostic

namespace ContentCapture

/-!
# Result codes

A reply carries a signed number.  Three numbers have a meaning as an answer to a
question about the feature.  Any other number is kept, so that it can be
reported.
-/

/-- What the number in a reply means. -/
inductive ResultCode where
  /-- Yes, or acknowledged. -/
  | affirmed
  /-- No. -/
  | denied
  /-- The caller does not own the service. -/
  | notService
  /-- A number without a meaning. -/
  | unknown (code : Int32)
  deriving DecidableEq, Repr

namespace ResultCode

/-- The meaning of a number. -/
def ofCode (code : Int32) : ResultCode :=
  if code = 1 then .affirmed
  else if code = 2 then .denied
  else if code = -1 then .notService
  else .unknown code

/-- The answer to a question. -/
def ofBool (value : Bool) : ResultCode :=
  if value then .affirmed else .denied

def code : ResultCode → Int32
  | .affirmed => 1
  | .denied => 2
  | .notService => -1
  | .unknown code => code

def diagnostic : ResultCode → String
  | .affirmed => "True"
  | .denied => "False"
  | .notService => "NotService"
  | .unknown code => Text.tagged "Unknown" (Text.ofInt code.toInt)

/-- Reading a number loses nothing. -/
theorem code_ofCode (number : Int32) : (ofCode number).code = number := by
  unfold ofCode
  split
  · next h => exact h.symm
  · split
    · next h => exact h.symm
    · split
      · next h => exact h.symm
      · rfl

end ResultCode
end ContentCapture
