import ContentCapture.Text.Diagnostic
import ContentCapture.Wire.Form

namespace ContentCapture

/-!
# Capture flags

The flags that a session is started with are a set of thirty-two bits.  Two of
them have a meaning here, and either of those turns capture off.  The others are
carried along.
-/

/-- A set of flags. -/
structure CaptureFlags where
  bits : UInt32
  deriving DecidableEq, Repr

namespace CaptureFlags

def empty : CaptureFlags := ⟨0⟩

/-- The app has turned capture off. -/
def disabledByApp : CaptureFlags := ⟨1⟩

/-- The window is marked secure. -/
def disabledByFlagSecure : CaptureFlags := ⟨2⟩

instance : Inhabited CaptureFlags := ⟨empty⟩

def isEmpty (flags : CaptureFlags) : Bool :=
  flags.bits == 0

/-- The flags of either set. -/
def merge (flags other : CaptureFlags) : CaptureFlags :=
  ⟨flags.bits ||| other.bits⟩

/-- The order in which flags are merged does not matter. -/
theorem merge_comm (flags other : CaptureFlags) : flags.merge other = other.merge flags := by
  simp only [merge, UInt32.or_comm]

/-- The grouping in which flags are merged does not matter. -/
theorem merge_assoc (first second third : CaptureFlags) :
    (first.merge second).merge third = first.merge (second.merge third) := by
  simp only [merge, UInt32.or_assoc]

/-- The flags of the first set that are not in the second. -/
def remove (flags other : CaptureFlags) : CaptureFlags :=
  ⟨flags.bits &&& ~~~other.bits⟩

/-- Whether all flags of the second set are in the first. -/
def contains (flags other : CaptureFlags) : Bool :=
  flags.bits &&& other.bits == other.bits

/-- A flag that is a single bit is in a set exactly if the set has that bit. -/
theorem contains_eq_getLsbD (flags : CaptureFlags) {flag : CaptureFlags} {place : Nat}
    (inside : place < 32) (single : flag.bits.toBitVec = BitVec.twoPow 32 place) :
    flags.contains flag = flags.bits.toBitVec.getLsbD place := by
  rw [Bool.eq_iff_iff, contains, beq_iff_eq, ← UInt32.toBitVec_inj, UInt32.toBitVec_and, single,
    BitVec.and_twoPow]
  cases flags.bits.toBitVec.getLsbD place with
  | true => simp
  | false =>
      have nonzero : (0#32) ≠ BitVec.twoPow 32 place := by
        intro same
        have bits := congrArg (BitVec.getLsbD · place) same
        simp [inside] at bits
      simpa using nonzero

def isDisabledByApp (flags : CaptureFlags) : Bool :=
  flags.contains disabledByApp

def isDisabledByFlagSecure (flags : CaptureFlags) : Bool :=
  flags.contains disabledByFlagSecure

/-- Whether one of the flags turns capture off. -/
def isDisabling (flags : CaptureFlags) : Bool :=
  flags.isDisabledByApp || flags.isDisabledByFlagSecure

theorem isDisabledByApp_eq_getLsbD (flags : CaptureFlags) :
    flags.isDisabledByApp = flags.bits.toBitVec.getLsbD 0 :=
  flags.contains_eq_getLsbD (by decide) rfl

theorem isDisabledByFlagSecure_eq_getLsbD (flags : CaptureFlags) :
    flags.isDisabledByFlagSecure = flags.bits.toBitVec.getLsbD 1 :=
  flags.contains_eq_getLsbD (by decide) rfl

/-- The two lowest bits turn capture off, and no others. -/
theorem isDisabling_iff (flags : CaptureFlags) :
    flags.isDisabling = true ↔
      flags.bits.toBitVec.getLsbD 0 = true ∨ flags.bits.toBitVec.getLsbD 1 = true := by
  rw [isDisabling, isDisabledByApp_eq_getLsbD, isDisabledByFlagSecure_eq_getLsbD, Bool.or_eq_true]

/-- The names of the flags that have one. -/
def names (flags : CaptureFlags) : List String :=
  (if flags.isDisabledByApp then ["DISABLED_BY_APP"] else []) ++
    if flags.isDisabledByFlagSecure then ["DISABLED_BY_FLAG_SECURE"] else []

/-- The bits as a number, and the names of those that have one. -/
def text (flags : CaptureFlags) : String :=
  let number := Text.ofNat flags.bits.toNat
  match flags.names with
  | [] => number
  | names => number ++ " [" ++ "|".intercalate names ++ "]"

def diagnostic (flags : CaptureFlags) : String :=
  Text.tagged "CaptureFlags" (Text.ofNat flags.bits.toNat)

instance : WireForm CaptureFlags where
  encode flags := WireForm.encode flags.bits
  decode? document := (WireForm.decode? document).map CaptureFlags.mk

end CaptureFlags
end ContentCapture
