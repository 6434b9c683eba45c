import ContentCapture.CommandLine.Commands
import ContentCapture.Proofs.Settings
import Mathlib.Data.Nat.Digits.Defs

namespace ContentCapture

/-!
# Overriding the timeout

The environment may ask for another timeout than the one that was configured.  It does so by a
numeral, which may have zeros in front, may have one plus sign before it, and may be padded with
blank characters.  What such a setting looks like is said here without trimming anything: it is
put together from its parts.  As neither a sign nor a digit is blank, the padding ends where the
rest begins, so no setting can be taken for two of that form.

A timeout of zero is refused wherever it comes from.  A text that gives no configuration is
refused before the environment is looked at, so no setting makes up for it.
-/

namespace Text

/-! ## Numerals -/

/-- A numeral stands for the number with its digits in the decimal system. -/
theorem ofDigits_eq_ofDigits_ten (numeral : List Char) :
    ofDigits numeral = Nat.ofDigits 10 (numeral.reverse.map digitValue) := by
  induction numeral using List.reverseRecOn with
  | nil => rfl
  | append_singleton front c inductionHypothesis =>
      rw [List.reverse_append, List.reverse_singleton, List.singleton_append, List.map_cons,
        Nat.ofDigits_cons, ← inductionHypothesis, Nat.add_comm]
      exact List.foldl_append

theorem word64?_eq_some_iff {numeral : List Char} {word : UInt64} :
    word64? numeral = some word ↔
      numeral ≠ [] ∧ (∀ c ∈ numeral, isDigit c = true) ∧ ofDigits numeral = word.toNat := by
  constructor
  · intro h
    rcases Option.bind_eq_some_iff.mp h with ⟨value, read, h⟩
    rw [natural?] at read
    split_ifs at read with formless
    cases read
    split_ifs at h with within
    cases h
    have formed : numeral ≠ [] ∧ ∀ c ∈ numeral, isDigit c = true := by simpa using formless
    exact ⟨formed.1, formed.2, (UInt64.toNat_ofNat_of_lt' within).symm⟩
  · rintro ⟨nonempty, digits, same⟩
    have within : word.toNat < UInt64.size := word.toNat_lt
    have formed : (numeral.isEmpty || !numeral.all isDigit) = false := by simpa [nonempty]
    simp [word64?, natural?, formed, same, within]

/-! ## Padding -/

theorem isBlank_of_isDigit {c : Char} (digit : isDigit c = true) : isBlank c = false := by
  have range : '0' ≤ c ∧ c ≤ '9' := by simpa [isDigit] using digit
  have lower : 48 ≤ c.toNat := range.1
  have upper : c.toNat ≤ 57 := range.2
  simp only [isBlank, Bool.or_eq_false_iff, Bool.and_eq_false_iff, decide_eq_false_iff_not,
    beq_eq_false_iff_ne]
  omega

/-- Padding is taken off as far as the first and the last character that is not blank. -/
theorem trim_append {front core back : List Char} (blankFront : ∀ c ∈ front, isBlank c = true)
    (blankBack : ∀ c ∈ back, isBlank c = true) (nonempty : core ≠ [])
    (first : ∀ c ∈ core.head?, isBlank c = false) (last : ∀ c ∈ core.getLast?, isBlank c = false) :
    trim (front ++ core ++ back) = core := by
  have dropFront : (front ++ core ++ back).dropWhile isBlank = core ++ back := by
    rw [List.append_assoc, List.dropWhile_append_of_pos blankFront]
    cases core with
    | nil => exact absurd rfl nonempty
    | cons c rest => exact List.dropWhile_cons_of_neg (by simp [first c rfl])
  have dropBack : (core ++ back).reverse.dropWhile isBlank = core.reverse := by
    rw [List.reverse_append, List.dropWhile_append_of_pos (by simpa using blankBack)]
    rcases core.eq_nil_or_concat with rfl | ⟨rest, c, rfl⟩
    · exact absurd rfl nonempty
    · rw [List.concat_eq_append] at last ⊢
      rw [List.reverse_append]
      exact List.dropWhile_cons_of_neg (by simp [last c List.getLast?_concat])
  rw [trim, dropFront, dropBack, List.reverse_reverse]

/-- What trimming takes off is blank. -/
theorem exists_padding (text : List Char) :
    ∃ front back, text = front ++ trim text ++ back ∧ (∀ c ∈ front, isBlank c = true) ∧
      ∀ c ∈ back, isBlank c = true := by
  let kept := text.dropWhile isBlank
  refine ⟨text.takeWhile isBlank, (kept.reverse.takeWhile isBlank).reverse, ?_,
    fun c member => List.mem_takeWhile_imp member, fun c member => ?_⟩
  · have split : trim text ++ (kept.reverse.takeWhile isBlank).reverse = kept := by
      rw [trim, ← List.reverse_append, List.takeWhile_append_dropWhile, List.reverse_reverse]
    rw [List.append_assoc, split]
    exact List.takeWhile_append_dropWhile.symm
  · exact List.mem_takeWhile_imp (List.mem_reverse.mp member)

end Text

namespace Configuration

/-! ## Settings -/

/-- The sign that may stand before the numeral. -/
inductive IsSign : List Char → Prop
  | none : IsSign []
  | plus : IsSign ['+']

/-- A setting that asks for a timeout, put together from its parts. -/
inductive AsksFor : String → UInt64 → Prop
  | intro {setting : String} {front sign numeral back : List Char} {timeout : UInt64}
      (parts : setting.toList = front ++ (sign ++ numeral) ++ back)
      (blankFront : ∀ c ∈ front, Text.isBlank c = true)
      (blankBack : ∀ c ∈ back, Text.isBlank c = true) (signed : IsSign sign)
      (nonempty : numeral ≠ []) (digits : ∀ c ∈ numeral, Text.isDigit c = true)
      (same : Nat.ofDigits 10 (numeral.reverse.map Text.digitValue) = timeout.toNat)
      (positive : 0 < timeout.toNat) :
      AsksFor setting timeout

/-- What is read of a setting once the padding is off. -/
theorem milliseconds?_eq_some_iff {setting : String} {timeout : UInt64} :
    milliseconds? setting = some timeout ↔
      ∃ sign numeral, Text.trim setting.toList = sign ++ numeral ∧ IsSign sign ∧
        Text.word64? numeral = some timeout := by
  rw [milliseconds?]
  split
  · next numeral split =>
      constructor
      · exact fun read => ⟨['+'], numeral, split, .plus, read⟩
      · rintro ⟨sign, others, also, signed, read⟩
        rw [split] at also
        cases signed with
        | none =>
            subst also
            have digit := (Text.word64?_eq_some_iff.mp read).2.1 '+' List.mem_cons_self
            exact absurd digit (by decide)
        | plus =>
            cases also
            exact read
  · next unsigned =>
      constructor
      · exact fun read => ⟨[], _, rfl, .none, read⟩
      · rintro ⟨sign, numeral, split, signed, read⟩
        cases signed with
        | none => exact split ▸ read
        | plus => exact absurd split (unsigned numeral)

theorem asksFor_iff {setting : String} {timeout : UInt64} :
    milliseconds? setting = some timeout ∧ timeout ≠ 0 ↔ AsksFor setting timeout := by
  rw [milliseconds?_eq_some_iff]
  constructor
  · rintro ⟨⟨sign, numeral, split, signed, read⟩, nonzero⟩
    rcases Text.word64?_eq_some_iff.mp read with ⟨nonempty, digits, same⟩
    rcases Text.exists_padding setting.toList with ⟨front, back, parts, blankFront, blankBack⟩
    rw [split] at parts
    refine .intro parts blankFront blankBack signed nonempty digits ?_ ?_
    · rw [← Text.ofDigits_eq_ofDigits_ten, same]
    · exact Nat.pos_of_ne_zero fun zero => nonzero (UInt64.toNat_inj.mp zero)
  · rintro ⟨parts, blankFront, blankBack, signed, nonempty, digits, same, positive⟩
    next front sign numeral back =>
      have blankless : ∀ c ∈ sign ++ numeral, Text.isBlank c = false := by
        intro c member
        rcases List.mem_append.mp member with member | member
        · cases signed with
          | none => cases member
          | plus => rw [List.mem_singleton.mp member]; decide
        · exact Text.isBlank_of_isDigit (digits c member)
      have trimmed : Text.trim setting.toList = sign ++ numeral := by
        rw [parts]
        exact Text.trim_append blankFront blankBack (by simp [nonempty])
          (fun c member => blankless c (List.mem_of_head? member))
          (fun c member => blankless c (List.mem_of_getLast? member))
      rw [← Text.ofDigits_eq_ofDigits_ten] at same
      refine ⟨⟨sign, numeral, trimmed, signed, Text.word64?_eq_some_iff.mpr
        ⟨nonempty, digits, same⟩⟩, ?_⟩
      rintro rfl
      exact absurd positive (by decide)

/-! ## Overrides -/

theorem validated_eq (configuration : Configuration) :
    configuration.validated =
      if configuration.timeout = 0 then .error (.configuration .zeroTimeout)
      else .ok configuration := rfl

theorem timeout_ne_zero_of_validated {base configuration : Configuration}
    (accepted : base.validated = .ok configuration) : configuration.timeout ≠ 0 := by
  rw [validated_eq] at accepted
  split_ifs at accepted with zero
  cases accepted
  exact zero

theorem overridden_some_eq_ok_iff {base configuration : Configuration} {setting : String} :
    base.overridden (some setting) = .ok configuration ↔
      ∃ timeout, AsksFor setting timeout ∧ configuration = { base with timeout := timeout } := by
  simp only [← asksFor_iff]
  rw [overridden]
  cases milliseconds? setting with
  | none => simp
  | some timeout => by_cases zero : timeout = 0 <;> simp [validated_eq, zero, eq_comm]

theorem exists_fault_of_overridden {base : Configuration} {setting : Option String}
    {failure : Failure} (refused : base.overridden setting = .error failure) :
    ∃ fault, failure = .configuration fault := by
  have fault_of_validated : ∀ configuration : Configuration,
      configuration.validated = .error failure → ∃ fault, failure = .configuration fault := by
    intro configuration refused
    rw [validated_eq] at refused
    split_ifs at refused
    cases refused
    exact ⟨_, rfl⟩
  cases setting with
  | none => exact fault_of_validated base refused
  | some setting =>
      rw [overridden] at refused
      split at refused
      · cases refused
        exact ⟨_, rfl⟩
      · exact fault_of_validated _ refused

/-- A setting that asks for no timeout is refused. -/
theorem exists_fault_of_not_asksFor (base : Configuration) {setting : String}
    (nothing : ∀ timeout, ¬ AsksFor setting timeout) :
    ∃ fault, base.overridden (some setting) = .error (.configuration fault) := by
  cases verdict : base.overridden (some setting) with
  | ok configuration =>
      rcases overridden_some_eq_ok_iff.mp verdict with ⟨timeout, asks, -⟩
      exact absurd asks (nothing timeout)
  | error failure =>
      rcases exists_fault_of_overridden verdict with ⟨fault, rfl⟩
      exact ⟨fault, rfl⟩

/-- A variable that is not UTF-8 text counts as unset. -/
theorem inEnvironment_of_unset (base : Configuration) {setting : Option ByteArray}
    (unset : setting.bind String.fromUTF8? = none) :
    base.inEnvironment setting = base.validated := by
  rw [inEnvironment, unset]
  rfl

theorem inEnvironment_toUTF8 (base : Configuration) (setting : String) :
    base.inEnvironment (some setting.toUTF8) = base.overridden (some setting) := by
  have read : String.fromUTF8? setting.toUTF8 = some setting := dif_pos setting.isValidUTF8
  rw [inEnvironment, Option.bind_some, read]

theorem timeout_ne_zero_of_inEnvironment {base configuration : Configuration}
    {setting : Option ByteArray} (accepted : base.inEnvironment setting = .ok configuration) :
    configuration.timeout ≠ 0 := by
  rw [inEnvironment] at accepted
  cases found : setting.bind String.fromUTF8? with
  | none =>
      rw [found] at accepted
      exact timeout_ne_zero_of_validated accepted
  | some text =>
      rw [found, overridden] at accepted
      split at accepted
      · cases accepted
      · exact timeout_ne_zero_of_validated accepted

/-! ## Ways to come by a configuration -/

/-- Where a configuration comes from.  The environment may have its say any number of times. -/
inductive Origin where
  | standard
  | written (text : String)
  | file (content : Except FileFault ByteArray)
  | environment (origin : Origin) (setting : Option ByteArray)

namespace Origin

/-- What comes of it. -/
def loaded : Origin → Except Failure Configuration
  | .standard => .ok {}
  | .written text => ofText text
  | .file content => ofFile content
  | .environment origin setting =>
      origin.loaded.bind fun configuration => configuration.inEnvironment setting

/-- The text that it goes back to, if there is one. -/
def text? : Origin → Option String
  | .standard => none
  | .written text => some text
  | .file content => content.toOption.bind String.fromUTF8?
  | .environment origin _ => origin.text?

end Origin

theorem ofFile_eq_ofText {content : Except FileFault ByteArray} {text : String}
    (read : content.toOption.bind String.fromUTF8? = some text) : ofFile content = ofText text := by
  rcases Option.bind_eq_some_iff.mp read with ⟨bytes, there, decoded⟩
  cases content with
  | error fault => cases there
  | ok content =>
      cases there
      change (decodedBytes bytes).bind ofText = ofText text
      rw [decodedBytes, decoded]
      rfl

theorem timeout_ne_zero_of_ofText {text : String} {configuration : Configuration}
    (accepted : ofText text = .ok configuration) : configuration.timeout ≠ 0 :=
  (ofText_eq_ok_iff_decode?.mp accepted).2

theorem timeout_ne_zero_of_ofFile {content : Except FileFault ByteArray}
    {configuration : Configuration} (accepted : ofFile content = .ok configuration) :
    configuration.timeout ≠ 0 := by
  cases read : content.toOption.bind String.fromUTF8? with
  | some text => exact timeout_ne_zero_of_ofText (ofFile_eq_ofText read ▸ accepted)
  | none =>
      cases content with
      | error fault => cases accepted
      | ok bytes =>
          change (decodedBytes bytes).bind ofText = .ok configuration at accepted
          rw [decodedBytes, show String.fromUTF8? bytes = none from read] at accepted
          cases accepted

/-- No way to come by a configuration leads to a timeout of zero. -/
theorem Origin.timeout_ne_zero (origin : Origin) {configuration : Configuration}
    (accepted : origin.loaded = .ok configuration) : configuration.timeout ≠ 0 := by
  cases origin with
  | standard =>
      cases accepted
      decide
  | written text => exact timeout_ne_zero_of_ofText accepted
  | file content => exact timeout_ne_zero_of_ofFile accepted
  | environment origin setting =>
      rw [loaded] at accepted
      cases before : origin.loaded with
      | error failure =>
          rw [before] at accepted
          cases accepted
      | ok base =>
          rw [before] at accepted
          exact timeout_ne_zero_of_inEnvironment accepted

/-- A text that is refused is refused whatever the environment says afterwards. -/
theorem Origin.loaded_of_refused {origin : Origin} {text : String}
    (source : origin.text? = some text) {failure : Failure}
    (refused : ofText text = .error failure) : origin.loaded = .error failure := by
  induction origin with
  | standard => cases source
  | written other =>
      cases source
      exact refused
  | file content =>
      rw [loaded, ofFile_eq_ofText source]
      exact refused
  | environment origin setting inductionHypothesis =>
      rw [loaded, inductionHypothesis source]
      rfl

/-- Where the configuration of a command line comes from. -/
def Origin.ofInvocation (invocation : CommandLine.Invocation)
    (read : String → Except FileFault ByteArray) (setting : Option ByteArray) : Origin :=
  let base := invocation.configuration.elim .standard fun path =>
    .file (CommandLine.readNamed read path)
  .environment base setting

theorem loadConfiguration_eq_loaded (invocation : CommandLine.Invocation)
    (read : String → Except FileFault ByteArray) (setting : Option ByteArray) :
    CommandLine.loadConfiguration invocation read setting =
      (Origin.ofInvocation invocation read setting).loaded := by
  cases named : invocation.configuration with
  | none =>
      rw [CommandLine.loadConfiguration, Origin.ofInvocation, named]
      rfl
  | some path =>
      rw [CommandLine.loadConfiguration, Origin.ofInvocation, named]
      rfl

/-- A setting overrides the timeout exactly if it asks for one, and overrides nothing else.  Any
other text is refused.  If nothing is set, or no text, what is left is a configuration with a
timeout as it is, and one without is refused.

So all configurations have a timeout, however they are come by, and a text that gives none is
refused whatever is set. -/
theorem inEnvironment_verdict (base : Configuration) :
    (∀ setting configuration, base.inEnvironment (some setting.toUTF8) = .ok configuration ↔
        ∃ timeout, AsksFor setting timeout ∧ configuration = { base with timeout := timeout }) ∧
      (∀ setting, (∀ timeout, ¬ AsksFor setting timeout) →
        ∃ fault, base.inEnvironment (some setting.toUTF8) = .error (.configuration fault)) ∧
      (∀ setting : Option ByteArray, setting.bind String.fromUTF8? = none →
        base.inEnvironment setting =
          if base.timeout = 0 then .error (.configuration .zeroTimeout) else .ok base) ∧
      (∀ (origin : Origin) configuration, origin.loaded = .ok configuration →
        configuration.timeout ≠ 0) ∧
      (∀ (origin : Origin) text, origin.text? = some text →
        (∀ configuration, ¬ GivenBy configuration text) →
          ∃ fault, origin.loaded = .error (.configuration fault)) ∧
      ∀ invocation read setting, CommandLine.loadConfiguration invocation read setting =
        (Origin.ofInvocation invocation read setting).loaded := by
  refine ⟨fun setting configuration => ?_, fun setting nothing => ?_, fun setting unset => ?_,
    fun origin _ => origin.timeout_ne_zero, fun origin text source nothing => ?_,
    loadConfiguration_eq_loaded⟩
  · rw [inEnvironment_toUTF8]
    exact overridden_some_eq_ok_iff
  · rw [inEnvironment_toUTF8]
    exact base.exists_fault_of_not_asksFor nothing
  · exact base.inEnvironment_of_unset unset
  · rcases exists_fault_of_not_givenBy nothing with ⟨fault, refused⟩
    exact ⟨fault, Origin.loaded_of_refused source refused⟩

/-- The greatest timeout, with an em space, a plus sign and zeros in front and a no-break space
behind. -/
def paddedMaximum : String := "\u2003+0018446744073709551615\u00a0"

theorem inEnvironment_verdict_paddedMaximum :
    let base : Configuration := ⟨0, some true⟩
    let greatest : Configuration := ⟨18446744073709551615, some true⟩
    let raised : Origin := .environment (.written "[7,true]") (some paddedMaximum.toUTF8)
    let rescued : Origin := .environment (.written "[0]") (some "7".toUTF8)
    AsksFor paddedMaximum greatest.timeout ∧
      base.inEnvironment (some paddedMaximum.toUTF8) = .ok greatest ∧
      (∃ fault, base.inEnvironment (some "18446744073709551616".toUTF8) =
        .error (.configuration fault)) ∧
      base.inEnvironment (some ⟨#[0xff]⟩) = .error (.configuration .zeroTimeout) ∧
      raised.loaded = .ok greatest ∧ greatest.timeout ≠ 0 ∧
      ∃ fault, rescued.loaded = .error (.configuration fault) := by
  intro base greatest raised rescued
  rcases inEnvironment_verdict base with ⟨accepts, refuses, unset, positive, lost, -⟩
  have read : base.inEnvironment (some paddedMaximum.toUTF8) = .ok greatest := by
    rw [inEnvironment_toUTF8]
    decide +kernel
  have tooGreat : ∀ timeout, ¬ AsksFor "18446744073709551616" timeout := by
    intro timeout asks
    have accepted := (accepts "18446744073709551616" _).mpr ⟨timeout, asks, rfl⟩
    have refused : base.overridden (some "18446744073709551616") =
        .error (.configuration (.malformedOverride "18446744073709551616")) := by decide +kernel
    rw [inEnvironment_toUTF8, refused] at accepted
    cases accepted
  have nothing : ∀ configuration, ¬ GivenBy configuration "[0]" := by
    intro configuration given
    have refused : ofText "[0]" = .error (.configuration .zeroTimeout) := by decide +kernel
    have accepted := ofText_eq_ok_iff.mpr given
    rw [refused] at accepted
    cases accepted
  rcases (accepts paddedMaximum greatest).mp read with ⟨timeout, asks, same⟩
  have timeouts : timeout = greatest.timeout := (Configuration.mk.inj same).1.symm
  have loaded : raised.loaded = .ok greatest := by decide +kernel
  exact ⟨timeouts ▸ asks, read, refuses _ tooGreat, unset _ (by decide +kernel),
    loaded, positive raised greatest loaded, lost rescued "[0]" rfl nothing⟩

end Configuration
end ContentCapture
