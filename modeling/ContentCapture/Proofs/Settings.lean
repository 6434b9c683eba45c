import ContentCapture.Configuration
import ContentCapture.Proofs.Grammar
import ContentCapture.Proofs.RoundTrip

namespace ContentCapture

/-!
# Which texts give a configuration

A text gives a configuration if it is a JSON text of one of two forms.  An object names the
fields, in any order, each at most once and nothing else; what counts is the key that is denoted,
not how it is spelled.  An array has the fields in their order, and what is missing is missing at
its end.  The standard stands for what is missing.

Every other text is refused, and so is a timeout of zero, which is refused only after everything
has been read.  Here both are one condition.
-/

open Json

/-! ## Members -/

namespace Json
namespace Written

/-- The keys of members are read if all of them denote texts. -/
theorem exists_keyed?_of_keys {members : List (List Piece × Written)}
    (denoted : ∀ member ∈ members, (text? member.1).isSome = true) :
    ∃ keyed, keyed? members = some keyed := by
  induction members with
  | nil => exact ⟨[], rfl⟩
  | cons member members inductionHypothesis =>
      rcases member with ⟨pieces, written⟩
      rw [List.forall_mem_cons] at denoted
      rcases Option.isSome_iff_exists.mp denoted.1 with ⟨key, hkey⟩
      rcases inductionHypothesis denoted.2 with ⟨keyed, hkeyed⟩
      exact ⟨(key, written) :: keyed, by simp_all [keyed?]⟩

theorem mem_keyed?_iff {members : List (List Piece × Written)} {keyed : List (String × Written)}
    (read : keyed? members = some keyed) {key : String} {written : Written} :
    (key, written) ∈ keyed ↔ ∃ pieces, (pieces, written) ∈ members ∧ text? pieces = some key := by
  induction members generalizing keyed with
  | nil =>
      cases Option.some_inj.mp read
      simp
  | cons member members inductionHypothesis =>
      rcases member with ⟨pieces, first⟩
      simp only [keyed?, Option.bind_eq_bind, Option.bind_eq_some_iff, Option.pure_def,
        Option.some_inj] at read
      rcases read with ⟨name, hname, rest, hrest, rfl⟩
      rw [List.mem_cons, inductionHypothesis hrest]
      constructor
      · rintro (same | ⟨others, there, named⟩)
        · cases same
          exact ⟨pieces, List.mem_cons_self, hname⟩
        · exact ⟨others, List.mem_cons_of_mem _ there, named⟩
      · rintro ⟨others, there, named⟩
        cases there with
        | head => exact .inl (by rw [Option.some_inj.mp (named.symm.trans hname)])
        | tail _ there => exact .inr ⟨others, there, named⟩

end Written
end Json

namespace Configuration

open Json.Written

/-- A literal that stands for a timeout: it has no sign, no fraction and no exponent, and its
number is positive and fits sixty-four bits. -/
inductive WritesTimeout : Written → UInt64 → Prop
  | intro {whole : List Char} {timeout : UInt64} (same : Text.ofDigits whole = timeout.toNat)
      (positive : 0 < timeout.toNat) :
      WritesTimeout (.number ⟨false, whole, [], none⟩) timeout

/-- What stands for a switch. -/
inductive WritesSwitch : Written → Option Bool → Prop
  | opened : WritesSwitch .null none
  | set (value : Bool) : WritesSwitch (.bool value) (some value)

/-- What members settle for the field of a name: what the member of that name stands for, or the
standard if there is none. -/
inductive Settles {α : Type} (writes : Written → α → Prop) (standard : α) (name : String)
    (members : List (List Piece × Written)) : α → Prop
  | given {pieces : List Piece} {written : Written} {value : α}
      (there : (pieces, written) ∈ members) (named : text? pieces = some name)
      (stands : writes written value) : Settles writes standard name members value
  | missing (absent : ∀ member ∈ members, text? member.1 ≠ some name) :
      Settles writes standard name members standard

/-- The configuration that a JSON text gives. -/
inductive Gives : Written → Configuration → Prop
  | object {members : List (List Piece × Written)} {timeout : UInt64} {switch : Option Bool}
      (known : ∀ member ∈ members, text? member.1 = some "sync_calls_timeout_ms" ∨
        text? member.1 = some "service_explicitly_enabled")
      (distinct : (keys members).Nodup)
      (settlesTimeout : Settles WritesTimeout 5000 "sync_calls_timeout_ms" members timeout)
      (settlesSwitch : Settles WritesSwitch none "service_explicitly_enabled" members switch) :
      Gives (.object members) ⟨timeout, switch⟩
  | standard : Gives (.array []) ⟨5000, none⟩
  | timeout {first : Written} {timeout : UInt64} (writesTimeout : WritesTimeout first timeout) :
      Gives (.array [first]) ⟨timeout, none⟩
  | both {first second : Written} {timeout : UInt64} {switch : Option Bool}
      (writesTimeout : WritesTimeout first timeout) (writesSwitch : WritesSwitch second switch) :
      Gives (.array [first, second]) ⟨timeout, switch⟩

/-- The whole text is one JSON text, and it gives the configuration. -/
def GivenBy (configuration : Configuration) (text : String) : Prop :=
  ∃ written, SpelledBy written text ∧ Gives written configuration

/-! ## Fields -/

theorem word64?_eq_some_iff {written : Written} {word : UInt64} :
    Document.word64? written = some word ↔
      ∃ whole, written = .number ⟨false, whole, [], none⟩ ∧
        Text.ofDigits whole = word.toNat := by
  constructor
  · intro h
    rcases Option.bind_eq_some_iff.mp h with ⟨n, natural, h⟩
    cases written with
    | number literal =>
        rcases literal with ⟨negative, whole, fraction, exponent⟩
        simp only [Document.natural?, Literal.natural?] at natural
        split_ifs at natural with plain within
        cases natural
        split_ifs at h
        cases h
        have form : (fraction = [] ∧ exponent = none) ∧ negative = false := by
          simpa [Literal.isInteger] using plain
        rcases form with ⟨⟨rfl, rfl⟩, rfl⟩
        exact ⟨whole, rfl, (UInt64.toNat_ofNat_of_lt' within).symm⟩
    | null | bool | text | array | object => cases natural
  · rintro ⟨whole, rfl, same⟩
    have within : word.toNat < UInt64.size := word.toNat_lt
    simp [Document.word64?, Document.natural?, Literal.natural?, Literal.isInteger, same, within]

theorem writesTimeout_iff {written : Written} {timeout : UInt64} :
    Document.word64? written = some timeout ∧ timeout ≠ 0 ↔ WritesTimeout written timeout := by
  rw [word64?_eq_some_iff]
  constructor
  · rintro ⟨⟨whole, rfl, same⟩, nonzero⟩
    exact .intro same (Nat.pos_of_ne_zero fun zero => nonzero (UInt64.toNat_inj.mp zero))
  · rintro ⟨same, positive⟩
    refine ⟨⟨_, rfl, same⟩, ?_⟩
    rintro rfl
    exact absurd positive (by decide)

theorem writesSwitch_iff {written : Written} {switch : Option Bool} :
    Document.nullable? Document.bool? written = some switch ↔ WritesSwitch written switch := by
  constructor
  · intro h
    cases written with
    | null =>
        cases h
        exact .opened
    | bool value =>
        cases h
        exact .set value
    | number | text | array | object => cases h
  · rintro (_ | value) <;> rfl

/-! ## Objects -/

/-- Fields that are the members of an object. -/
def Gathers (fields : Fields Written) (members : List (List Piece × Written)) : Prop :=
  ∀ name written, fields name = some written ↔
    ∃ pieces, (pieces, written) ∈ members ∧ text? pieces = some name

theorem gathers_lookup {members : List (List Piece × Written)} {keyed : List (String × Written)}
    (read : keyed? members = some keyed) (distinct : (keyed.map Prod.fst).Nodup) :
    Gathers (fun name => keyed.lookup name) members := fun _ _ =>
  (lookup_eq_some_iff_mem distinct).trans (mem_keyed?_iff read)

/-- If all keys are names, then no key is repeated if no name is. -/
theorem nodup_of_unrepeated {names : List String} {keyed : List (String × Written)}
    (known : ∀ member ∈ keyed, member.1 ∈ names)
    (unrepeated : Fields.unrepeated names keyed = true) : (keyed.map Prod.fst).Nodup := by
  rw [List.nodup_iff_count_le_one]
  intro key
  by_cases there : key ∈ keyed.map Prod.fst
  · rcases List.mem_map.mp there with ⟨member, hmember, rfl⟩
    have once := List.all_eq_true.mp unrepeated member.1 (known member hmember)
    rw [List.count, List.countP_map, List.countP_eq_length_filter]
    simpa [Function.comp_def] using once
  · rw [List.count_eq_zero_of_not_mem there]
    exact Nat.zero_le 1

theorem of_readClosed?_object {names : List String} {members : List (List Piece × Written)}
    {fields : Fields Written}
    (h : Fields.readClosed? names (.object members : Written) = some fields) :
    (∀ member ∈ members, ∃ name ∈ names, text? member.1 = some name) ∧
      (keys members).Nodup ∧ Gathers fields members := by
  rw [Fields.readClosed?] at h
  cases read : keyed? members with
  | none => simp [Document.members?, read, Document.elements?] at h
  | some keyed =>
      simp only [Document.members?, read] at h
      split_ifs at h with closed
      have known : ∀ member ∈ keyed, member.1 ∈ names := by simpa using closed
      rw [Fields.ofMembers?] at h
      split_ifs at h with unrepeated
      cases h
      have distinct := nodup_of_unrepeated known unrepeated
      refine ⟨fun member there => ?_, ?_, gathers_lookup read distinct⟩
      · have listed : text? member.1 ∈ keys members := List.mem_map.mpr ⟨member, there, rfl⟩
        rw [keys_eq_of_keyed? read] at listed
        rcases List.mem_map.mp listed with ⟨named, there, same⟩
        exact ⟨named.1, known named there, same.symm⟩
      · rw [keys_eq_of_keyed? read, ← Function.comp_def, ← List.map_map]
        exact distinct.map (Option.some_injective String)

theorem exists_readClosed?_object {names : List String}
    {members : List (List Piece × Written)}
    (known : ∀ member ∈ members, ∃ name ∈ names, text? member.1 = some name)
    (distinct : (keys members).Nodup) :
    ∃ fields, Fields.readClosed? names (.object members : Written) = some fields ∧
      Gathers fields members := by
  have denoted : ∀ member ∈ members, (text? member.1).isSome = true := by
    intro member there
    rcases known member there with ⟨name, -, named⟩
    simp [named]
  rcases exists_keyed?_of_keys denoted with ⟨keyed, read⟩
  have alsoDistinct := nodup_of_keyed? read distinct
  have closed : (keyed.all fun member => names.contains member.1) = true := by
    rw [List.all_eq_true]
    rintro ⟨key, written⟩ there
    rcases (mem_keyed?_iff read).mp there with ⟨pieces, there, named⟩
    rcases known _ there with ⟨name, member, also⟩
    simpa [Option.some_inj.mp (named.symm.trans also)] using member
  refine ⟨fun name => keyed.lookup name, ?_, gathers_lookup read alsoDistinct⟩
  simp only [Fields.readClosed?, Document.members?, read, closed, if_true, Fields.ofMembers?,
    Fields.unrepeated_of_distinct alsoDistinct]

/-- What is read of a field is what the members settle for it. -/
theorem settles_iff {fields : Fields Written} {members : List (List Piece × Written)}
    (gathers : Gathers fields members) {α : Type} {writes : Written → α → Prop} {standard : α}
    {read : Written → Option α} {admitted : α → Prop} (hstandard : admitted standard)
    (same : ∀ {written value}, read written = some value ∧ admitted value ↔ writes written value)
    {name : String} {value : α} :
    fields.optional name standard read = some value ∧ admitted value ↔
      Settles writes standard name members value := by
  rw [Fields.optional]
  constructor
  · rintro ⟨h, good⟩
    cases found : fields name with
    | none =>
        simp only [found] at h
        cases h
        refine .missing fun member there named => ?_
        have also := (gathers name member.2).mpr ⟨member.1, there, named⟩
        rw [found] at also
        cases also
    | some written =>
        simp only [found] at h
        rcases (gathers name written).mp found with ⟨pieces, there, named⟩
        exact .given there named (same.mp ⟨h, good⟩)
  · rintro (⟨there, named, stands⟩ | absent)
    · rw [(gathers name _).mpr ⟨_, there, named⟩]
      exact same.mpr stands
    · have found : fields name = none := by
        rw [Option.eq_none_iff_forall_ne_some]
        intro written found
        rcases (gathers name written).mp found with ⟨pieces, there, named⟩
        exact absent _ there named
      rw [found]
      exact ⟨rfl, hstandard⟩

/-! ## Configurations -/

theorem decode?_eq_some_iff {written : Written} {configuration : Configuration} :
    (WireForm.decode? written : Option Configuration) = some configuration ↔
      ∃ fields : Fields Written, Fields.readClosed? fieldNames written = some fields ∧
        fields.optional "sync_calls_timeout_ms" 5000 Document.word64? =
          some configuration.timeout ∧
        fields.optional "service_explicitly_enabled" none (Document.nullable? Document.bool?) =
          some configuration.explicitlyEnabled := by
  constructor
  · intro h
    rcases Option.bind_eq_some_iff.mp h with ⟨fields, found, h⟩
    rcases Option.bind_eq_some_iff.mp h with ⟨timeout, hTimeout, h⟩
    rcases Option.bind_eq_some_iff.mp h with ⟨switch, hSwitch, same⟩
    cases same
    exact ⟨fields, found, hTimeout, hSwitch⟩
  · rintro ⟨fields, found, hTimeout, hSwitch⟩
    refine Option.bind_eq_some_iff.mpr ⟨fields, found, ?_⟩
    refine Option.bind_eq_some_iff.mpr ⟨_, hTimeout, ?_⟩
    exact Option.bind_eq_some_iff.mpr ⟨_, hSwitch, rfl⟩

theorem settles_timeout_iff {fields : Fields Written} {members : List (List Piece × Written)}
    (gathers : Gathers fields members) {timeout : UInt64} :
    fields.optional "sync_calls_timeout_ms" 5000 Document.word64? = some timeout ∧ timeout ≠ 0 ↔
      Settles WritesTimeout 5000 "sync_calls_timeout_ms" members timeout :=
  settles_iff gathers (by decide) writesTimeout_iff

theorem settles_switch_iff {fields : Fields Written} {members : List (List Piece × Written)}
    (gathers : Gathers fields members) {switch : Option Bool} :
    fields.optional "service_explicitly_enabled" none (Document.nullable? Document.bool?) =
        some switch ↔
      Settles WritesSwitch none "service_explicitly_enabled" members switch := by
  have same : ∀ {written : Written} {value : Option Bool},
      Document.nullable? Document.bool? written = some value ∧ True ↔ WritesSwitch written value :=
    (and_iff_left trivial).trans writesSwitch_iff
  exact (and_iff_left trivial).symm.trans (settles_iff gathers trivial same)

theorem gives_object_iff {members : List (List Piece × Written)}
    {configuration : Configuration} :
    (WireForm.decode? (.object members : Written) : Option Configuration) = some configuration ∧
        configuration.timeout ≠ 0 ↔
      Gives (.object members) configuration := by
  rw [decode?_eq_some_iff]
  constructor
  · rintro ⟨⟨fields, found, hTimeout, hSwitch⟩, nonzero⟩
    rcases of_readClosed?_object found with ⟨known, distinct, gathers⟩
    refine .object (fun member there => ?_) distinct
      ((settles_timeout_iff gathers).mp ⟨hTimeout, nonzero⟩)
      ((settles_switch_iff gathers).mp hSwitch)
    rcases known member there with ⟨name, listed, named⟩
    simpa [named, fieldNames] using listed
  · rintro ⟨known, distinct, settlesTimeout, settlesSwitch⟩
    have listed : ∀ member ∈ members, ∃ name ∈ fieldNames, text? member.1 = some name := by
      intro member there
      rcases known member there with named | named
      · exact ⟨_, by simp [fieldNames], named⟩
      · exact ⟨_, by simp [fieldNames], named⟩
    rcases exists_readClosed?_object listed distinct with ⟨fields, found, gathers⟩
    have hTimeout := (settles_timeout_iff gathers).mpr settlesTimeout
    exact ⟨⟨fields, found, hTimeout.1, (settles_switch_iff gathers).mpr settlesSwitch⟩,
      hTimeout.2⟩

theorem gives_array_iff {elements : List Written} {configuration : Configuration} :
    (WireForm.decode? (.array elements : Written) : Option Configuration) = some configuration ∧
        configuration.timeout ≠ 0 ↔
      Gives (.array elements) configuration := by
  have read : Fields.readClosed? fieldNames (.array elements : Written) =
      Fields.ofElements? fieldNames elements := rfl
  rw [decode?_eq_some_iff, read]
  rcases configuration with ⟨timeout, switch⟩
  match elements with
  | [] =>
      constructor
      · rintro ⟨⟨fields, found, hTimeout, hSwitch⟩, -⟩
        cases found
        cases hTimeout
        cases hSwitch
        exact .standard
      · intro h
        cases h
        exact ⟨⟨_, rfl, rfl, rfl⟩, by decide⟩
  | [first] =>
      constructor
      · rintro ⟨⟨fields, found, hTimeout, hSwitch⟩, nonzero⟩
        cases found
        cases hSwitch
        exact .timeout (writesTimeout_iff.mp ⟨hTimeout, nonzero⟩)
      · rintro ⟨⟩
        next writesTimeout =>
          rcases writesTimeout_iff.mpr writesTimeout with ⟨hTimeout, nonzero⟩
          exact ⟨⟨_, rfl, hTimeout, rfl⟩, nonzero⟩
  | [first, second] =>
      constructor
      · rintro ⟨⟨fields, found, hTimeout, hSwitch⟩, nonzero⟩
        cases found
        exact .both (writesTimeout_iff.mp ⟨hTimeout, nonzero⟩)
          (writesSwitch_iff.mp hSwitch)
      · rintro ⟨⟩
        next writesTimeout writesSwitch =>
          rcases writesTimeout_iff.mpr writesTimeout with ⟨hTimeout, nonzero⟩
          exact ⟨⟨_, rfl, hTimeout, writesSwitch_iff.mpr writesSwitch⟩, nonzero⟩
  | first :: second :: third :: others =>
      constructor
      · rintro ⟨⟨fields, found, -⟩, -⟩
        simp [Fields.ofElements?, fieldNames] at found
      · rintro ⟨⟩

/-- The configuration that a JSON text gives is read from it, and has a timeout. -/
theorem gives_iff {written : Written} {configuration : Configuration} :
    (WireForm.decode? written : Option Configuration) = some configuration ∧
        configuration.timeout ≠ 0 ↔ Gives written configuration := by
  cases written with
  | array elements => exact gives_array_iff
  | object members => exact gives_object_iff
  | null | bool value | number literal | text pieces =>
      constructor
      · rintro ⟨h, -⟩
        cases h
      · rintro ⟨⟩

theorem ofText_eq_ok_iff_decode? {text : String} {configuration : Configuration} :
    ofText text = .ok configuration ↔
      WireForm.ofText? text = some configuration ∧ configuration.timeout ≠ 0 := by
  rw [ofText]
  cases WireForm.ofText? (α := Configuration) text with
  | none => simp
  | some found =>
      by_cases zero : found.timeout = 0
      · have refused : ∀ other, found = other → other.timeout = 0 := by
          rintro _ rfl
          exact zero
        simpa [validated, zero] using refused configuration
      · have admitted : ∀ other, found = other → ¬ other.timeout = 0 := by
          rintro _ rfl
          exact zero
        simpa [validated, zero] using admitted configuration

/-- What is refused is refused as a configuration. -/
theorem exists_fault_of_ofText {text : String} {failure : Failure}
    (refused : ofText text = .error failure) : ∃ fault, failure = .configuration fault := by
  rw [ofText] at refused
  split at refused
  · cases refused
    exact ⟨_, rfl⟩
  · rw [validated] at refused
    split_ifs at refused
    cases refused
    exact ⟨_, rfl⟩

theorem ofText_eq_ok_iff {text : String} {configuration : Configuration} :
    ofText text = .ok configuration ↔ GivenBy configuration text := by
  rw [ofText_eq_ok_iff_decode?]
  constructor
  · rintro ⟨h, nonzero⟩
    rcases Option.bind_eq_some_iff.mp h with ⟨written, formed, decoded⟩
    exact ⟨written, ofText?_eq_some_iff.mp formed, gives_iff.mp ⟨decoded, nonzero⟩⟩
  · rintro ⟨written, spelled, gives⟩
    rcases gives_iff.mpr gives with ⟨decoded, nonzero⟩
    exact ⟨Option.bind_eq_some_iff.mpr ⟨written, ofText?_eq_some_iff.mpr spelled, decoded⟩,
      nonzero⟩

/-- A text that gives no configuration is refused. -/
theorem exists_fault_of_not_givenBy {text : String}
    (nothing : ∀ configuration, ¬ GivenBy configuration text) :
    ∃ fault, ofText text = .error (.configuration fault) := by
  cases verdict : ofText text with
  | ok configuration => exact absurd (ofText_eq_ok_iff.mp verdict) (nothing configuration)
  | error failure =>
      rcases exists_fault_of_ofText verdict with ⟨fault, rfl⟩
      exact ⟨fault, rfl⟩

/-- A text gives the configuration that its grammar says, which is then read again from the text
that it is written as; and a text that gives none is refused. -/
theorem ofText_verdict (text : String) :
    (∀ configuration, ofText text = .ok configuration ↔ GivenBy configuration text) ∧
      (∀ configuration, GivenBy configuration text →
        ofText (WireForm.toText configuration) = .ok configuration) ∧
      ((∀ configuration, ¬ GivenBy configuration text) →
        ∃ fault, ofText text = .error (.configuration fault)) := by
  refine ⟨fun configuration => ofText_eq_ok_iff, fun configuration given => ?_,
    fun nothing => exists_fault_of_not_givenBy nothing⟩
  rcases ofText_eq_ok_iff_decode?.mp (ofText_eq_ok_iff.mpr given) with ⟨-, nonzero⟩
  exact ofText_eq_ok_iff_decode?.mpr ⟨WireForm.ofText?_toText configuration, nonzero⟩

/-- The second field in front of the first, its key spelled with an escape. -/
def escapedKey : String :=
  "\n\x7b \"service_explicitly_\\u0065nabled\" : null, \"sync_calls_timeout_ms\":250 \x7d"

theorem ofText_verdict_escapedKey :
    GivenBy ⟨250, none⟩ escapedKey ∧
      ofText (WireForm.toText (⟨250, none⟩ : Configuration)) = .ok ⟨250, none⟩ ∧
      (∀ configuration, ¬ GivenBy configuration "[-0]") ∧
      ∃ fault, ofText "[-0]" = .error (.configuration fault) := by
  rcases ofText_verdict escapedKey with ⟨verdict, again, -⟩
  rcases ofText_verdict "[-0]" with ⟨negative, -, refused⟩
  have read : ofText escapedKey = .ok ⟨250, none⟩ := by decide +kernel
  have undecodable : ofText "[-0]" = .error (.configuration .undecodable) := by decide +kernel
  have given : GivenBy ⟨250, none⟩ escapedKey := (verdict _).mp read
  have nothing : ∀ configuration, ¬ GivenBy configuration "[-0]" := by
    intro configuration given
    have accepted := (negative configuration).mpr given
    rw [undecodable] at accepted
    cases accepted
  exact ⟨given, again _ given, nothing, refused nothing⟩

end Configuration
end ContentCapture
