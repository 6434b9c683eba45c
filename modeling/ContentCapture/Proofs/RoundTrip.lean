import ContentCapture.Proofs.Finality
import ContentCapture.Proofs.Reading
import ContentCapture.Proofs.Spelling
import ContentCapture.Reply.Rendezvous

namespace ContentCapture

/-!
# What is written is read back

For every wire type it is shown once that its form fits and that the value is read from the form.
All else follows: the form is the value of its own compact spelling, that spelling repeats no
key, and a text without repeated keys reads like its value.  A payload that crosses a reply
channel is a form, and whoever waits for it reads the form.
-/

open Json

/-- A type whose values are read from their forms, which are not null and nest three levels deep
at most. -/
class Faithful (α : Type) [WireForm α] : Prop where
  fits : ∀ value : α, Value.Fits 3 (WireForm.encode value)
  isNull_encode : ∀ value : α, (WireForm.encode value).isNull = false
  decode?_encode : ∀ value : α, WireForm.decode? (WireForm.encode value) = some value

namespace Json

theorem Value.Fits.mono {levels : Nat} {value : Value} (fits : Value.Fits levels value) :
    ∀ {more : Nat}, levels ≤ more → Value.Fits more value := by
  induction fits with
  | null => exact fun _ => .null _
  | bool _ value => exact fun _ => .bool _ value
  | number _ formed finite => exact fun _ => .number _ formed finite
  | text _ value => exact fun _ => .text _ value
  | array fit mono =>
      intro more within
      obtain ⟨more, rfl⟩ : ∃ less, more = less + 1 := ⟨more - 1, by omega⟩
      exact .array fun element there => mono element there (Nat.le_of_succ_le_succ within)
  | object distinct fit mono =>
      intro more within
      obtain ⟨more, rfl⟩ : ∃ less, more = less + 1 := ⟨more - 1, by omega⟩
      exact .object distinct fun member there => mono member there (Nat.le_of_succ_le_succ within)

theorem Value.fits_ofNat (levels : Nat) {n : Nat} (within : n < UInt64.size) :
    Value.Fits levels (.ofNat n) :=
  .number levels (Literal.wellFormed_ofNat n) (Literal.isFinite_ofNat within)

/-- A numeral is read as the number. -/
theorem Literal.natural?_ofNat {n : Nat} (within : n < UInt64.size) :
    (Literal.ofNat n).natural? = some n := by
  simp [Literal.natural?, Literal.isInteger, Literal.ofNat, Text.ofDigits_digits, within]

end Json

/-! ## Scalars, options and lists -/

theorem fits_word32 (levels : Nat) (word : UInt32) :
    Value.Fits levels (WireForm.encode word) :=
  Value.fits_ofNat levels (Nat.lt_trans word.toNat_lt (by decide))

theorem fits_word64 (levels : Nat) (word : UInt64) :
    Value.Fits levels (WireForm.encode word) :=
  Value.fits_ofNat levels word.toNat_lt

theorem fits_option {α : Type} [WireForm α] {levels : Nat}
    (fits : ∀ value : α, Value.Fits levels (WireForm.encode value)) (value : Option α) :
    Value.Fits levels (WireForm.encode value) := by
  cases value with
  | none => exact .null levels
  | some value => exact fits value

theorem fits_list {α : Type} [WireForm α] {levels : Nat}
    (fits : ∀ value : α, Value.Fits levels (WireForm.encode value)) (values : List α) :
    Value.Fits (levels + 1) (WireForm.encode values) :=
  .array (List.forall_mem_map.mpr fun value _ => fits value)

instance : Faithful UInt32 where
  fits := fits_word32 3
  isNull_encode _ := rfl
  decode?_encode word := by
    have small : word.toNat < UInt32.size := word.toNat_lt
    have natural := Literal.natural?_ofNat (Nat.lt_trans small (by decide))
    simp only [WireForm.decode?, WireForm.encode, Value.ofNat, Document.word32?,
      Document.natural?, natural, Option.bind_eq_bind, Option.bind_some, if_pos small,
      UInt32.ofNat_toNat]

instance : Faithful UInt64 where
  fits := fits_word64 3
  isNull_encode _ := rfl
  decode?_encode word := by
    have within : word.toNat < UInt64.size := word.toNat_lt
    have natural := Literal.natural?_ofNat within
    simp only [WireForm.decode?, WireForm.encode, Value.ofNat, Document.word64?,
      Document.natural?, natural, Option.bind_eq_bind, Option.bind_some, if_pos within,
      UInt64.ofNat_toNat]

instance : Faithful String where
  fits value := .text 3 value
  isNull_encode _ := rfl
  decode?_encode _ := rfl

instance : Faithful Bool where
  fits value := .bool 3 value
  isNull_encode _ := rfl
  decode?_encode _ := rfl

/-- A value that may be missing is read as it was written. -/
theorem decode?_encode_option {α : Type} [WireForm α] [Faithful α] (value : Option α) :
    WireForm.decode? (WireForm.encode value) = some value := by
  cases value with
  | none => rfl
  | some value =>
      have solid : Document.isNull (WireForm.encode value) = false := Faithful.isNull_encode value
      have form : WireForm.encode (some value) = WireForm.encode value := rfl
      rw [form]
      simp only [WireForm.decode?, Document.nullable?, solid, Faithful.decode?_encode value]
      rfl

/-- A list is read as it was written. -/
theorem decode?_encode_list {α : Type} [WireForm α] [Faithful α] (values : List α) :
    WireForm.decode? (WireForm.encode values) = some values := by
  change (values.map WireForm.encode).mapM WireForm.decode? = some values
  induction values with
  | nil => rfl
  | cons value values inductionHypothesis =>
      rw [List.map_cons, List.mapM_cons, Faithful.decode?_encode, inductionHypothesis]
      rfl

instance : Faithful CaptureFlags where
  fits flags := fits_word32 3 flags.bits
  isNull_encode _ := rfl
  decode?_encode flags := congrArg (Option.map CaptureFlags.mk) (Faithful.decode?_encode flags.bits)

instance : Faithful SessionState where
  fits state := fits_word32 3 state.bits
  isNull_encode _ := rfl
  decode?_encode state := congrArg (Option.map SessionState.mk) (Faithful.decode?_encode state.bits)

instance : Faithful SessionId where
  fits id := fits_word64 3 id.value
  isNull_encode _ := rfl
  decode?_encode id := congrArg (Option.map SessionId.mk) (Faithful.decode?_encode id.value)

instance : Faithful ActivityToken where
  fits token := .text 3 token.text
  isNull_encode _ := rfl
  decode?_encode _ := rfl

instance : Faithful LocusId where
  fits id := .text 3 id.text
  isNull_encode _ := rfl
  decode?_encode _ := rfl

instance : Faithful FlushReason where
  fits reason := .text 3 reason.wireName
  isNull_encode _ := rfl
  decode?_encode reason := FlushReason.ofWireName?_wireName reason

/-! ## Records -/

theorem fits_componentName (levels : Nat) (name : ComponentName) :
    Value.Fits (levels + 1) (WireForm.encode name) := by
  refine .object (show ComponentName.fieldNames.Nodup by decide) ?_
  simp only [List.forall_mem_cons]
  exact ⟨.text _ _, .text _ _, by simp⟩

instance : Faithful ComponentName where
  fits := fits_componentName 2
  isNull_encode _ := rfl
  decode?_encode _ := rfl

theorem fits_locusRemoval (levels : Nat) (removal : LocusRemoval) :
    Value.Fits (levels + 1) (WireForm.encode removal) := by
  refine .object (show LocusRemoval.fieldNames.Nodup by decide) ?_
  simp only [List.forall_mem_cons]
  exact ⟨.text _ _, .bool _ _, by simp⟩

instance : Faithful LocusRemoval where
  fits := fits_locusRemoval 2
  isNull_encode _ := rfl
  decode?_encode _ := rfl

instance : Faithful RemovalRequest where
  fits request := by
    rcases request with ⟨package, everything, loci⟩
    cases loci with
    | nil =>
        refine .object (show ["packageName", "forEverything"].Nodup by decide) ?_
        simp only [List.isEmpty_nil, if_true, List.append_nil, List.forall_mem_cons]
        exact ⟨.text _ _, .bool _ _, by simp⟩
    | cons locus loci =>
        refine .object (show RemovalRequest.fieldNames.Nodup by decide) ?_
        simp only [List.isEmpty_cons, Bool.false_eq_true, if_false, List.cons_append,
          List.nil_append, List.forall_mem_cons]
        exact ⟨.text _ _, .bool _ _, fits_list (fits_locusRemoval 0) _, by simp⟩
  isNull_encode _ := rfl
  decode?_encode request := by
    rcases request with ⟨package, everything, loci⟩
    cases loci with
    | nil => rfl
    | cons locus loci =>
        have form : WireForm.decode? (WireForm.encode
            (⟨package, everything, locus :: loci⟩ : RemovalRequest)) = (do
          let loci ← WireForm.decode? (WireForm.encode (locus :: loci))
          return (⟨package, everything, loci⟩ : RemovalRequest)) := rfl
        rw [form, decode?_encode_list]
        rfl

instance : Faithful SessionStart where
  fits start := by
    refine .object (show SessionStart.fieldNames.Nodup by decide) ?_
    simp only [List.forall_mem_cons]
    exact ⟨fits_word64 _ _, .text _ _, fits_componentName _ _, fits_word32 _ _, by simp⟩
  isNull_encode _ := rfl
  decode?_encode start := by
    have form : WireForm.decode? (WireForm.encode start) = (do
        let session ← WireForm.decode? (WireForm.encode start.session)
        let flags ← WireForm.decode? (WireForm.encode start.flags)
        return (⟨session, start.token, start.component, flags⟩ : SessionStart)) := rfl
    rw [form, Faithful.decode?_encode, Faithful.decode?_encode]
    rfl

instance : Faithful Configuration where
  fits configuration := by
    refine .object (show Configuration.fieldNames.Nodup by decide) ?_
    simp only [List.forall_mem_cons]
    exact ⟨fits_word64 _ _, fits_option (.bool _) _, by simp⟩
  isNull_encode _ := rfl
  decode?_encode configuration := by
    have form : WireForm.decode? (WireForm.encode configuration) = (do
        let timeout ← WireForm.decode? (WireForm.encode configuration.timeout)
        let explicitlyEnabled ← WireForm.decode? (WireForm.encode configuration.explicitlyEnabled)
        return ({ timeout, explicitlyEnabled } : Configuration)) := rfl
    rw [form, Faithful.decode?_encode, decode?_encode_option]
    rfl

/-- The disabled packages are read in the order in which they are written, whichever that is. -/
instance : Faithful LocalConfiguration where
  fits configuration := by
    refine .object (show LocalConfiguration.fieldNames.Nodup by decide) ?_
    simp only [List.forall_mem_cons]
    exact ⟨fits_componentName _ _, .bool _ _, fits_list (.text _) _, fits_option (.bool _) _,
      .bool _ _, by simp⟩
  isNull_encode _ := rfl
  decode?_encode configuration := by
    have form : WireForm.decode? (WireForm.encode configuration) = (do
        let disabledPackages ← WireForm.decode? (WireForm.encode configuration.disabledPackages)
        let explicitlyEnabled ← WireForm.decode? (WireForm.encode configuration.explicitlyEnabled)
        return ({ configuration with disabledPackages, explicitlyEnabled } :
          LocalConfiguration)) := rfl
    rw [form, decode?_encode_list, decode?_encode_option]
    rfl

/-! ## Events -/

theorem fits_eventKind (levels : Nat) (kind : EventKind) :
    ∀ member ∈ kind.members, Value.Fits (levels + 1) member.2 := by
  cases kind with
  | started token component =>
      simp only [EventKind.members, List.forall_mem_cons]
      exact ⟨.text _ _, .text _ _, fits_componentName _ _, by simp⟩
  | finished =>
      simp only [EventKind.members, List.forall_mem_cons]
      exact ⟨.text _ _, by simp⟩

instance : Faithful EventKind where
  fits kind := by
    refine .object ?_ (fits_eventKind 1 kind)
    cases kind with
    | started token component => exact show ["type", "token", "component"].Nodup by decide
    | finished => exact show ["type"].Nodup by decide
  isNull_encode _ := rfl
  decode?_encode kind := by
    cases kind <;> rfl

instance : Faithful CaptureEvent where
  fits event := by
    refine .object ?_ ?_
    · rcases event with ⟨session, time, token | _⟩
      · exact show ["session_id", "event_time_ms", "type", "token", "component"].Nodup by decide
      · exact show ["session_id", "event_time_ms", "type"].Nodup by decide
    · simp only [List.forall_mem_append, List.forall_mem_cons]
      exact ⟨⟨fits_word64 _ _, fits_word64 _ _, by simp⟩, fits_eventKind _ event.kind⟩
  isNull_encode _ := rfl
  decode?_encode event := by
    have form : WireForm.decode? (WireForm.encode event) = (do
        let session ← WireForm.decode? (WireForm.encode event.session)
        let time ← WireForm.decode? (WireForm.encode event.time)
        return (⟨session, time, event.kind⟩ : CaptureEvent)) := by
      rcases event with ⟨session, time, kind⟩
      cases kind <;> rfl
    rw [form, Faithful.decode?_encode, Faithful.decode?_encode]
    rfl

/-! ## Texts -/

namespace WireForm

theorem fits_encode {α : Type} [WireForm α] [Faithful α] (value : α) :
    Value.Fits Written.nestingLimit (encode value) :=
  (Faithful.fits value).mono (by decide)

/-- A value is read from the text that it is written as. -/
theorem ofText?_toText {α : Type} [WireForm α] [Impartial α] [Faithful α] (value : α) :
    ofText? (toText value) = some value := by
  have formed := Value.ofText?_compact (fits_encode value)
  have alike : (decode? (encode value).spelling : Option α) = decode? (encode value) :=
    Written.decode?_eq_of_value? (Value.unrepeated_spelling (fits_encode value))
      (Value.value?_spelling (fits_encode value))
  simp [ofText?, toText, formed, alike, Faithful.decode?_encode]

/-- It is also read from the value that this text denotes, which is its form. -/
theorem ofTextValue?_toText {α : Type} [WireForm α] [Faithful α] (value : α) :
    ofTextValue? (toText value) = some value := by
  have formed := Value.ofText?_compact (fits_encode value)
  have valued : Value.ofText? (toText value) = some (encode value) := by
    simp [Value.ofText?, toText, formed, Value.value?_spelling (fits_encode value)]
  simp [ofTextValue?, valued, Faithful.decode?_encode]

end WireForm

/-! ## Reply channels -/

namespace Rendezvous

/-- Both ends of a channel are held, and nothing has been decided. -/
structure IsOpen (rendezvous : Rendezvous) (id : ChannelId) : Prop where
  sink : rendezvous.sinkHeld id = true
  receiver : rendezvous.receiverHeld id = true
  undecided : ∃ channel, rendezvous.exchange.channel? id = some channel ∧ channel.outcome = none

/-- A payload can be sent, and a wait for a value of a type then ends with that result, and with
the number for an acknowledgement. -/
def Delivers (rendezvous : Rendezvous) (id : ChannelId) (payload : Value) {α : Type} [WireForm α]
    (result : Option α) : Prop :=
  ∃ sent channel later, rendezvous.send? id (.complete (.ofPayload payload)) = some sent ∧
    sent.await? id = some (channel, later) ∧ channel.concludePayload α = .ok result ∧
      channel.concludeCode = .ok ResultCode.affirmed.code

/-- An open channel can be completed, and the receiver may still wait. -/
theorem exists_sent {rendezvous : Rendezvous} {id : ChannelId} (opened : rendezvous.IsOpen id)
    (outcome : Outcome) :
    ∃ sent channel, rendezvous.send? id (.complete outcome) = some sent ∧
      sent.receiverHeld id = true ∧ sent.exchange.channel? id = some channel ∧
        channel.outcome = some outcome := by
  rcases opened.undecided with ⟨channel, there, undecided⟩
  let sent := ({ rendezvous with
    exchange := rendezvous.exchange.answer id (.complete outcome) } : Rendezvous).releaseSink id
  refine ⟨sent, channel.complete outcome, ?_, ?_, ?_, ?_⟩
  · simp [send?, opened.sink, sent]
  · have held := opened.receiver
    simp only [receiverHeld, sent, releaseSink, List.getElem?_modify] at held ⊢
    cases hholding : rendezvous.holdings[id]? <;> simp_all
  · simp [sent, releaseSink, Exchange.channel?_answer, there, Channel.answered]
  · simp [Channel.complete, undecided]

/-- Who waits for a channel that has been completed gets the outcome. -/
theorem exists_awaited {rendezvous : Rendezvous} {id : ChannelId}
    (held : rendezvous.receiverHeld id = true) {channel : Channel}
    (there : rendezvous.exchange.channel? id = some channel) {outcome : Outcome}
    (decided : channel.outcome = some outcome) :
    ∃ awaited later, rendezvous.await? id = some (awaited, later) ∧
      awaited.conclude = outcome.resolve := by
  let awaited := channel.reached (channel.waitEnd rendezvous.exchange.now)
  have reached : (rendezvous.exchange.await id).channel? id = some awaited := by
    simp [Exchange.await, there, Exchange.channel?_reached, awaited]
  have received : ({ rendezvous with exchange := rendezvous.exchange.await id } :
      Rendezvous).received? id = some awaited :=
    (if_pos held).trans reached
  refine ⟨awaited, _, by rw [await?, received]; rfl, ?_⟩
  simp [awaited, Channel.conclude, Channel.outcome_reached _ decided]

/-- What the payload is read as is what the receiver gets. -/
theorem delivers_of_payloadAs {rendezvous : Rendezvous} {id : ChannelId}
    (opened : rendezvous.IsOpen id) {payload : Value} {α : Type} [WireForm α] {result : Option α}
    (read : Reply.payloadAs α ⟨ResultCode.affirmed.code, some payload⟩ = .ok result) :
    rendezvous.Delivers id payload result := by
  rcases exists_sent opened (.ofPayload payload) with ⟨sent, channel, hsent, held, there, decided⟩
  rcases exists_awaited held there decided with ⟨awaited, later, hawaited, ends⟩
  refine ⟨sent, awaited, later, hsent, hawaited, ?_, ?_⟩
  · rw [Channel.concludePayload, ends]
    exact read
  · rw [Channel.concludeCode, ends]
    rfl

end Rendezvous

/-- A payload that may be missing is read as it was written. -/
theorem Reply.payloadAs_encode {α : Type} [WireForm α] [Faithful α] (code : Int32)
    (value : Option α) : Reply.payloadAs α ⟨code, some (WireForm.encode value)⟩ = .ok value := by
  cases value with
  | none => rfl
  | some value =>
      have form : (WireForm.encode (some value) : Json.Value) = WireForm.encode value := rfl
      simp [Reply.payloadAs, form, Faithful.isNull_encode, Faithful.decode?_encode]

namespace WireType

instance (type : WireType) : Faithful type.Carrier :=
  match type with
  | .componentName => inferInstanceAs (Faithful ComponentName)
  | .activityToken => inferInstanceAs (Faithful ActivityToken)
  | .locusId => inferInstanceAs (Faithful LocusId)
  | .locusRemoval => inferInstanceAs (Faithful LocusRemoval)
  | .removalRequest => inferInstanceAs (Faithful RemovalRequest)
  | .sessionId => inferInstanceAs (Faithful SessionId)
  | .flushReason => inferInstanceAs (Faithful FlushReason)
  | .eventKind => inferInstanceAs (Faithful EventKind)
  | .captureEvent => inferInstanceAs (Faithful CaptureEvent)
  | .sessionStart => inferInstanceAs (Faithful SessionStart)
  | .captureFlags => inferInstanceAs (Faithful CaptureFlags)
  | .sessionState => inferInstanceAs (Faithful SessionState)
  | .configuration => inferInstanceAs (Faithful Configuration)
  | .localConfiguration => inferInstanceAs (Faithful LocalConfiguration)

/-- A value of a wire type is read from its compact text, directly and through the value that the
text denotes, and from its form.  Sent as the payload of a reply, it is what the receiver gets, with
the number for an acknowledgement; and whatever is sent whose form is null, the receiver gets
nothing. -/
theorem round_trip (type : WireType) (value : type.Carrier) :
    WireForm.ofText? (WireForm.toText value) = some value ∧
      WireForm.ofTextValue? (WireForm.toText value) = some value ∧
      WireForm.decode? (WireForm.encode value) = some value ∧
      ∀ (rendezvous : Rendezvous) id, rendezvous.IsOpen id →
        rendezvous.Delivers id (WireForm.encode value) (some value) ∧
          ∀ (α : Type) [WireForm α] (sent : α), (WireForm.encode sent).isNull = true →
            rendezvous.Delivers id (WireForm.encode sent) (none : Option type.Carrier) := by
  refine ⟨WireForm.ofText?_toText value, WireForm.ofTextValue?_toText value,
    Faithful.decode?_encode value, fun rendezvous id opened => ⟨?_, ?_⟩⟩
  · exact Rendezvous.delivers_of_payloadAs opened (Reply.payloadAs_encode _ (some value))
  · intro α _ sent null
    exact Rendezvous.delivers_of_payloadAs opened (by simp [Reply.payloadAs, null])

/-- A start with the largest number, no time, a token of characters that have to be escaped in one
way or another, and characters outside the basic plane. -/
def awkwardStart : CaptureEvent :=
  ⟨⟨18446744073709551615⟩, 0, .started ⟨"\"\\/\x00\x1f\n\x7f😀"⟩ ⟨"", "\ta.é"⟩⟩

theorem round_trip_awkwardStart :
    let pair := (({} : Rendezvous).opened ⟨0⟩).opened ⟨7⟩
    pair.IsOpen 1 ∧ WireForm.ofText? (WireForm.toText awkwardStart) = some awkwardStart ∧
      pair.Delivers 1 (WireForm.encode awkwardStart) (some awkwardStart) ∧
      (WireForm.encode (none : Option CaptureEvent)).isNull = true ∧
      pair.Delivers 1 (WireForm.encode (none : Option CaptureEvent))
        (none : Option CaptureEvent) := by
  intro pair
  have opened : pair.IsOpen 1 := ⟨rfl, rfl, _, rfl, rfl⟩
  rcases round_trip .captureEvent awkwardStart with ⟨fromText, -, -, replies⟩
  rcases replies pair 1 opened with ⟨delivered, nothing⟩
  exact ⟨opened, fromText, delivered, rfl, nothing (Option CaptureEvent) none rfl⟩

end WireType
end ContentCapture
