import ContentCapture.Proofs.Concord

namespace ContentCapture

/-!
# Two ways of reading, and the order of members

A text in which no object repeats a key, and which denotes a value, reads like that value.  So a
wire type is read from the text directly exactly if it is read from the value, and the result is the
same.  Members that are passed over unexamined are what makes this a statement about more than the
fields: what the value has of them is known to be harmless, and the text says so too.

A text reads like the same text with the members of an object rearranged, wherever the object is.
-/

namespace Json
namespace Written

/-! ## Members with their keys read -/

theorem exists_keyed? {β : Type} {S : Written → β → Prop} {members : List (List Piece × Written)}
    {values : List (String × β)}
    (related : List.Forall₂ (fun member value =>
      text? member.1 = some value.1 ∧ S member.2 value.2) members values) :
    ∃ keyed, keyed? members = some keyed ∧
      List.Forall₂ (fun member value => member.1 = value.1 ∧ S member.2 value.2) keyed values := by
  induction related with
  | nil => exact ⟨[], rfl, .nil⟩
  | @cons member value _ _ related _ inductionHypothesis =>
      rcases member with ⟨pieces, written⟩
      rcases inductionHypothesis with ⟨keyed, hkeyed, others⟩
      exact ⟨(value.1, written) :: keyed, by simp [keyed?, related.1, hkeyed],
        .cons ⟨rfl, related.2⟩ others⟩

theorem keyed?_rel {S : Written → Written → Prop} {first second : List (List Piece × Written)}
    (related : List.Forall₂ (fun member other => member.1 = other.1 ∧ S member.2 other.2)
      first second) :
    Option.Rel (List.Forall₂ fun member other => member.1 = other.1 ∧ S member.2 other.2)
      (keyed? first) (keyed? second) := by
  induction related with
  | nil => exact .some .nil
  | @cons member other first second related _ inductionHypothesis =>
      rcases member with ⟨pieces, written⟩
      rcases other with ⟨otherPieces, otherWritten⟩
      obtain ⟨rfl, inside⟩ : pieces = otherPieces ∧ S written otherWritten := related
      rw [keyed?, keyed?]
      cases text? pieces with
      | none => exact .none
      | some key =>
          revert inductionHypothesis
          generalize keyed? first = ours
          generalize keyed? second = theirs
          rintro (others | _)
          · exact .some (.cons ⟨rfl, inside⟩ others)
          · exact .none

theorem keyed?_perm {first second : List (List Piece × Written)} (order : first.Perm second) :
    Option.Rel List.Perm (keyed? first) (keyed? second) := by
  induction order with
  | nil => exact .some .nil
  | @cons member first second _ inductionHypothesis =>
      rcases member with ⟨pieces, written⟩
      rw [keyed?, keyed?]
      cases text? pieces with
      | none => exact .none
      | some key =>
          revert inductionHypothesis
          generalize keyed? first = ours
          generalize keyed? second = theirs
          rintro (order | _)
          · exact .some (order.cons _)
          · exact .none
  | swap member other members =>
      rcases member with ⟨pieces, written⟩
      rcases other with ⟨otherPieces, otherWritten⟩
      simp only [keyed?]
      cases text? pieces <;> cases text? otherPieces <;> cases keyed? members
      case some.some.some => exact .some (.swap _ _ _)
      all_goals exact .none
  | @trans first second third _ _ earlier later =>
      revert earlier later
      generalize keyed? first = ours
      generalize keyed? second = between
      generalize keyed? third = theirs
      rintro (order | _) (further | _)
      · exact .some (order.trans further)
      · exact .none

theorem keys_eq_of_keyed? {members : List (List Piece × Written)}
    {keyed : List (String × Written)} (read : keyed? members = some keyed) :
    keys members = keyed.map fun member => some member.1 := by
  induction members generalizing keyed with
  | nil =>
      cases Option.some_inj.mp read
      rfl
  | cons member members inductionHypothesis =>
      rcases member with ⟨pieces, written⟩
      simp only [keyed?, Option.bind_eq_bind, Option.bind_eq_some_iff, Option.pure_def,
        Option.some_inj] at read
      rcases read with ⟨key, hkey, rest, hrest, rfl⟩
      rw [keys, List.map_cons, List.map_cons, hkey, ← inductionHypothesis hrest]
      rfl

theorem nodup_of_keyed? {members : List (List Piece × Written)} {keyed : List (String × Written)}
    (read : keyed? members = some keyed) (distinct : (keys members).Nodup) :
    (keyed.map Prod.fst).Nodup := by
  rw [keys_eq_of_keyed? read] at distinct
  have same : (keyed.map fun member => some member.1) = (keyed.map Prod.fst).map some := by
    simp [Function.comp_def]
  rw [same] at distinct
  exact distinct.of_map some

/-! ## A text and its value -/

/-- A text that repeats no key, and the value that it denotes as a whole or as a part. -/
def Stands (written : Written) (value : Value) : Prop :=
  Unrepeated written ∧ ∃ levels ≤ nestingLimit, value? levels written = some value

/-- A part of a text that denotes a value may be kept. -/
theorem kept_of_value? {written : Written} {value : Value} (unrepeated : Unrepeated written)
    {levels : Nat} (within : levels + 1 ≤ nestingLimit)
    (denoted : value? levels written = some value) : Kept Stands written value := by
  have keepable : value? (nestingLimit - 1) written = some value :=
    value?_mono written denoted (by omega)
  refine ⟨⟨unrepeated, levels, by omega, denoted⟩, ?_⟩
  change (value? (nestingLimit - 1) written).isSome = true
  rw [keepable]
  rfl

/-- A text reads like the value that it denotes. -/
theorem concord_stands : Concord Stands where
  isNull := by
    rintro first second ⟨-, levels, -, denoted⟩
    cases denotes_of_value? denoted <;> rfl
  bool? := by
    rintro first second ⟨-, levels, -, denoted⟩
    cases denotes_of_value? denoted <;> rfl
  natural? := by
    rintro first second ⟨-, levels, -, denoted⟩
    cases denotes_of_value? denoted <;> rfl
  integer? := by
    rintro first second ⟨-, levels, -, denoted⟩
    cases denotes_of_value? denoted <;> rfl
  text? := by
    rintro first second ⟨-, levels, -, denoted⟩
    cases denotes_of_value? denoted with
    | text read => exact read
    | _ => rfl
  elements? := by
    rintro first second ⟨unrepeated, levels, within, denoted⟩
    cases denotes_of_value? denoted with
    | @array levels elements values all =>
        rw [unrepeated_array_iff] at unrepeated
        have related := (List.forall₂_and_left elements values).mpr
          ⟨unrepeated, elements?_eq_some_iff.mp all⟩
        exact .some (related.imp fun element value both => kept_of_value? both.1 within both.2)
    | _ => exact .none
  members? := by
    rintro first second ⟨unrepeated, levels, within, denoted⟩
    cases denotes_of_value? denoted with
    | @object levels members values all =>
        rw [unrepeated_object_iff] at unrepeated
        have related := (List.forall₂_and_left members values).mpr
          ⟨unrepeated.2, (members?_eq_some_iff unrepeated.1).mp all⟩
        rcases exists_keyed? (S := Kept Stands) (related.imp fun member value both =>
            ⟨both.2.1, kept_of_value? both.1 within both.2.2⟩) with ⟨keyed, read, paired⟩
        change Option.Rel (Matching Stands) (keyed? members) (some values)
        rw [read]
        exact .some ⟨nodup_of_keyed? read unrepeated.1, keyed, .refl keyed, paired⟩
    | _ => exact .none

/-! ## A text and its rearrangements -/

open Relation

/-- A text that repeats no key, and the text itself or a rearrangement of it. -/
def Shuffled (written other : Written) : Prop :=
  Unrepeated written ∧ ReflGen Rearranged written other

theorem kept_of_shuffled {written other : Written} (shuffled : Shuffled written other) :
    Kept Shuffled written other := by
  refine ⟨shuffled, ?_⟩
  cases shuffled.2 with
  | refl => rfl
  | single rearranged => exact (rearranged.isSome_value? _).symm

/-- An array is rearranged in one element, or not at all. -/
theorem forall₂_of_reflGen_array {elements : List Written} {other : Written}
    (rearranged : ReflGen Rearranged (.array elements) other) :
    ∃ others, other = .array others ∧ List.Forall₂ (ReflGen Rearranged) elements others := by
  have same (list : List Written) : List.Forall₂ (ReflGen Rearranged) list list :=
    List.forall₂_refl list
  cases rearranged with
  | refl => exact ⟨elements, rfl, same elements⟩
  | single step =>
      cases step with
      | element front back inside =>
          exact ⟨_, rfl, List.rel_append (same front) (.cons (.single inside) (same back))⟩

/-- An object is rearranged in the order of its members, or in one value, or not at all. -/
theorem forall₂_of_reflGen_object {members : List (List Piece × Written)} {other : Written}
    (rearranged : ReflGen Rearranged (.object members) other) :
    ∃ others middle, other = .object others ∧ members.Perm middle ∧
      List.Forall₂ (fun member other => member.1 = other.1 ∧ ReflGen Rearranged member.2 other.2)
        middle others := by
  have same (list : List (List Piece × Written)) : List.Forall₂ (fun member other =>
      member.1 = other.1 ∧ ReflGen Rearranged member.2 other.2) list list :=
    List.forall₂_same.mpr fun _ _ => ⟨rfl, .refl⟩
  cases rearranged with
  | refl => exact ⟨members, members, rfl, .refl members, same members⟩
  | single step =>
      cases step with
      | @members _ others order => exact ⟨others, others, rfl, order, same others⟩
      | member front key back inside =>
          exact ⟨_, _, rfl, .refl _,
            List.rel_append (same front) (.cons ⟨rfl, .single inside⟩ (same back))⟩

/-- A text reads like a rearrangement of it. -/
theorem concord_shuffled : Concord Shuffled where
  isNull := by
    rintro first second ⟨-, _ | step⟩
    · rfl
    · cases step <;> rfl
  bool? := by
    rintro first second ⟨-, _ | step⟩
    · rfl
    · cases step <;> rfl
  natural? := by
    rintro first second ⟨-, _ | step⟩
    · rfl
    · cases step <;> rfl
  integer? := by
    rintro first second ⟨-, _ | step⟩
    · rfl
    · cases step <;> rfl
  text? := by
    rintro first second ⟨-, _ | step⟩
    · rfl
    · cases step <;> rfl
  elements? := by
    rintro first second ⟨unrepeated, rearranged⟩
    cases first with
    | array elements =>
        rcases forall₂_of_reflGen_array rearranged with ⟨others, rfl, related⟩
        rw [unrepeated_array_iff] at unrepeated
        have both := (List.forall₂_and_left elements others).mpr ⟨unrepeated, related⟩
        exact .some (both.imp fun element other shuffled => kept_of_shuffled shuffled)
    | object members =>
        rcases forall₂_of_reflGen_object rearranged with ⟨others, middle, rfl, -, -⟩
        exact .none
    | _ =>
        rcases rearranged with _ | step
        · exact .none
        · cases step
  members? := by
    rintro first second ⟨unrepeated, rearranged⟩
    cases first with
    | array elements =>
        rcases forall₂_of_reflGen_array rearranged with ⟨others, rfl, -⟩
        exact .none
    | object members =>
        rcases forall₂_of_reflGen_object rearranged with ⟨others, middle, rfl, order, related⟩
        rw [unrepeated_object_iff] at unrepeated
        have inside : ∀ member ∈ middle, Unrepeated member.2 := fun member there =>
          unrepeated.2 member (order.mem_iff.mpr there)
        have both := (List.forall₂_and_left middle others).mpr ⟨inside, related⟩
        have paired := keyed?_rel (S := Kept Shuffled) (both.imp fun member other shuffled =>
          ⟨shuffled.2.1, kept_of_shuffled ⟨shuffled.1, shuffled.2.2⟩⟩)
        have distinct : ∀ keyed, keyed? members = some keyed → (keyed.map Prod.fst).Nodup :=
          fun keyed read => nodup_of_keyed? read unrepeated.1
        have permuted := keyed?_perm order
        change Option.Rel (Matching Shuffled) (keyed? members) (keyed? others)
        revert paired permuted distinct
        generalize keyed? members = ours
        generalize keyed? middle = between
        generalize keyed? others = theirs
        rintro (paired | _) distinct (permuted | _)
        · exact .some ⟨distinct _ rfl, _, permuted, paired⟩
        · exact .none
    | _ =>
        rcases rearranged with _ | step
        · exact .none
        · cases step

/-- What is read from a text without repeated keys is what is read from its value. -/
theorem decode?_eq_of_value? {α : Type} [WireForm α] [Impartial α] {written : Written}
    {value : Value} (unrepeated : Unrepeated written)
    (denoted : value? nestingLimit written = some value) :
    (WireForm.decode? written : Option α) = WireForm.decode? value :=
  Impartial.decode?_congr concord_stands ⟨unrepeated, nestingLimit, Nat.le_refl _, denoted⟩

/-- Rearranging a text without repeated keys any number of times changes nothing about it. -/
theorem decode?_eq_of_rearranged {α : Type} [WireForm α] [Impartial α] {written other : Written}
    (unrepeated : Unrepeated written) (rearranged : ReflTransGen Rearranged written other) :
    (WireForm.decode? other : Option α) = WireForm.decode? written ∧ Unrepeated other ∧
      ∀ levels, (value? levels other).isSome = (value? levels written).isSome := by
  induction rearranged with
  | refl => exact ⟨rfl, unrepeated, fun _ => rfl⟩
  | @tail between other _ step inductionHypothesis =>
      rcases inductionHypothesis with ⟨sameRead, stillUnrepeated, sameDenoted⟩
      have read : (WireForm.decode? between : Option α) = WireForm.decode? other :=
        Impartial.decode?_congr concord_shuffled ⟨stillUnrepeated, .single step⟩
      exact ⟨read.symm.trans sameRead, step.unrepeated_iff.mpr stillUnrepeated,
        fun levels => (step.isSome_value? levels).trans (sameDenoted levels)⟩

end Written
end Json

/-! ## The wire types -/

/-- What crosses the boundary between client and service, and what both are configured with. -/
inductive WireType where
  | componentName
  | activityToken
  | locusId
  | locusRemoval
  | removalRequest
  | sessionId
  | flushReason
  | eventKind
  | captureEvent
  | sessionStart
  | captureFlags
  | sessionState
  | configuration
  | localConfiguration
  deriving DecidableEq, Repr

namespace WireType

/-- The values of a wire type. -/
def Carrier : WireType → Type
  | .componentName => ComponentName
  | .activityToken => ActivityToken
  | .locusId => LocusId
  | .locusRemoval => LocusRemoval
  | .removalRequest => RemovalRequest
  | .sessionId => SessionId
  | .flushReason => FlushReason
  | .eventKind => EventKind
  | .captureEvent => CaptureEvent
  | .sessionStart => SessionStart
  | .captureFlags => CaptureFlags
  | .sessionState => SessionState
  | .configuration => Configuration
  | .localConfiguration => LocalConfiguration

instance (type : WireType) : WireForm type.Carrier :=
  match type with
  | .componentName => inferInstanceAs (WireForm ComponentName)
  | .activityToken => inferInstanceAs (WireForm ActivityToken)
  | .locusId => inferInstanceAs (WireForm LocusId)
  | .locusRemoval => inferInstanceAs (WireForm LocusRemoval)
  | .removalRequest => inferInstanceAs (WireForm RemovalRequest)
  | .sessionId => inferInstanceAs (WireForm SessionId)
  | .flushReason => inferInstanceAs (WireForm FlushReason)
  | .eventKind => inferInstanceAs (WireForm EventKind)
  | .captureEvent => inferInstanceAs (WireForm CaptureEvent)
  | .sessionStart => inferInstanceAs (WireForm SessionStart)
  | .captureFlags => inferInstanceAs (WireForm CaptureFlags)
  | .sessionState => inferInstanceAs (WireForm SessionState)
  | .configuration => inferInstanceAs (WireForm Configuration)
  | .localConfiguration => inferInstanceAs (WireForm LocalConfiguration)

instance (type : WireType) : Impartial type.Carrier :=
  match type with
  | .componentName => inferInstanceAs (Impartial ComponentName)
  | .activityToken => inferInstanceAs (Impartial ActivityToken)
  | .locusId => inferInstanceAs (Impartial LocusId)
  | .locusRemoval => inferInstanceAs (Impartial LocusRemoval)
  | .removalRequest => inferInstanceAs (Impartial RemovalRequest)
  | .sessionId => inferInstanceAs (Impartial SessionId)
  | .flushReason => inferInstanceAs (Impartial FlushReason)
  | .eventKind => inferInstanceAs (Impartial EventKind)
  | .captureEvent => inferInstanceAs (Impartial CaptureEvent)
  | .sessionStart => inferInstanceAs (Impartial SessionStart)
  | .captureFlags => inferInstanceAs (Impartial CaptureFlags)
  | .sessionState => inferInstanceAs (Impartial SessionState)
  | .configuration => inferInstanceAs (Impartial Configuration)
  | .localConfiguration => inferInstanceAs (Impartial LocalConfiguration)

open Json

/-- A text that denotes a value and repeats no key is read alike directly and through the value. -/
theorem ofText?_eq_ofTextValue? {α : Type} [WireForm α] [Impartial α] {text : String}
    {written : Written} (formed : Written.ofText? text = some written)
    (accepted : (written.value? Written.nestingLimit).isSome = true)
    (unrepeated : written.Unrepeated) :
    (WireForm.ofText? text : Option α) = WireForm.ofTextValue? text := by
  rcases Option.isSome_iff_exists.mp accepted with ⟨value, denoted⟩
  have valued : Value.ofText? text = some value := by
    simp [Value.ofText?, formed, denoted]
  simp [WireForm.ofText?, WireForm.ofTextValue?, formed, valued,
    Written.decode?_eq_of_value? unrepeated denoted]

/-- A text that denotes a value and repeats no key is read alike directly and through the value,
whether as a value of the wire type or as none.  So is every text that comes of it by putting the
members of its objects in another order, and it reads like the original. -/
theorem read_alike (type : WireType) {text : String} {written : Written}
    (formed : Written.ofText? text = some written) (accepted : (Value.ofText? text).isSome = true)
    (unrepeated : written.Unrepeated) :
    (WireForm.ofText? text : Option type.Carrier) = WireForm.ofTextValue? text ∧
      ∀ other rearranged, Written.ofText? other = some rearranged →
        Relation.ReflTransGen Written.Rearranged written rearranged →
        (WireForm.ofText? other : Option type.Carrier) = WireForm.ofText? text ∧
          (WireForm.ofTextValue? other : Option type.Carrier) = WireForm.ofTextValue? text := by
  have denoted : (written.value? Written.nestingLimit).isSome = true := by
    simpa [Value.ofText?, formed] using accepted
  have alike : (WireForm.ofText? text : Option type.Carrier) = WireForm.ofTextValue? text :=
    ofText?_eq_ofTextValue? formed denoted unrepeated
  refine ⟨alike, fun other rearranged otherFormed order => ?_⟩
  rcases Written.decode?_eq_of_rearranged (α := type.Carrier) unrepeated order with
    ⟨sameRead, stillUnrepeated, sameDenoted⟩
  have direct : (WireForm.ofText? other : Option type.Carrier) = WireForm.ofText? text := by
    simp [WireForm.ofText?, formed, otherFormed, sameRead]
  refine ⟨direct, ?_⟩
  rw [← alike, ← direct]
  exact (ofText?_eq_ofTextValue? otherFormed ((sameDenoted _).trans denoted) stillUnrepeated).symm

/-- The members of a component, one of them unknown. -/
def looseComponent : List (List Piece × Written) :=
  [("x".toList.map .plain, .array [.number ⟨false, ['1'], [], some ⟨false, ['3']⟩⟩, .null]),
    ("className".toList.map .plain, .text [.plain 'C']),
    ("packageName".toList.map .plain, .text [.plain 'p'])]

/-- An event with its component and its token in front. -/
def looseFront (component : List (List Piece × Written)) : List (List Piece × Written) :=
  [("component".toList.map .plain, .object component),
    ("token".toList.map .plain, .text [.plain 't'])]

/-- The tag of a start, its key spelled with an escape and itself given by its number. -/
def looseTag : List Piece × Written :=
  ("typ".toList.map .plain ++ [.unit 0x65], .number (.ofNat 0))

/-- The members that every event has. -/
def looseBack : List (List Piece × Written) :=
  [("session_id".toList.map .plain, .number (.ofNat 7)),
    ("event_time_ms".toList.map .plain, .number (.ofNat 3))]

/-- A start whose tag comes behind what belongs to it. -/
def looseText : String :=
  "\x7b\"component\":\x7b\"x\":[1e3,null],\"className\":\"C\",\"packageName\":\"p\"\x7d," ++
    " \"token\" : \"t\", \"typ\\u0065\":0, \"session_id\":7, \"event_time_ms\":3\x7d"

/-- The same start with its tag in front, and the members of its component in reverse. -/
def tidyText : String :=
  "\x7b\"typ\\u0065\":0,\"component\":\x7b\"packageName\":\"p\",\"className\":\"C\"," ++
    "\"x\":[1e3,null]\x7d,\"token\":\"t\",\"session_id\":7,\"event_time_ms\":3\x7d"

set_option maxRecDepth 4000 in
theorem read_alike_looseText :
    (WireForm.ofText? looseText : Option CaptureEvent) = WireForm.ofTextValue? looseText ∧
      (WireForm.ofText? tidyText : Option CaptureEvent) = WireForm.ofText? looseText ∧
      (WireForm.ofText? tidyText : Option CaptureEvent) =
        some ⟨⟨7⟩, 3, .started ⟨"t"⟩ ⟨"p", "C"⟩⟩ := by
  have formed : Written.ofText? looseText =
      some (.object (looseFront looseComponent ++ looseTag :: looseBack)) := by cbv
  have tidyFormed : Written.ofText? tidyText =
      some (.object (looseTag :: (looseFront looseComponent.reverse ++ looseBack))) := by cbv
  have denoted : ((Written.object (looseFront looseComponent ++ looseTag :: looseBack)).value?
      Written.nestingLimit).isSome = true := by decide +kernel
  have accepted : (Value.ofText? looseText).isSome = true := by
    simpa [Value.ofText?, formed] using denoted
  have numbers (literal : Literal) : (Written.number literal).Unrepeated :=
    Written.unrepeated_of_scalar (by simp) (by simp)
  have texts (pieces : List Piece) : (Written.text pieces).Unrepeated :=
    Written.unrepeated_of_scalar (by simp) (by simp)
  have component : (Written.object looseComponent).Unrepeated := by
    rw [Written.unrepeated_object_iff]
    refine ⟨by decide +kernel, ?_⟩
    simp [looseComponent, Written.unrepeated_array_iff, numbers, texts,
      Written.unrepeated_of_scalar]
  have unrepeated :
      (Written.object (looseFront looseComponent ++ looseTag :: looseBack)).Unrepeated := by
    rw [Written.unrepeated_object_iff]
    refine ⟨by decide +kernel, ?_⟩
    simp [looseFront, looseTag, looseBack, component, numbers, texts]
  have inside : Written.Rearranged (.object (looseFront looseComponent ++ looseTag :: looseBack))
      (.object (looseFront looseComponent.reverse ++ looseTag :: looseBack)) :=
    .member [] _ _ (.members (List.reverse_perm _).symm)
  have outside : Written.Rearranged
      (.object (looseFront looseComponent.reverse ++ looseTag :: looseBack))
      (.object (looseTag :: (looseFront looseComponent.reverse ++ looseBack))) :=
    .members List.perm_middle
  have order := (Relation.ReflTransGen.single inside).tail outside
  have read : (WireForm.decode? (Written.object
      (looseTag :: (looseFront looseComponent.reverse ++ looseBack))) : Option CaptureEvent) =
      some ⟨⟨7⟩, 3, .started ⟨"t"⟩ ⟨"p", "C"⟩⟩ := by decide +kernel
  rcases read_alike .captureEvent formed accepted unrepeated with ⟨alike, rearranged⟩
  refine ⟨alike, (rearranged _ _ tidyFormed order).1, ?_⟩
  simpa [WireForm.ofText?, tidyFormed] using read

end WireType
end ContentCapture
