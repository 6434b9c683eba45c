import ContentCapture.Configuration
import ContentCapture.Proofs.Denotation
import ContentCapture.Proofs.Sequences
import ContentCapture.Service.Local

namespace ContentCapture

/-!
# Documents that read alike

A value of a wire type is read from a JSON text directly, or from the JSON value that the text
denotes.  Either way the reader puts questions to a document, and two documents read alike if they
answer every question alike, with parts that read alike again.  The members of an object may be in
any order, as long as no key is repeated.

Concord of two kinds of documents is stated once, every reader is shown to respect it, and then
it is found twice: between a text and the value it denotes, and between a text and the same text
with the members of an object rearranged.  That the two ways of reading agree, and that order does
not matter to either of them, is the same fact about the readers.
-/

namespace Json

open Document

section

variable {D E : Type} [Document D] [Document E]

/-- Related documents of which both may be kept, or neither. -/
def Kept (R : D → E → Prop) (first : D) (second : E) : Prop :=
  R first second ∧ isKeepable first = isKeepable second

/-- Members with the same keys and with related values, one by one. -/
abbrev Paired (R : D → E → Prop) : List (String × D) → List (String × E) → Prop :=
  List.Forall₂ fun member other => member.1 = other.1 ∧ Kept R member.2 other.2

/-- Members with the same keys, none of them repeated, and with related values, in any order. -/
structure Matching (R : D → E → Prop) (first : List (String × D)) (second : List (String × E)) :
    Prop where
  distinct : (first.map Prod.fst).Nodup
  matched : ∃ middle, first.Perm middle ∧ Paired R middle second

/-- Related documents answer every question alike. -/
structure Concord (R : D → E → Prop) : Prop where
  isNull : ∀ {first second}, R first second → isNull first = isNull second
  bool? : ∀ {first second}, R first second → bool? first = bool? second
  natural? : ∀ {first second}, R first second → natural? first = natural? second
  integer? : ∀ {first second}, R first second → integer? first = integer? second
  text? : ∀ {first second}, R first second → text? first = text? second
  elements? : ∀ {first second}, R first second →
    Option.Rel (List.Forall₂ (Kept R)) (elements? first) (elements? second)
  members? : ∀ {first second}, R first second →
    Option.Rel (Matching R) (members? first) (members? second)

end

/-- What is made of related things is the same if it is the same of each two of them. -/
theorem bind_congr_of_rel {α β γ : Type} {R : α → β → Prop} {first : Option α} {second : Option β}
    (related : Option.Rel R first second) {f : α → Option γ} {g : β → Option γ}
    (same : ∀ a b, R a b → f a = g b) : first.bind f = second.bind g := by
  cases related with
  | some related => exact same _ _ related
  | none => rfl

theorem rel_of_imp {α β : Type} {R S : α → β → Prop} (imp : ∀ a b, R a b → S a b)
    {first : Option α} {second : Option β} (related : Option.Rel R first second) :
    Option.Rel S first second := by
  cases related with
  | some related => exact .some (imp _ _ related)
  | none => exact .none

/-! ## Members -/

/-- With distinct keys, the value of a key is the one that stands with it. -/
theorem lookup_eq_some_iff_mem {β : Type} {members : List (String × β)}
    (distinct : (members.map Prod.fst).Nodup) {key : String} {value : β} :
    members.lookup key = some value ↔ (key, value) ∈ members := by
  induction members with
  | nil => simp
  | cons member members inductionHypothesis =>
      rcases member with ⟨other, otherValue⟩
      rw [List.map_cons, List.nodup_cons] at distinct
      by_cases same : key = other
      · subst same
        have absent : (key, value) ∉ members := fun there =>
          distinct.1 (List.mem_map.mpr ⟨(key, value), there, rfl⟩)
        simp [absent, eq_comm]
      · have unequal : (key == other) = false := by simpa using same
        simp [List.lookup_cons, unequal, same, inductionHypothesis distinct.2]

/-- The value of a key does not depend on the order of members with distinct keys. -/
theorem lookup_eq_of_perm {β : Type} {first second : List (String × β)} (order : first.Perm second)
    (distinct : (first.map Prod.fst).Nodup) (key : String) :
    first.lookup key = second.lookup key := by
  have alsoDistinct : (second.map Prod.fst).Nodup := (order.map Prod.fst).nodup_iff.mp distinct
  ext value
  rw [lookup_eq_some_iff_mem distinct, lookup_eq_some_iff_mem alsoDistinct, order.mem_iff]

section

variable {D E : Type} [Document D] [Document E] {R : D → E → Prop}
  {first : List (String × D)} {second : List (String × E)}

theorem Paired.keys_eq (paired : Paired R first second) :
    first.map Prod.fst = second.map Prod.fst := by
  induction paired with
  | nil => rfl
  | cons related _ inductionHypothesis =>
      rw [List.map_cons, List.map_cons, related.1, inductionHypothesis]

theorem Paired.lookup (paired : Paired R first second) (key : String) :
    Option.Rel (Kept R) (first.lookup key) (second.lookup key) := by
  induction paired with
  | nil => exact .none
  | @cons member other _ _ related _ inductionHypothesis =>
      rcases member with ⟨name, value⟩
      rcases other with ⟨otherName, otherValue⟩
      obtain ⟨rfl, kept⟩ : name = otherName ∧ Kept R value otherValue := related
      rw [List.lookup_cons, List.lookup_cons]
      split
      · exact .some kept
      · exact inductionHypothesis

theorem Paired.all_isKeepable (paired : Paired R first second) :
    (first.all fun member => isKeepable member.2) =
      second.all fun member => isKeepable member.2 := by
  induction paired with
  | nil => rfl
  | cons related _ inductionHypothesis =>
      rw [List.all_cons, List.all_cons, related.2.2, inductionHypothesis]

namespace Matching

theorem perm_keys (matching : Matching R first second) :
    (first.map Prod.fst).Perm (second.map Prod.fst) := by
  rcases matching.matched with ⟨middle, order, paired⟩
  rw [← paired.keys_eq]
  exact order.map Prod.fst

theorem lookup (matching : Matching R first second) (key : String) :
    Option.Rel (Kept R) (first.lookup key) (second.lookup key) := by
  rcases matching.matched with ⟨middle, order, paired⟩
  rw [lookup_eq_of_perm order matching.distinct]
  exact paired.lookup key

/-- Members that are chosen by their keys match again. -/
theorem filter (matching : Matching R first second) (choose : String → Bool) :
    Matching R (first.filter fun member => choose member.1)
      (second.filter fun member => choose member.1) := by
  rcases matching.matched with ⟨middle, order, paired⟩
  refine ⟨matching.distinct.sublist (List.filter_sublist.map Prod.fst), _, order.filter _, ?_⟩
  refine List.rel_filter ?_ paired
  intro member other related
  exact iff_of_eq (congrArg (fun key => choose key = true) related.1)

theorem all_keys (matching : Matching R first second) (accept : String → Bool) :
    (first.all fun member => accept member.1) = second.all fun member => accept member.1 := by
  have same : (first.map Prod.fst).all accept = (second.map Prod.fst).all accept :=
    matching.perm_keys.all_eq
  simpa [List.all_map, Function.comp_def] using same

theorem all_isKeepable (matching : Matching R first second) :
    (first.all fun member => isKeepable member.2) =
      second.all fun member => isKeepable member.2 := by
  rcases matching.matched with ⟨middle, order, paired⟩
  rw [order.all_eq]
  exact paired.all_isKeepable

/-- There is a single member on both sides, or on neither. -/
theorem single_or (matching : Matching R first second) :
    (∃ key value other, first = [(key, value)] ∧ second = [(key, other)] ∧ Kept R value other) ∨
      first.length ≠ 1 ∧ second.length ≠ 1 := by
  rcases matching.matched with ⟨middle, order, related⟩
  have same := order.length_eq.trans related.length_eq
  by_cases single : second.length = 1
  · left
    rcases List.length_eq_one_iff.mp single with ⟨⟨key, other⟩, rfl⟩
    rcases List.length_eq_one_iff.mp (same.trans single) with ⟨⟨name, value⟩, rfl⟩
    rw [List.singleton_perm] at order
    subst order
    cases related with
    | cons related _ =>
        obtain ⟨rfl, kept⟩ : name = key ∧ Kept R value other := related
        exact ⟨name, value, other, rfl, rfl, kept⟩
  · exact .inr ⟨same ▸ single, single⟩

end Matching
end

/-! ## Fields -/

namespace Fields

variable {D E : Type} [Document D] [Document E] {R : D → E → Prop}

/-- For every name there are related documents, or none. -/
def Alike (R : D → E → Prop) (fields : Fields D) (others : Fields E) : Prop :=
  ∀ name, Option.Rel R (fields name) (others name)

omit [Document D] in
theorem unrepeated_of_distinct {members : List (String × D)}
    (distinct : (members.map Prod.fst).Nodup) (names : List String) :
    unrepeated names members = true := by
  rw [unrepeated, List.all_eq_true]
  intro name _
  have once : (members.map Prod.fst).count name ≤ 1 := List.nodup_iff_count_le_one.mp distinct name
  rw [List.count, List.countP_map, List.countP_eq_length_filter] at once
  simpa [Function.comp_def] using once

theorem ofMembers?_rel {first : List (String × D)} {second : List (String × E)}
    (matching : Matching R first second) (names : List String) :
    Option.Rel (Alike R) (ofMembers? names first) (ofMembers? names second) := by
  have alsoDistinct := matching.perm_keys.nodup_iff.mp matching.distinct
  rw [ofMembers?, ofMembers?, if_pos (unrepeated_of_distinct matching.distinct names),
    if_pos (unrepeated_of_distinct alsoDistinct names)]
  exact .some fun name => rel_of_imp (fun _ _ kept => kept.1) (matching.lookup name)

theorem lookup_zip_rel {first : List D} {second : List E}
    (related : List.Forall₂ (Kept R) first second) (names : List String) (name : String) :
    Option.Rel R ((names.zip first).lookup name) ((names.zip second).lookup name) := by
  induction related generalizing names with
  | nil => simp
  | cons kept _ inductionHypothesis =>
      cases names with
      | nil => simp
      | cons other names =>
          rw [List.zip_cons_cons, List.zip_cons_cons, List.lookup_cons, List.lookup_cons]
          split
          · exact .some kept.1
          · exact inductionHypothesis names

theorem ofElements?_rel {first : List D} {second : List E}
    (related : List.Forall₂ (Kept R) first second) (names : List String) :
    Option.Rel (Alike R) (ofElements? names first) (ofElements? names second) := by
  rw [ofElements?, ofElements?, related.length_eq]
  split
  · exact .some (lookup_zip_rel related names)
  · exact .none

/-- Elements that are the fields of a record, of whatever array they are. -/
theorem bind_ofElements?_rel {first : Option (List D)} {second : Option (List E)}
    (related : Option.Rel (List.Forall₂ (Kept R)) first second) (names : List String) :
    Option.Rel (Alike R) (first.bind (ofElements? names)) (second.bind (ofElements? names)) := by
  cases related with
  | some related => exact ofElements?_rel related names
  | none => exact .none

/-- Records are read alike. -/
theorem read?_rel (concord : Concord R) {first : D} {second : E} (related : R first second)
    (names : List String) :
    Option.Rel (Alike R) (read? names first) (read? names second) := by
  have elements := bind_ofElements?_rel (concord.elements? related) names
  have members := concord.members? related
  unfold read?
  revert members
  generalize members? first = ours
  generalize members? second = theirs
  rintro (matching | _)
  · exact ofMembers?_rel matching names
  · exact elements

/-- Closed records are read alike. -/
theorem readClosed?_rel (concord : Concord R) {first : D} {second : E} (related : R first second)
    (names : List String) :
    Option.Rel (Alike R) (readClosed? names first) (readClosed? names second) := by
  have elements := bind_ofElements?_rel (concord.elements? related) names
  have members := concord.members? related
  unfold readClosed?
  revert members
  generalize members? first = ours
  generalize members? second = theirs
  rintro (matching | _)
  · dsimp only
    rw [matching.all_keys]
    split
    · exact ofMembers?_rel matching names
    · exact .none
  · exact elements

end Fields
end Json

open Json

/-! ## Readers -/

/-- A wire type that is read alike from documents that answer every question alike. -/
class Impartial (α : Type) [WireForm α] : Prop where
  decode?_congr : ∀ {D E : Type} [Document D] [Document E] {R : D → E → Prop}, Concord R →
    ∀ {first : D} {second : E}, R first second →
      (WireForm.decode? first : Option α) = WireForm.decode? second

section

variable {D E : Type} [Document D] [Document E] {R : D → E → Prop}

theorem Json.Fields.Alike.required {fields : Fields D} {others : Fields E}
    (alike : Fields.Alike R fields others) (concord : Concord R) {α : Type} [WireForm α]
    [Impartial α] (name : String) :
    fields.required name (WireForm.decode? (α := α)) = others.required name WireForm.decode? :=
  bind_congr_of_rel (alike name) fun _ _ => Impartial.decode?_congr concord

theorem Json.Fields.Alike.optional {fields : Fields D} {others : Fields E}
    (alike : Fields.Alike R fields others) (concord : Concord R) {α : Type} [WireForm α]
    [Impartial α] (name : String) (default : α) :
    fields.optional name default WireForm.decode? =
      others.optional name default WireForm.decode? := by
  have related := alike name
  unfold Fields.optional
  revert related
  generalize fields name = ours
  generalize others name = theirs
  rintro (related | _)
  · exact Impartial.decode?_congr concord related
  · rfl

end

instance : Impartial Bool where
  decode?_congr concord _ _ related := concord.bool? related

instance : Impartial UInt32 where
  decode?_congr concord _ _ related := by
    simp only [WireForm.decode?, Document.word32?, concord.natural? related]

instance : Impartial UInt64 where
  decode?_congr concord _ _ related := by
    simp only [WireForm.decode?, Document.word64?, concord.natural? related]

instance : Impartial String where
  decode?_congr concord _ _ related := concord.text? related

instance {α : Type} [WireForm α] [Impartial α] : Impartial (Option α) where
  decode?_congr concord first second related := by
    simp only [WireForm.decode?, Document.nullable?, concord.isNull related,
      Impartial.decode?_congr concord related]

instance {α : Type} [WireForm α] [Impartial α] : Impartial (List α) where
  decode?_congr concord first second related := by
    refine bind_congr_of_rel (concord.elements? related) fun ours theirs kept => ?_
    induction kept with
    | nil => rfl
    | cons kept _ inductionHypothesis =>
        rw [List.mapM_cons, List.mapM_cons, inductionHypothesis,
          Impartial.decode?_congr concord kept.1]

instance : Impartial CaptureFlags where
  decode?_congr concord _ _ related :=
    congrArg (Option.map CaptureFlags.mk) (Impartial.decode?_congr concord related)

instance : Impartial SessionState where
  decode?_congr concord _ _ related :=
    congrArg (Option.map SessionState.mk) (Impartial.decode?_congr concord related)

instance : Impartial SessionId where
  decode?_congr concord _ _ related :=
    congrArg (Option.map SessionId.mk) (Impartial.decode?_congr concord related)

instance : Impartial ActivityToken where
  decode?_congr concord _ _ related :=
    congrArg (Option.map ActivityToken.mk) (Impartial.decode?_congr concord related)

instance : Impartial LocusId where
  decode?_congr concord _ _ related :=
    congrArg (Option.map LocusId.mk) (Impartial.decode?_congr concord related)

instance : Impartial ComponentName where
  decode?_congr concord _ _ related := by
    refine bind_congr_of_rel (Fields.read?_rel concord related _) fun fields others alike => ?_
    rw [alike.required concord, alike.required concord]

instance : Impartial LocusRemoval where
  decode?_congr concord _ _ related := by
    refine bind_congr_of_rel (Fields.read?_rel concord related _) fun fields others alike => ?_
    rw [alike.required concord, alike.required concord]

instance : Impartial RemovalRequest where
  decode?_congr concord _ _ related := by
    refine bind_congr_of_rel (Fields.read?_rel concord related _) fun fields others alike => ?_
    simp only [alike.required concord, alike.optional concord]

instance : Impartial SessionStart where
  decode?_congr concord _ _ related := by
    refine bind_congr_of_rel (Fields.read?_rel concord related _) fun fields others alike => ?_
    simp only [alike.required concord]

instance : Impartial Configuration where
  decode?_congr concord _ _ related := by
    refine bind_congr_of_rel (Fields.readClosed?_rel concord related _)
      fun fields others alike => ?_
    simp only [alike.optional concord]

instance : Impartial LocalConfiguration where
  decode?_congr concord _ _ related := by
    refine bind_congr_of_rel (Fields.read?_rel concord related _) fun fields others alike => ?_
    simp only [alike.optional concord]

/-! ### Reasons and events -/

section

variable {D E : Type} [Document D] [Document E] {R : D → E → Prop}

theorem FlushReason.writtenName?_congr (concord : Concord R) {first : D} {second : E}
    (related : R first second) : writtenName? first = writtenName? second := by
  have members := concord.members? related
  unfold writtenName?
  rw [concord.text? related]
  revert members
  generalize Document.members? first = ours
  generalize Document.members? second = theirs
  rintro (matching | _)
  · rcases matching.single_or with ⟨key, value, other, rfl, rfl, kept⟩ | ⟨several, alsoSeveral⟩
    · simp only [concord.isNull kept.1]
    · rcases eq_nil_or_of_length_ne_one several with rfl | ⟨_, _, _, rfl⟩ <;>
        rcases eq_nil_or_of_length_ne_one alsoSeveral with rfl | ⟨_, _, _, rfl⟩ <;> rfl
  · rfl

namespace EventKind

theorem ofFields?_congr (concord : Concord R) (tag : Tag) {fields : Option (Fields D)}
    {others : Option (Fields E)} (related : Option.Rel (Fields.Alike R) fields others) :
    ofFields? tag fields = ofFields? tag others := by
  cases tag with
  | started =>
      refine bind_congr_of_rel related fun ours theirs alike => ?_
      simp only [alike.required concord]
  | finished => rfl

theorem ofMembers?_congr (concord : Concord R) {readTag : D → Option Tag}
    {readOther : E → Option Tag}
    (same : ∀ first second, R first second → readTag first = readOther second)
    {first : List (String × D)} {second : List (String × E)} (matching : Matching R first second) :
    ofMembers? readTag first = ofMembers? readOther second := by
  have others := matching.filter fun key => !(key == "type")
  have fields := Fields.ofMembers?_rel others fieldNames
  unfold ofMembers?
  simp only [List.partition_eq_filter_filter, Function.comp_def]
  rcases (matching.filter fun key => key == "type").single_or with
    ⟨key, value, other, ours, theirs, kept⟩ | ⟨several, alsoSeveral⟩
  · rw [ours, theirs]
    dsimp only
    rw [same value other kept.1, others.all_isKeepable]
    congr 1
    funext tag
    rw [ofFields?_congr concord tag fields]
  · rcases eq_nil_or_of_length_ne_one several with ours | ⟨_, _, _, ours⟩ <;>
      rcases eq_nil_or_of_length_ne_one alsoSeveral with theirs | ⟨_, _, _, theirs⟩ <;>
      rw [ours, theirs]

theorem ofElements?_congr (concord : Concord R) {readTag : D → Option Tag}
    {readOther : E → Option Tag}
    (same : ∀ first second, R first second → readTag first = readOther second)
    {first : List D} {second : List E} (related : List.Forall₂ (Kept R) first second) :
    ofElements? readTag first = ofElements? readOther second := by
  cases related with
  | nil => rfl
  | @cons document other documents others kept related =>
      have fields := Fields.ofElements?_rel related fieldNames
      have keepable : documents.all Document.isKeepable = others.all Document.isKeepable := by
        clear fields
        induction related with
        | nil => rfl
        | cons kept _ inductionHypothesis =>
            rw [List.all_cons, List.all_cons, kept.2, inductionHypothesis]
      have empty : documents.isEmpty = others.isEmpty := by
        cases related <;> rfl
      rw [ofElements?, ofElements?, same document other kept.1, keepable, empty]
      congr 1
      funext tag
      rw [ofFields?_congr concord tag fields]

theorem nameTag?_congr (concord : Concord R) (first : D) (second : E) (related : R first second) :
    nameTag? first = nameTag? second := by
  simp only [nameTag?, concord.text? related]

theorem nameOrNumberTag?_congr (concord : Concord R) (first : D) (second : E)
    (related : R first second) : nameOrNumberTag? first = nameOrNumberTag? second := by
  simp only [nameOrNumberTag?, concord.text? related, concord.natural? related]

end EventKind

end

instance : Impartial FlushReason where
  decode?_congr concord _ _ related := by
    simp only [WireForm.decode?, FlushReason.writtenName?_congr concord related]

instance : Impartial EventKind where
  decode?_congr {D E} _ _ {R} concord first second related := by
    have elements : (Document.elements? first).bind (EventKind.ofElements? EventKind.nameTag?) =
        (Document.elements? second).bind (EventKind.ofElements? EventKind.nameTag?) :=
      bind_congr_of_rel (concord.elements? related) fun _ _ =>
        EventKind.ofElements?_congr concord (EventKind.nameTag?_congr concord)
    have members := concord.members? related
    simp only [WireForm.decode?, elements]
    revert members
    generalize Document.members? first = ours
    generalize Document.members? second = theirs
    rintro (matching | _)
    · exact EventKind.ofMembers?_congr concord (EventKind.nameTag?_congr concord) matching
    · rfl

instance : Impartial CaptureEvent where
  decode?_congr concord _ _ related := by
    refine bind_congr_of_rel (concord.members? related) fun ours theirs matching => ?_
    have own := matching.filter fun key => CaptureEvent.fieldNames.contains key
    have others := matching.filter fun key => !CaptureEvent.fieldNames.contains key
    have tag := EventKind.nameOrNumberTag?_congr concord
    have kind := EventKind.ofMembers?_congr concord tag others
    simp only [List.partition_eq_filter_filter, Function.comp_def, kind]
    refine bind_congr_of_rel (Fields.ofMembers?_rel own _) fun fields others alike => ?_
    simp only [alike.required concord]

end ContentCapture
