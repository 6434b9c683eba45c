import ContentCapture.Json.Document
import Mathlib.Data.List.Forall2
import Mathlib.Data.List.Nodup
import Mathlib.Data.Option.Basic
import Mathlib.Logic.Relation

namespace ContentCapture
namespace Json
namespace Written

/-!
# What a JSON text denotes

A JSON text denotes a value if the texts in it denote texts, its numbers are not too large, and
it does not nest too deep.  If no object in it repeats a key then the value has the shape of the
text, element by element and member by member.

Whether a text denotes a value does not depend on the order of members, and neither does whether
a key is repeated.  A rearrangement is made in a single object, which may be anywhere in the text.
-/

/-- A property of all JSON texts is shown of a text from what is so of its immediate parts. -/
@[elab_as_elim]
theorem inductionOnParts {motive : Written → Prop} (null : motive .null)
    (bool : ∀ value, motive (.bool value)) (number : ∀ literal, motive (.number literal))
    (text : ∀ pieces, motive (.text pieces))
    (array : ∀ elements, (∀ element ∈ elements, motive element) → motive (.array elements))
    (object : ∀ members, (∀ member ∈ members, motive member.2) → motive (.object members))
    (written : Written) : motive written := by
  refine @Written.rec motive (fun elements => ∀ element ∈ elements, motive element)
    (fun members => ∀ member ∈ members, motive member.2) (fun member => motive member.2)
    null bool number text array object (by simp) ?_ (by simp) ?_ (fun _ _ ofValue => ofValue)
    written
  · intro element elements ofElement ofElements
    exact List.forall_mem_cons.mpr ⟨ofElement, ofElements⟩
  · intro member members ofMember ofMembers
    exact List.forall_mem_cons.mpr ⟨ofMember, ofMembers⟩

/-! ## Levels -/

theorem elements?_mono {levels more : Nat} {elements : List Written}
    (mono : ∀ element ∈ elements, ∀ value, value? levels element = some value →
      value? more element = some value)
    {values : List Value} (denoted : elements? levels elements = some values) :
    elements? more elements = some values := by
  induction elements generalizing values with
  | nil =>
      rw [elements?] at denoted ⊢
      exact denoted
  | cons element elements inductionHypothesis =>
      rw [List.forall_mem_cons] at mono
      simp only [elements?, Option.bind_eq_bind, Option.bind_eq_some_iff] at denoted ⊢
      rcases denoted with ⟨value, first, rest, others, whole⟩
      exact ⟨value, mono.1 value first, rest, inductionHypothesis mono.2 others, whole⟩

theorem members?_mono {levels more : Nat} {members : List (List Piece × Written)}
    (mono : ∀ member ∈ members, ∀ value, value? levels member.2 = some value →
      value? more member.2 = some value)
    {values : List (String × Value)} (denoted : members? levels members = some values) :
    members? more members = some values := by
  induction members generalizing values with
  | nil =>
      rw [members?] at denoted ⊢
      exact denoted
  | cons member members inductionHypothesis =>
      rcases member with ⟨pieces, written⟩
      rw [List.forall_mem_cons] at mono
      simp only [members?, Option.bind_eq_bind, Option.bind_eq_some_iff] at denoted ⊢
      rcases denoted with ⟨key, hkey, value, first, rest, others, whole⟩
      exact ⟨key, hkey, value, mono.1 value first, rest, inductionHypothesis mono.2 others, whole⟩

/-- A text that may nest deeper denotes what it denotes anyway. -/
theorem value?_mono (written : Written) :
    ∀ {levels more : Nat} {value : Value}, value? levels written = some value → levels ≤ more →
      value? more written = some value := by
  induction written using inductionOnParts with
  | null | bool value | number literal | text pieces =>
      intro levels more value denoted _
      rw [value?] at denoted ⊢
      exact denoted
  | array elements mono =>
      intro levels more value denoted within
      cases levels with
      | zero => simp [value?] at denoted
      | succ levels =>
          obtain ⟨more, rfl⟩ : ∃ less, more = less + 1 := ⟨more - 1, by omega⟩
          rw [value?, Option.map_eq_some_iff] at denoted ⊢
          rcases denoted with ⟨values, all, same⟩
          exact ⟨values, elements?_mono (fun element member value denoted =>
            mono element member denoted (Nat.le_of_succ_le_succ within)) all, same⟩
  | object members mono =>
      intro levels more value denoted within
      cases levels with
      | zero => simp [value?] at denoted
      | succ levels =>
          obtain ⟨more, rfl⟩ : ∃ less, more = less + 1 := ⟨more - 1, by omega⟩
          rw [value?, Option.map_eq_some_iff] at denoted ⊢
          rcases denoted with ⟨values, all, same⟩
          exact ⟨values, members?_mono (fun member there value denoted =>
            mono member there denoted (Nat.le_of_succ_le_succ within)) all, same⟩

/-! ## The shape of the value -/

theorem elements?_eq_some_iff {levels : Nat} {elements : List Written} {values : List Value} :
    elements? levels elements = some values ↔
      List.Forall₂ (fun element value => value? levels element = some value) elements values := by
  induction elements generalizing values with
  | nil => cases values <;> simp [elements?]
  | cons element elements inductionHypothesis =>
      simp only [elements?, Option.bind_eq_bind, Option.bind_eq_some_iff, Option.pure_def,
        Option.some_inj]
      constructor
      · rintro ⟨value, first, rest, others, rfl⟩
        exact .cons first (inductionHypothesis.mp others)
      · intro denoted
        cases denoted with
        | cons first others => exact ⟨_, first, _, inductionHypothesis.mpr others, rfl⟩

/-- The keys of members, as far as they denote texts. -/
def keys (members : List (List Piece × Written)) : List (Option String) :=
  members.map fun member => text? member.1

/-- A member denotes a key and a value. -/
def MemberDenotes (levels : Nat) (member : List Piece × Written) (value : String × Value) : Prop :=
  text? member.1 = some value.1 ∧ value? levels member.2 = some value.2

theorem keys_eq_of_memberDenotes {levels : Nat} {members : List (List Piece × Written)}
    {values : List (String × Value)}
    (denoted : List.Forall₂ (MemberDenotes levels) members values) :
    keys members = values.map fun value => some value.1 := by
  induction denoted with
  | nil => rfl
  | cons first _ inductionHypothesis =>
      rw [keys, List.map_cons, List.map_cons, first.1, ← inductionHypothesis]
      rfl

/-- Members that repeat no key denote members with those keys, one by one. -/
theorem members?_eq_some_iff {levels : Nat} {members : List (List Piece × Written)}
    (distinct : (keys members).Nodup) {values : List (String × Value)} :
    members? levels members = some values ↔
      List.Forall₂ (MemberDenotes levels) members values := by
  induction members generalizing values with
  | nil => cases values <;> simp [members?]
  | cons member members inductionHypothesis =>
      rcases member with ⟨pieces, written⟩
      rw [keys, List.map_cons, List.nodup_cons] at distinct
      have unshadowed {key : String} {value : Value} {rest : List (String × Value)}
          (hkey : text? pieces = some key)
          (others : List.Forall₂ (MemberDenotes levels) members rest) :
          consMember key value rest = (key, value) :: rest := by
        have absent : rest.lookup key = none := by
          rw [List.lookup_eq_none_iff]
          intro other there
          have present : some other.1 ∈ keys members := by
            rw [keys_eq_of_memberDenotes others]
            exact List.mem_map_of_mem (f := fun value => some value.1) there
          have different : key ≠ other.1 := by
            rintro rfl
            exact distinct.1 (hkey ▸ present)
          simp [different]
        simp [consMember, absent]
      simp only [members?, Option.bind_eq_bind, Option.bind_eq_some_iff, Option.pure_def,
        Option.some_inj]
      constructor
      · rintro ⟨key, hkey, value, first, rest, others, whole⟩
        have shape := (inductionHypothesis distinct.2).mp others
        rw [unshadowed hkey shape] at whole
        subst whole
        exact .cons ⟨hkey, first⟩ shape
      · intro denoted
        cases denoted with
        | @cons _ value _ rest first others =>
            exact ⟨value.1, first.1, value.2, first.2, rest,
              (inductionHypothesis distinct.2).mpr others, unshadowed first.1 others⟩

/-- What a text denotes, told by what it is. -/
inductive Denotes : Nat → Written → Value → Prop
  | null {levels : Nat} : Denotes levels .null .null
  | bool {levels : Nat} {value : Bool} : Denotes levels (.bool value) (.bool value)
  | number {levels : Nat} {literal : Literal} : Denotes levels (.number literal) (.number literal)
  | text {levels : Nat} {pieces : List Piece} {text : String} (denoted : text? pieces = some text) :
      Denotes levels (.text pieces) (.text text)
  | array {levels : Nat} {elements : List Written} {values : List Value}
      (denoted : elements? levels elements = some values) :
      Denotes (levels + 1) (.array elements) (.array values)
  | object {levels : Nat} {members : List (List Piece × Written)}
      {values : List (String × Value)} (denoted : members? levels members = some values) :
      Denotes (levels + 1) (.object members) (.object values)

theorem denotes_of_value? {levels : Nat} {written : Written} {value : Value}
    (denoted : value? levels written = some value) : Denotes levels written value := by
  cases written with
  | null =>
      rw [value?, Option.some_inj] at denoted
      exact denoted ▸ .null
  | bool truth =>
      rw [value?, Option.some_inj] at denoted
      exact denoted ▸ .bool
  | number literal =>
      rw [value?, Option.ite_none_right_eq_some, Option.some_inj] at denoted
      exact denoted.2 ▸ .number
  | text pieces =>
      rw [value?, Option.map_eq_some_iff] at denoted
      rcases denoted with ⟨text, denoted, rfl⟩
      exact .text denoted
  | array elements =>
      cases levels with
      | zero => simp [value?] at denoted
      | succ levels =>
          rw [value?, Option.map_eq_some_iff] at denoted
          rcases denoted with ⟨values, denoted, rfl⟩
          exact .array denoted
  | object members =>
      cases levels with
      | zero => simp [value?] at denoted
      | succ levels =>
          rw [value?, Option.map_eq_some_iff] at denoted
          rcases denoted with ⟨values, denoted, rfl⟩
          exact .object denoted

/-! ## Texts that denote something -/

theorem isSome_elements?_iff (levels : Nat) (elements : List Written) :
    (elements? levels elements).isSome = true ↔
      ∀ element ∈ elements, (value? levels element).isSome = true := by
  induction elements with
  | nil => simp [elements?]
  | cons element elements inductionHypothesis =>
      rw [List.forall_mem_cons, ← inductionHypothesis, elements?]
      cases value? levels element <;> cases elements? levels elements <;> simp

theorem isSome_members?_iff (levels : Nat) (members : List (List Piece × Written)) :
    (members? levels members).isSome = true ↔
      ∀ member ∈ members, (text? member.1).isSome = true ∧
        (value? levels member.2).isSome = true := by
  induction members with
  | nil => simp [members?]
  | cons member members inductionHypothesis =>
      rcases member with ⟨pieces, written⟩
      rw [List.forall_mem_cons, ← inductionHypothesis, members?]
      cases text? pieces <;> cases value? levels written <;> cases members? levels members <;> simp

/-! ## Repeated keys -/

/-- A JSON text is a part of another one, which may be the text itself. -/
inductive Part : Written → Written → Prop
  | whole (written : Written) : Part written written
  | element {part element : Written} {elements : List Written} (there : element ∈ elements)
      (inside : Part part element) : Part part (.array elements)
  | member {part : Written} {member : List Piece × Written}
      {members : List (List Piece × Written)} (there : member ∈ members)
      (inside : Part part member.2) : Part part (.object members)

/-- No object in a JSON text repeats a key. -/
def Unrepeated (written : Written) : Prop :=
  ∀ members, Part (.object members) written → (keys members).Nodup

/-- What is neither an array nor an object has no object in it. -/
theorem unrepeated_of_scalar {written : Written} (noArray : ∀ elements, written ≠ .array elements)
    (noObject : ∀ members, written ≠ .object members) : Unrepeated written := by
  intro members inside
  cases inside with
  | whole => exact absurd rfl (noObject members)
  | element there inside => exact absurd rfl (noArray _)
  | member there inside => exact absurd rfl (noObject _)

theorem unrepeated_array_iff (elements : List Written) :
    Unrepeated (.array elements) ↔ ∀ element ∈ elements, Unrepeated element := by
  constructor
  · exact fun unrepeated element there members inside => unrepeated members (.element there inside)
  · intro unrepeated members inside
    cases inside with
    | element there inside => exact unrepeated _ there members inside

theorem unrepeated_object_iff (members : List (List Piece × Written)) :
    Unrepeated (.object members) ↔
      (keys members).Nodup ∧ ∀ member ∈ members, Unrepeated member.2 := by
  constructor
  · exact fun unrepeated => ⟨unrepeated members (.whole _),
      fun member there inner inside => unrepeated inner (.member there inside)⟩
  · rintro ⟨distinct, unrepeated⟩ inner inside
    cases inside with
    | whole => exact distinct
    | member there inside => exact unrepeated _ there inner inside

/-! ## Rearrangements -/

/-- The members of one object in a JSON text are put in another order. -/
inductive Rearranged : Written → Written → Prop
  | members {members others : List (List Piece × Written)} (order : members.Perm others) :
      Rearranged (.object members) (.object others)
  | element (front : List Written) {element other : Written} (back : List Written)
      (inside : Rearranged element other) :
      Rearranged (.array (front ++ element :: back)) (.array (front ++ other :: back))
  | member (front : List (List Piece × Written)) (key : List Piece) {value other : Written}
      (back : List (List Piece × Written)) (inside : Rearranged value other) :
      Rearranged (.object (front ++ (key, value) :: back)) (.object (front ++ (key, other) :: back))

/-- Whether a text denotes anything does not depend on the order of members. -/
theorem Rearranged.isSome_value? {written other : Written} (rearranged : Rearranged written other)
    (levels : Nat) : (value? levels other).isSome = (value? levels written).isSome := by
  induction rearranged generalizing levels with
  | members order =>
      cases levels with
      | zero => rw [value?, value?]
      | succ levels =>
          rw [value?, value?, Option.isSome_map, Option.isSome_map, Bool.eq_iff_iff,
            isSome_members?_iff, isSome_members?_iff]
          simp only [order.mem_iff]
  | element front back _ inductionHypothesis =>
      cases levels with
      | zero => rw [value?, value?]
      | succ levels =>
          rw [value?, value?, Option.isSome_map, Option.isSome_map, Bool.eq_iff_iff,
            isSome_elements?_iff, isSome_elements?_iff]
          simp only [List.forall_mem_append, List.forall_mem_cons, inductionHypothesis]
  | member front key back _ inductionHypothesis =>
      cases levels with
      | zero => rw [value?, value?]
      | succ levels =>
          rw [value?, value?, Option.isSome_map, Option.isSome_map, Bool.eq_iff_iff,
            isSome_members?_iff, isSome_members?_iff]
          simp only [List.forall_mem_append, List.forall_mem_cons, inductionHypothesis]

/-- Whether a key is repeated does not depend on the order of members. -/
theorem Rearranged.unrepeated_iff {written other : Written}
    (rearranged : Rearranged written other) : Unrepeated other ↔ Unrepeated written := by
  induction rearranged with
  | members order =>
      have sameKeys := order.map fun member => text? member.1
      rw [unrepeated_object_iff, unrepeated_object_iff, keys, keys, sameKeys.nodup_iff]
      simp only [order.mem_iff]
  | element front back _ inductionHypothesis =>
      rw [unrepeated_array_iff, unrepeated_array_iff]
      simp only [List.forall_mem_append, List.forall_mem_cons, inductionHypothesis]
  | member front key back _ inductionHypothesis =>
      rw [unrepeated_object_iff, unrepeated_object_iff]
      simp only [keys, List.map_append, List.map_cons, List.forall_mem_append,
        List.forall_mem_cons, inductionHypothesis]

end Written
end Json
end ContentCapture
