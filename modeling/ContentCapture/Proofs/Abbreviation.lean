import ContentCapture.Proofs.Simulation

namespace ContentCapture

/-!
# Short names of components

The short form of a name drops the package from the class if a point stands behind it there.  What
is left of such a class begins with a point.  So a reader who knows that no package has a slash in
it, and that no class begins with a point, can tell the name from its short form: the package ends
at the first slash, and it belongs in front of the rest exactly if the rest begins with a point.

A simulated session is bound to a token that is made of the short form, and so to a token of its
own for each such component.
-/

namespace Text

/-- The first slash tells what stands in front of it, and what stands behind it. -/
theorem append_slash_inj {front other rest otherRest : String} (plain : '/' ∉ front.toList)
    (otherPlain : '/' ∉ other.toList) (same : front ++ "/" ++ rest = other ++ "/" ++ otherRest) :
    front = other ∧ rest = otherRest := by
  have letters : front.toList ++ '/' :: rest.toList = other.toList ++ '/' :: otherRest.toList := by
    simpa using congrArg String.toList same
  have fronts := congrArg (List.takeWhile (· != '/')) letters
  have rests := congrArg (List.dropWhile (· != '/')) letters
  rw [takeWhile_append_cons plain, takeWhile_append_cons otherPlain] at fronts
  rw [dropWhile_append_cons plain, dropWhile_append_cons otherPlain] at rests
  exact ⟨String.toList_inj.mp fronts, String.toList_inj.mp (List.cons.inj rests).2⟩

end Text

namespace ComponentName

variable {name other : ComponentName}

/-- The package has no slash in it, and the class does not begin with a point. -/
def IsRegular (name : ComponentName) : Prop :=
  '/' ∉ name.packageName.toList ∧ name.className.toList.head? ≠ some '.'

instance : Decidable name.IsRegular := inferInstanceAs (Decidable (_ ∧ _))

/-- The class is the package and more, which begins with a point. -/
def IsInside (name : ComponentName) (rest : String) : Prop :=
  rest.toList.head? = some '.' ∧ name.className = name.packageName ++ rest

theorem shortText_of_isInside {rest : String} (inside : name.IsInside rest) :
    name.shortText = name.packageName ++ "/" ++ rest := by
  rcases inside with ⟨point, inside⟩
  rcases List.head?_eq_some_iff.mp point with ⟨others, letters⟩
  have behind : Text.behind? name.packageName.toList name.className.toList =
      some ('.' :: others) := by
    rw [Text.behind?_eq_some_iff, inside, String.toList_append, letters]
  have text : String.ofList ('.' :: others) = rest := by rw [← letters, String.ofList_toList]
  simp only [shortText, behind, text]

theorem shortText_of_not_isInside (outside : ∀ rest, ¬ name.IsInside rest) :
    name.shortText = name.packageName ++ "/" ++ name.className := by
  rw [shortText]
  split
  · next others behind =>
      refine absurd ⟨by simp, ?_⟩ (outside (String.ofList ('.' :: others)))
      rw [← String.toList_inj, String.toList_append, String.toList_ofList]
      exact Text.behind?_eq_some_iff.mp behind
  · rfl

/-- What is left of the class begins with a point exactly if the package was dropped from it. -/
theorem IsRegular.exists_shortText_eq (regular : name.IsRegular) :
    ∃ rest, name.shortText = name.packageName ++ "/" ++ rest ∧
      name.className = if rest.toList.head? = some '.' then name.packageName ++ rest else rest := by
  by_cases inside : ∃ rest, name.IsInside rest
  · rcases inside with ⟨rest, inside⟩
    exact ⟨rest, shortText_of_isInside inside, by rw [if_pos inside.1, inside.2]⟩
  · exact ⟨name.className, shortText_of_not_isInside (not_exists.mp inside),
      by rw [if_neg regular.2]⟩

/-- Regular names are told by their short forms. -/
theorem IsRegular.eq_of_shortText_eq (regular : name.IsRegular) (otherRegular : other.IsRegular)
    (same : name.shortText = other.shortText) : name = other := by
  rcases regular.exists_shortText_eq with ⟨rest, short, whole⟩
  rcases otherRegular.exists_shortText_eq with ⟨otherRest, otherShort, otherWhole⟩
  rw [short, otherShort] at same
  rcases Text.append_slash_inj regular.1 otherRegular.1 same with ⟨packages, rests⟩
  have classes : name.className = other.className := by
    rw [whole, otherWhole, packages, rests]
  cases name
  cases other
  cases packages
  cases classes
  rfl

/-- A class that begins with a point is taken for one that its package was dropped from. -/
example : (⟨"a", ".B"⟩ : ComponentName).shortText = (⟨"a", "a.B"⟩ : ComponentName).shortText := by
  decide +kernel

end ComponentName

namespace CommandLine

open Deployment

variable {meanwhile : Deployment LocalService → Deployment LocalService}

theorem startedToken_inj {component other : ComponentName}
    (same : startedToken component = startedToken other) :
    component.shortText = other.shortText := by
  have texts : (component.shortText ++ "@1").toList = (other.shortText ++ "@1").toList :=
    congrArg (String.toList ∘ ActivityToken.text) same
  rw [String.toList_append, String.toList_append] at texts
  exact String.toList_inj.mp (List.append_cancel_right texts)

/-- A session that a simulation leaves when it is done. -/
def LeavesSession (packageName activity : String) (session : Session) : Prop :=
  ∃ meanwhile configuration disable stop now, Thorough meanwhile ∧
    simulated meanwhile (connected configuration packageName) packageName disable stop activity =
      .ok now ∧
    (now.observeSession 0).1 = some session

/-- It is the session of the component that was started, and bound to its token. -/
theorem LeavesSession.token_and_component {packageName activity : String} {session : Session}
    (leaves : LeavesSession packageName activity session) :
    session.token = some (startedToken (startedComponent packageName activity)) ∧
      session.component = some (startedComponent packageName activity) := by
  rcases leaves with ⟨meanwhile, configuration, disable, stop, now, thorough, done, left⟩
  cases proper : startFault? (startedToken (startedComponent packageName activity))
      (startedComponent packageName activity) with
  | some fault =>
      rw [simulated_of_fault _ rfl proper] at done
      cases done
  | none =>
      cases disable with
      | false =>
          rcases simulated_enabled thorough configuration rfl proper stop with
            ⟨later, journal, also, looked⟩
          cases done.symm.trans also
          rw [observeSession, looked] at left
          cases left
          cases stop <;> exact ⟨rfl, rfl⟩
      | true =>
          rcases simulated_disabled configuration rfl proper stop with ⟨later, also, looked⟩
          cases done.symm.trans also
          rw [observeSession, looked] at left
          cases left
          cases stop <;> exact ⟨rfl, rfl⟩

/-- A component is told by its short form, if its package has no slash in it and its class does not
begin with a point.  The short form leaves the package out of a class that is the package and more,
which begins with a point; otherwise it is the whole name.  So simulations of such components are
bound to the same token only if the component is the same. -/
theorem shortText_identifies :
    (∀ name other : ComponentName, name.IsRegular → other.IsRegular →
        name.shortText = other.shortText → name = other) ∧
      (∀ name : ComponentName,
        (∀ rest : String, rest.toList.head? = some '.' →
          name.className = name.packageName ++ rest →
            name.shortText = name.packageName ++ "/" ++ rest) ∧
        ((∀ rest : String, rest.toList.head? = some '.' →
          name.className ≠ name.packageName ++ rest) → name.shortText = name.text)) ∧
      (∀ packageName otherPackage activity otherActivity,
        (startedComponent packageName activity).IsRegular →
          (startedComponent otherPackage otherActivity).IsRegular →
            startedToken (startedComponent packageName activity) =
                startedToken (startedComponent otherPackage otherActivity) →
              startedComponent packageName activity =
                startedComponent otherPackage otherActivity) ∧
      ∀ packageName activity session, LeavesSession packageName activity session →
        session.token = some (startedToken (startedComponent packageName activity)) ∧
          session.component = some (startedComponent packageName activity) := by
  refine ⟨fun _ _ regular otherRegular same => regular.eq_of_shortText_eq otherRegular same,
    fun name => ⟨fun rest point inside => ?_, fun outside => ?_⟩,
    fun _ _ _ _ regular otherRegular same => ?_, fun _ _ _ leaves => leaves.token_and_component⟩
  · exact ComponentName.shortText_of_isInside ⟨point, inside⟩
  · exact ComponentName.shortText_of_not_isInside fun rest inside =>
      outside rest inside.1 inside.2
  · exact regular.eq_of_shortText_eq otherRegular (startedToken_inj same)

/-- One activity under its short and its full name. -/
theorem shortText_identifies_namedTwice :
    let component : ComponentName := ⟨"org.example", "org.example.Main"⟩
    component.IsRegular ∧ component.shortText = "org.example/.Main" ∧
      startedComponent "org.example" ".Main" =
        startedComponent "org.example" "org.example.Main" ∧
      ∃ session, LeavesSession "org.example" ".Main" session ∧
        session.token = some ⟨"org.example/.Main@1"⟩ ∧ session.component = some component := by
  intro component
  rcases shortText_identifies with ⟨-, forms, tokens, sessions⟩
  have regular : component.IsRegular := by decide +kernel
  have short : component.shortText = "org.example/.Main" :=
    (forms component).1 ".Main" (by decide +kernel) (by decide +kernel)
  have started : startedComponent "org.example" ".Main" = component := by decide +kernel
  have same := tokens "org.example" "org.example" ".Main" "org.example.Main"
    (by decide +kernel) (by decide +kernel) (by decide +kernel)
  rcases simulated_enabled thorough_settle {} started (by decide +kernel) false with
    ⟨now, journal, done, looked⟩
  have left : (now.observeSession 0).1 =
      some (activeSession (startedToken component) component false) := by
    rw [observeSession, looked]
    rfl
  have leaves : LeavesSession "org.example" ".Main"
      (activeSession (startedToken component) component false) :=
    ⟨Deployment.settle, {}, false, false, now, thorough_settle, done, left⟩
  rcases sessions _ _ _ leaves with ⟨bound, shown⟩
  rw [started] at bound shown
  have token : startedToken component = ⟨"org.example/.Main@1"⟩ := by
    rw [startedToken, short]
    rfl
  exact ⟨regular, short, same, _, leaves, token ▸ bound, shown⟩

end CommandLine
end ContentCapture
