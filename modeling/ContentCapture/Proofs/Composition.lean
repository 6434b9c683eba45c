import ContentCapture.Proofs.Scanning
import Mathlib.Algebra.BigOperators.Group.List.Basic

namespace ContentCapture
namespace CommandLine

/-!
# Composing command lines

What is wanted of a command can be written in many ways.  The options that are common to all
commands may be written before any command or behind any that is named, and the arguments at one
level may be written in any order.  More output may be asked for in full or by a letter, and
letters may share a dash.

However a command line is composed, it is understood as it is meant, and what is not written is
what it is by default.
-/

/-! ## What is written -/

/-- A command as far as it is written. -/
inductive Errand where
  | simulate (disable stop : Bool) (activity : Option String)
  | featureGet
  | featureSet (enabled : Bool)
  | service
  deriving DecidableEq

namespace Errand

def command : Errand → Command
  | simulate disable stop activity => .simulate disable stop (activity.getD ".MainActivity")
  | featureGet => .featureGet
  | featureSet enabled => .featureSet enabled
  | service => .service

/-- The names that are written, and the level that each opens. -/
def path : Errand → List (String × Level)
  | simulate _ _ _ => [("simulate", .simulate)]
  | featureGet => [("feature", .feature), ("get", .featureGet)]
  | featureSet _ => [("feature", .feature), ("set", .featureSet)]
  | service => [("service", .service)]

/-- The levels at which arguments may be written. -/
def levels (errand : Errand) : List Level :=
  .top :: errand.path.map Prod.snd

def own : Errand → List Argument
  | simulate disable stop activity =>
      (if disable then [.disable] else []) ++ (if stop then [.stop] else []) ++
        activity.toList.map .activity
  | featureSet enabled => [.enabled enabled]
  | _ => []

def level : Errand → Level
  | simulate _ _ _ => .simulate
  | featureGet => .featureGet
  | featureSet _ => .featureSet
  | service => .service

/-- The command line, given the arguments that are written at each level. -/
def line (errand : Errand) (sections : Level → List Argument) : List String :=
  (sections .top).map Argument.text ++
    errand.path.flatMap fun (name, level) => name :: (sections level).map Argument.text

end Errand

/-- What is wanted.  The name of a file is not empty. -/
structure Wish where
  emphases : List Emphasis
  configuration : Option String
  packageName : Option String
  errand : Errand
  configuration_ne : configuration ≠ some ""

namespace Wish

/-- How often more output is asked for. -/
def verbosity (wish : Wish) : Nat :=
  (wish.emphases.map Emphasis.count).sum

def arguments (wish : Wish) : List Argument :=
  wish.emphases.map .louder ++ (wish.configuration.toList.map .configuration ++
    wish.packageName.toList.map .packageName ++ wish.errand.own)

end Wish

/-- The level at which each of the common options is written. -/
structure Places (errand : Errand) where
  emphases : Level
  configuration : Level
  packageName : Level
  emphases_mem : emphases ∈ errand.levels
  configuration_mem : configuration ∈ errand.levels
  packageName_mem : packageName ∈ errand.levels

/-- The level at which an argument is written.  What is no common option is written where the
command itself is named. -/
def Places.of {errand : Errand} (places : Places errand) : Argument → Level
  | .louder _ => places.emphases
  | .configuration _ => places.configuration
  | .packageName _ => places.packageName
  | _ => errand.level

/-! ## What is wanted -/

namespace Argument

/-- Whether an argument gives one of the options that are common to all commands. -/
def isCommon : Argument → Bool
  | louder _ => true
  | configuration _ => true
  | packageName _ => true
  | _ => false

variable {argument other : Argument}

theorem apart_of_isCommon (common : argument.isCommon = true) (own : other.isCommon = false) :
    argument.Apart other := by
  cases argument <;> cases other <;> simp_all [Apart, flag?, isCommon]

end Argument

namespace Errand

variable {errand : Errand} {argument : Argument}

theorem isCommon_of_mem_own (member : argument ∈ errand.own) : argument.isCommon = false := by
  cases errand <;> grind [own, Argument.isCommon]

theorem belongs_of_mem_own (member : argument ∈ errand.own) (places : Places errand) :
    argument.Belongs (places.of argument) := by
  cases errand <;>
    grind [own, Argument.Belongs, Argument.flag?, Places.of, level, Level.accepts]

theorem apart_own (errand : Errand) : errand.own.Pairwise Argument.Apart := by
  cases errand with
  | simulate disable stop activity =>
      cases disable <;> cases stop <;> cases activity <;>
        simp [own, Argument.Apart, Argument.flag?]
  | _ => simp [own]

end Errand

namespace Wish

variable (wish : Wish) {argument : Argument}

/-- What is wanted includes what an argument says. -/
def Says : Argument → Prop
  | .louder emphasis => emphasis ∈ wish.emphases
  | .configuration path => wish.configuration = some path
  | .packageName name => wish.packageName = some name
  | argument => argument ∈ wish.errand.own

theorem mem_arguments_iff : argument ∈ wish.arguments ↔ wish.Says argument := by
  have foreign (common : argument.isCommon = true) : argument ∉ wish.errand.own := by
    intro own
    rw [Errand.isCommon_of_mem_own own] at common
    cases common
  cases argument with
  | louder emphasis => simp [arguments, Says, foreign rfl]
  | configuration path => simp [arguments, Says, foreign rfl]
  | packageName name => simp [arguments, Says, foreign rfl]
  | _ => simp [arguments, Says]

theorem fits_of_mem (member : argument ∈ wish.arguments) : argument.Fits {} := by
  cases argument with
  | louder emphasis => trivial
  | configuration path =>
      have named : wish.configuration = some path := wish.mem_arguments_iff.mp member
      exact ⟨rfl, fun empty => wish.configuration_ne (empty ▸ named)⟩
  | _ => rfl

theorem belongs_of_mem (places : Places wish.errand) (member : argument ∈ wish.arguments) :
    argument.Belongs (places.of argument) := by
  have wanted := wish.mem_arguments_iff.mp member
  cases argument with
  | louder emphasis => rfl
  | configuration path => rfl
  | packageName name => rfl
  | _ => exact Errand.belongs_of_mem_own wanted places

theorem apart_arguments : wish.arguments.Pairwise Argument.Apart := by
  have loud : (wish.emphases.map Argument.louder).Pairwise Argument.Apart :=
    List.pairwise_map.mpr (List.pairwise_of_forall fun _ _ _ => rfl)
  have configured : (wish.configuration.toList.map Argument.configuration).Pairwise
      Argument.Apart := by
    cases wish.configuration <;> simp
  have packaged : (wish.packageName.toList.map Argument.packageName).Pairwise
      Argument.Apart := by
    cases wish.packageName <;> simp
  have common : ∀ argument ∈ wish.configuration.toList.map Argument.configuration ++
      wish.packageName.toList.map Argument.packageName, argument.isCommon = true := by
    simp +contextual [or_imp, forall_and, Argument.isCommon]
  rw [arguments, List.pairwise_append, List.pairwise_append, List.pairwise_append]
  refine ⟨loud, ⟨⟨configured, packaged, ?_⟩, wish.errand.apart_own, ?_⟩, ?_⟩
  · simp [Argument.Apart, Argument.flag?]
  · exact fun argument member other own =>
      Argument.apart_of_isCommon (common argument member) (Errand.isCommon_of_mem_own own)
  · simp [Argument.Apart, Argument.flag?]

/-- Only the option for more output counts, and it is written at one level. -/
theorem sum_count_filter (places : Places wish.errand) (level : Level) :
    ((wish.arguments.filter fun argument => places.of argument = level).map Argument.count).sum =
      if places.emphases = level then wish.verbosity else 0 := by
  let others := wish.configuration.toList.map Argument.configuration ++
    wish.packageName.toList.map Argument.packageName ++ wish.errand.own
  have quiet : ∀ argument ∈ others, argument.count = 0 := by
    intro argument member
    cases argument with
    | louder emphasis =>
        have own : .louder emphasis ∈ wish.errand.own := by simpa [others] using member
        cases Errand.isCommon_of_mem_own own
    | _ => rfl
  have silent : ((others.filter fun argument => places.of argument = level).map
      Argument.count).sum = 0 := by
    refine List.sum_eq_zero fun count member => ?_
    rcases List.mem_map.mp member with ⟨argument, kept, rfl⟩
    exact quiet argument (List.mem_filter.mp kept).1
  have loud : (wish.emphases.map Argument.louder).filter (fun argument =>
      places.of argument = level) =
        if places.emphases = level then wish.emphases.map Argument.louder else [] := by
    split <;> simp [Places.of, *]
  have counts : (wish.emphases.map Argument.louder).map Argument.count =
      wish.emphases.map Emphasis.count := List.map_map
  rw [show wish.arguments = wish.emphases.map Argument.louder ++ others from rfl,
    List.filter_append, List.map_append, List.sum_append, silent, Nat.add_zero, loud, verbosity,
    ← counts]
  split <;> rfl

end Wish

/-! ## What is written at the levels -/

/-- The arguments at each level are those that have their place there, in some order. -/
def Wish.Arranged (wish : Wish) (places : Places wish.errand) (sections : Level → List Argument) :
    Prop :=
  ∀ level ∈ wish.errand.levels,
    (sections level).Perm (wish.arguments.filter fun argument => places.of argument = level)

section

variable {wish : Wish} {places : Places wish.errand} {sections : Level → List Argument}
  (arranged : wish.Arranged places sections) {level : Level} (member : level ∈ wish.errand.levels)

include arranged member

theorem Wish.Arranged.sound : Sound level (sections level) := by
  refine Sound.of_perm ⟨?_, ?_, wish.apart_arguments.filter _⟩ (arranged level member)
  · intro argument kept
    rw [List.mem_filter, decide_eq_true_iff] at kept
    exact kept.2 ▸ wish.belongs_of_mem places kept.1
  · exact fun argument kept => wish.fits_of_mem (List.mem_filter.mp kept).1

theorem Wish.Arranged.told_iff {argument : Argument} (quiet : argument.flag? ≠ some .verbose) :
    argument.Told (gathered (sections level)) ↔
      argument ∈ wish.arguments ∧ places.of argument = level := by
  rw [(arranged.sound member).told_iff quiet, (arranged level member).mem_iff, List.mem_filter,
    decide_eq_true_iff]

theorem Wish.Arranged.configuration_eq : (gathered (sections level)).configuration =
    if places.configuration = level then wish.configuration else none := by
  ext path
  have told : (gathered (sections level)).configuration = some path ↔ _ :=
    arranged.told_iff member (show (Argument.configuration path).flag? ≠ some .verbose from nofun)
  rw [told, wish.mem_arguments_iff]
  simp [Wish.Says, Places.of, and_comm]

theorem Wish.Arranged.packageName_eq : (gathered (sections level)).packageName =
    if places.packageName = level then wish.packageName else none := by
  ext name
  have told : (gathered (sections level)).packageName = some name ↔ _ :=
    arranged.told_iff member (show (Argument.packageName name).flag? ≠ some .verbose from nofun)
  rw [told, wish.mem_arguments_iff]
  simp [Wish.Says, Places.of, and_comm]

theorem Wish.Arranged.verbosity_eq : (gathered (sections level)).verbosity =
    if places.emphases = level then min wish.verbosity 255 else 0 := by
  have counted := ((arranged level member).map Argument.count).sum_nat
  rw [verbosity_gathered, counted, wish.sum_count_filter]
  split <;> simp

omit member in
/-- The command is complete, as what it needs is written where it is named. -/
theorem Wish.Arranged.command_eq :
    wish.errand.level.command (gathered (sections wish.errand.level)) =
      .ok wish.errand.command := by
  have member : wish.errand.level ∈ wish.errand.levels := by
    cases wish.errand <;> simp [Errand.levels, Errand.level, Errand.path]
  have told : ∀ argument : Argument, argument.isCommon = false →
      (argument.Told (gathered (sections wish.errand.level)) ↔ argument ∈ wish.errand.own) := by
    intro argument own
    have quiet : argument.flag? ≠ some .verbose := by
      cases argument <;> simp_all [Argument.isCommon, Argument.flag?]
    rw [arranged.told_iff member quiet, wish.mem_arguments_iff]
    cases argument <;> simp_all [Argument.isCommon, Wish.Says, Places.of]
  cases wanted : wish.errand with
  | featureGet => rfl
  | service => rfl
  | featureSet enabled =>
      rw [wanted] at told
      have said : (gathered (sections .featureSet)).enabled = some enabled :=
        (told (.enabled enabled) rfl).mpr List.mem_cons_self
      rw [Errand.level, Level.command, said]
      rfl
  | simulate disable stop activity =>
      rw [wanted] at told
      have disabled : (gathered (sections .simulate)).disable = disable :=
        Bool.eq_iff_iff.mpr ((told .disable rfl).trans (by simp [Errand.own]))
      have stopped : (gathered (sections .simulate)).stop = stop :=
        Bool.eq_iff_iff.mpr ((told .stop rfl).trans (by simp [Errand.own]))
      have named : (gathered (sections .simulate)).activity = activity :=
        Option.ext fun name => (told (.activity name) rfl).trans (by simp [Errand.own])
      rw [Errand.level, Level.command, disabled, stopped, named]
      rfl

end

theorem Errand.leads_path (errand : Errand) : Leads .top errand.path := by
  cases errand with
  | simulate disable stop activity => exact ⟨rfl, trivial⟩
  | featureGet => exact ⟨rfl, rfl, trivial⟩
  | featureSet enabled => exact ⟨rfl, rfl, trivial⟩
  | service => exact ⟨rfl, trivial⟩

theorem Wish.Arranged.parse_line {wish : Wish} {places : Places wish.errand}
    {sections : Level → List Argument} (arranged : wish.Arranged places sections) :
    parse (wish.errand.line sections) = .ok
      { verbosity := min wish.verbosity 255
        configuration := wish.configuration
        packageName := wish.packageName.getD "com.example.notes"
        command := wish.errand.command } := by
  have innermost : wish.errand.levels.getLast? = some wish.errand.level := by
    cases wish.errand <;> rfl
  have scanned := scanLevel_path wish.errand.leads_path
    (fun level member => arranged.sound member) innermost arranged.command_eq
  have deeper : ∀ outer inner : Option String,
      (inner <|> outer) = if inner = none then outer else inner := by
    intro outer inner
    cases inner <;> rfl
  let given := joined sections .top wish.errand.path
  have verbosity : given.verbosity = min wish.verbosity 255 :=
    (field_joined Given.verbosity (fun _ _ => rfl)
      fun _ member => arranged.verbosity_eq member).trans (if_pos places.emphases_mem)
  have configuration : given.configuration = wish.configuration :=
    (field_joined Given.configuration
      (fun outer inner => deeper outer.configuration inner.configuration)
      fun _ member => arranged.configuration_eq member).trans (if_pos places.configuration_mem)
  have packageName : given.packageName = wish.packageName :=
    (field_joined Given.packageName
      (fun outer inner => deeper outer.packageName inner.packageName)
      fun _ member => arranged.packageName_eq member).trans (if_pos places.packageName_mem)
  rw [parse, Errand.line, scanned, ← verbosity, ← configuration, ← packageName]
  rfl

/-- Every invocation can be wished for. -/
theorem exists_wish {invocation : Invocation} (counted : invocation.verbosity ≤ 255)
    (named : invocation.configuration ≠ some "") :
    ∃ wish : Wish, min wish.verbosity 255 = invocation.verbosity ∧
      wish.configuration = invocation.configuration ∧
      wish.packageName = some invocation.packageName ∧
      wish.errand.command = invocation.command := by
  have errand : ∃ errand : Errand, errand.command = invocation.command := by
    cases invocation.command with
    | simulate disable stop activity => exact ⟨.simulate disable stop (some activity), rfl⟩
    | featureGet => exact ⟨.featureGet, rfl⟩
    | featureSet enabled => exact ⟨.featureSet enabled, rfl⟩
    | service => exact ⟨.service, rfl⟩
  rcases errand with ⟨errand, commanded⟩
  refine ⟨⟨List.replicate invocation.verbosity .word, invocation.configuration,
    some invocation.packageName, errand, named⟩, ?_, rfl, rfl, commanded⟩
  simp [Wish.verbosity, Emphasis.count, counted]

/-- A command line is understood as it is meant, wherever the common options are written and in
whatever order the arguments are.  And there is such a command line for every invocation, whatever
level each of the common options is to be written at. -/
theorem parse_composition :
    (∀ (wish : Wish) (places : Places wish.errand) (sections : Level → List Argument),
      wish.Arranged places sections →
        parse (wish.errand.line sections) = .ok
          { verbosity := min wish.verbosity 255
            configuration := wish.configuration
            packageName := wish.packageName.getD "com.example.notes"
            command := wish.errand.command }) ∧
      ∀ invocation : Invocation, invocation.verbosity ≤ 255 →
        invocation.configuration ≠ some "" →
          ∃ wish : Wish, ∀ places : Places wish.errand, ∃ sections,
            wish.Arranged places sections ∧
              parse (wish.errand.line sections) = .ok invocation := by
  refine ⟨fun _ _ _ arranged => arranged.parse_line, fun invocation counted named => ?_⟩
  rcases exists_wish counted named with ⟨wish, verbosity, configuration, packageName, command⟩
  refine ⟨wish, fun places => ?_⟩
  have arranged : wish.Arranged places fun level =>
      wish.arguments.filter fun argument => places.of argument = level := fun _ _ => .refl _
  refine ⟨_, arranged, arranged.parse_line.trans ?_⟩
  rw [verbosity, configuration, packageName, command]
  rfl

/-- Much output, a file with a blank and an equals sign in its name, and a package with a dash in
front. -/
def scattered : Wish :=
  ⟨[.letters 299, .word], some "a b=", some "-p=", .featureSet false, by decide⟩

/-- The common options are written at three levels. -/
def scatteredPlaces : Places scattered.errand :=
  ⟨.feature, .featureSet, .top, by decide, by decide, by decide⟩

/-- The file is named behind the operand. -/
def scatteredSections : Level → List Argument
  | .top => [.packageName "-p="]
  | .feature => [.louder .word, .louder (.letters 299)]
  | _ => [.enabled false, .configuration "a b="]

theorem parse_composition_scatteredOptions :
    scattered.Arranged scatteredPlaces scatteredSections ∧
      scattered.errand.line scatteredSections =
        ["--package=-p=", "feature", "--verbose", "-" ++ "".pushn 'v' 300, "set", "false",
          "--config=a b="] ∧
      parse ["--package=-p=", "feature", "--verbose", "-" ++ "".pushn 'v' 300, "set", "false",
          "--config=a b="] = .ok ⟨255, some "a b=", "-p=", .featureSet false⟩ := by
  have arranged : scattered.Arranged scatteredPlaces scatteredSections := by
    unfold Wish.Arranged
    decide
  have written : scattered.errand.line scatteredSections =
      ["--package=-p=", "feature", "--verbose", "-" ++ "".pushn 'v' 300, "set", "false",
        "--config=a b="] := by decide +kernel
  refine ⟨arranged, written, ?_⟩
  have understood := parse_composition.1 scattered scatteredPlaces scatteredSections arranged
  rw [written] at understood
  exact understood

end CommandLine
end ContentCapture
