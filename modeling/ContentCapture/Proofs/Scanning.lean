import ContentCapture.CommandLine.Arguments
import ContentCapture.Text.Diagnostic
import ContentCapture.Text.Mark
import Mathlib.Algebra.GroupWithZero.Nat
import Mathlib.Data.List.Pairwise

namespace ContentCapture
namespace CommandLine

/-!
# Arguments that stand by themselves

Some arguments say by themselves all that they have to say: options without a value, options with
their value attached, and the operand.  Each of them adds one thing to what is given at its level.
A value may be any text, as the first equals sign ends the name of its option.

A scan that has come to something comes to that and one thing more with each such argument, whether
or not it has examined what was written last.  So all arguments of a level come to what they say,
in whatever order they stand, and of several levels the innermost one decides at which something is
said.
-/

/-! ## What is written -/

/-- One way to ask for more output. -/
inductive Emphasis where
  /-- The letter, and the same letter some more times behind the same dash. -/
  | letters (more : Nat)
  | word
  deriving DecidableEq

namespace Emphasis

def text : Emphasis → String
  | letters more => String.ofList ('-' :: List.replicate (more + 1) 'v')
  | word => "--verbose"

/-- How often it asks. -/
def count : Emphasis → Nat
  | letters more => more + 1
  | word => 1

end Emphasis

/-- An argument that says by itself all that it has to say. -/
inductive Argument where
  | louder (emphasis : Emphasis)
  | configuration (path : String)
  | packageName (name : String)
  | disable
  | stop
  | activity (name : String)
  /-- Whether the feature is to be on, which is no option. -/
  | enabled (value : Bool)
  deriving DecidableEq

namespace Argument

def text : Argument → String
  | louder emphasis => emphasis.text
  | configuration path => "--config=" ++ path
  | packageName name => "--package=" ++ name
  | disable => "--disable"
  | stop => "--stop"
  | activity name => "--activity=" ++ name
  | enabled value => Text.ofBool value

end Argument

/-! ## The forms of the arguments -/

/-- The name of an option ends at the first equals sign. -/
theorem Shape.of_append {opening name : String}
    (opens : opening.toList = '-' :: '-' :: (name.toList ++ ['='])) (plain : '=' ∉ name.toList)
    (value : String) : Shape.of (opening ++ value) = .long name (some value) := by
  have letters : (opening ++ value).toList =
      '-' :: '-' :: (name.toList ++ '=' :: value.toList) := by
    simp [opens]
  have long : Shape.of (opening ++ value) = ofLong (name.toList ++ '=' :: value.toList) := by
    rw [Shape.of, letters]
    cases name.toList <;> rfl
  rw [long, ofLong, Text.takeWhile_append_cons plain, Text.dropWhile_append_cons plain]
  simp only [String.ofList_toList]

namespace Argument

def shape : Argument → Shape
  | louder (.letters more) => .shorts (List.replicate (more + 1) 'v')
  | louder .word => .long Flag.verbose.long none
  | configuration path => .long Flag.configuration.long (some path)
  | packageName name => .long Flag.packageName.long (some name)
  | disable => .long Flag.disable.long none
  | stop => .long Flag.stop.long none
  | activity name => .long Flag.activity.long (some name)
  | enabled _ => .plain

theorem shape_text (argument : Argument) : Shape.of argument.text = argument.shape := by
  cases argument with
  | louder emphasis =>
      cases emphasis with
      | letters more => simp [text, Emphasis.text, Shape.of, List.replicate_succ, shape]
      | word => decide +kernel
  | configuration path => exact Shape.of_append (by decide) (by decide) path
  | packageName name => exact Shape.of_append (by decide) (by decide) name
  | disable => decide +kernel
  | stop => decide +kernel
  | activity name => exact Shape.of_append (by decide) (by decide) name
  | enabled value => cases value <;> decide +kernel

end Argument

/-- The name of a command has no dashes in front. -/
theorem Level.names_eq_false {level : Level} {argument : String}
    (dashed : Shape.of argument ≠ .plain) : level.names argument = false := by
  have plain : ∀ entry ∈ level.commands, Shape.of entry.1 = .plain := by
    cases level <;> decide +kernel
  have help : Shape.of "help" = .plain := by decide +kernel
  rw [Bool.eq_false_iff, names, Ne, Bool.and_eq_true, Bool.or_eq_true, beq_iff_eq,
    List.lookup_isSome_iff]
  rintro ⟨-, rfl | ⟨entry, member, same⟩⟩
  · exact dashed help
  · exact dashed (beq_iff_eq.mp same ▸ plain entry member)

theorem Level.names_of_lookup {level inner : Level} {name : String}
    (opens : level.commands.lookup name = some inner) : level.names name = true := by
  have present : level.hasCommands = true := by
    rw [hasCommands]
    cases commands : level.commands with
    | nil => simp [commands] at opens
    | cons _ _ => rfl
  rw [names, present, opens]
  simp

theorem Level.long?_eq_some {level : Level} {flag : Flag} (accepted : level.accepts flag = true) :
    level.long? flag.long = some flag := by
  cases flag <;> cases level <;> first | rfl | cases accepted

theorem Level.short?_eq_some (level : Level) : level.short? 'v' = some .verbose := by
  cases level <;> rfl

/-! ## One argument more -/

namespace Argument

/-- What is given with one argument more. -/
def added (given : Given) : Argument → Given
  | louder emphasis => { given with verbosity := min (given.verbosity + emphasis.count) 255 }
  | configuration path => { given with configuration := some path }
  | packageName name => { given with packageName := some name }
  | disable => { given with disable := true }
  | stop => { given with stop := true }
  | activity name => { given with activity := some name }
  | enabled value => { given with enabled := some value }

/-- The option that an argument gives. -/
def flag? : Argument → Option Flag
  | louder _ => some .verbose
  | configuration _ => some .configuration
  | packageName _ => some .packageName
  | disable => some .disable
  | stop => some .stop
  | activity _ => some .activity
  | enabled _ => none

/-- An argument may be written after what is given already. -/
def Fits (given : Given) : Argument → Prop
  | louder _ => True
  | configuration path => given.configuration = none ∧ path ≠ ""
  | packageName _ => given.packageName = none
  | disable => given.disable = false
  | stop => given.stop = false
  | activity _ => given.activity = none
  | enabled _ => given.enabled = none

/-- What an argument says is given, unless it is about how much output there is to be. -/
def Told (given : Given) : Argument → Prop
  | louder _ => False
  | configuration path => given.configuration = some path
  | packageName name => given.packageName = some name
  | disable => given.disable = true
  | stop => given.stop = true
  | activity name => given.activity = some name
  | enabled value => given.enabled = some value

/-- How often an argument asks for more output. -/
def count : Argument → Nat
  | louder emphasis => emphasis.count
  | _ => 0

/-- An argument may be written at a level. -/
def Belongs (level : Level) (argument : Argument) : Prop :=
  argument.flag?.elim (level = .featureSet) fun flag => level.accepts flag = true

end Argument

namespace Scan

/-- A scan that goes on, and comes to what is given once it has settled. -/
structure Gives (scan : Scan) (given : Given) : Prop where
  settled : scan.settled = .ok { scan with given := given, pending := .nothing }
  notEnded : scan.ended = false
  notWaiting : scan.isWaiting = false
  operandSeen : scan.operandSeen = given.enabled.isSome

variable {scan : Scan} {given later : Given} {flag : Flag}

theorem gives_initial : Gives {} {} := ⟨rfl, rfl, rfl, rfl⟩

/-- Nothing is pending after an option. -/
theorem Gives.optioned (gives : scan.Gives given) (same : later.enabled = given.enabled) :
    Gives { scan with given := later, pending := .nothing } later where
  settled := rfl
  notEnded := gives.notEnded
  notWaiting := rfl
  operandSeen := by rw [gives.operandSeen, same]

theorem Gives.raise (gives : scan.Gives given) (raised : given.raise flag = .ok later) :
    scan.raise flag = .ok { scan with given := later, pending := .nothing } := by
  rw [Scan.raise, gives.settled]
  change (given.raise flag).bind _ = _
  rw [raised]
  rfl

theorem Gives.attach (gives : scan.Gives given) {value : String}
    (stored : given.store flag value = .ok later) :
    scan.attach flag value = .ok { scan with given := later, pending := .nothing } := by
  rw [Scan.attach, gives.settled]
  change (given.store flag value).bind _ = _
  rw [stored]
  rfl

theorem Gives.long_none (gives : scan.Gives given) {level : Level}
    (accepted : level.accepts flag = true) (valueless : flag.hasValue = false)
    (raised : given.raise flag = .ok later) (same : later.enabled = given.enabled) :
    ∃ next, scan.long level flag.long none = .ok next ∧ next.Gives later := by
  refine ⟨_, ?_, gives.optioned same⟩
  simp only [Scan.long, Level.long?_eq_some accepted, valueless, Bool.false_eq_true, if_false]
  exact gives.raise raised

theorem Gives.long_some (gives : scan.Gives given) {level : Level}
    (accepted : level.accepts flag = true) (valued : flag.hasValue = true) {value : String}
    (stored : given.store flag value = .ok later) (same : later.enabled = given.enabled) :
    ∃ next, scan.long level flag.long (some value) = .ok next ∧ next.Gives later := by
  refine ⟨_, ?_, gives.optioned same⟩
  simp only [Scan.long, Level.long?_eq_some accepted, valued, if_true]
  exact gives.attach stored

theorem Gives.shorts_cons (gives : scan.Gives given) (level : Level) (rest : List Char) :
    scan.shorts level ('v' :: rest) =
      Scan.shorts { scan with
        given := (Argument.louder (.letters 0)).added given
        pending := .nothing } level rest := by
  have raised : given.raise .verbose = .ok ((Argument.louder (.letters 0)).added given) := rfl
  rw [Scan.shorts, Level.short?_eq_some]
  change (scan.raise .verbose).bind _ = _
  rw [gives.raise raised]
  rfl

/-- Each letter counts, until the count is full. -/
theorem Gives.shorts (gives : scan.Gives given) (level : Level) (more : Nat) :
    ∃ next, scan.shorts level (List.replicate (more + 1) 'v') = .ok next ∧
      next.Gives ((Argument.louder (.letters more)).added given) := by
  induction more generalizing scan given with
  | zero => exact ⟨_, gives.shorts_cons level [], gives.optioned rfl⟩
  | succ more inductionHypothesis =>
      have full : min (min (given.verbosity + 1) 255 + (more + 1)) 255 =
          min (given.verbosity + (more + 1 + 1)) 255 := by omega
      have first := gives.optioned
        (show ((Argument.louder (.letters 0)).added given).enabled = given.enabled from rfl)
      have others := inductionHypothesis first
      simp only [Argument.added, Emphasis.count, full] at others
      rw [List.replicate_succ, gives.shorts_cons]
      exact others

/-- The operand is examined only when something comes behind it, but it is sound. -/
theorem Gives.operand (gives : scan.Gives given) (unsaid : given.enabled = none) (value : Bool) :
    ∃ next, scan.operand .featureSet (Text.ofBool value) = .ok next ∧
      next.Gives ((Argument.enabled value).added given) := by
  have unseen : scan.operandSeen = false := by
    rw [gives.operandSeen, unsaid]
    rfl
  refine ⟨{ scan with
      given := given
      pending := .operand (Text.ofBool value)
      operandSeen := true }, ?_, ?_⟩
  · simp only [Scan.operand, unseen, gives.settled]
    rfl
  · refine ⟨?_, gives.notEnded, rfl, rfl⟩
    cases value <;> rfl

/-- An argument adds to what is given whatever it has to say. -/
theorem Gives.step (gives : scan.Gives given) {level : Level} {argument : Argument}
    (belongs : argument.Belongs level) (fits : argument.Fits given) :
    ∃ next, scan.step level argument.text = .ok next ∧ next.Gives (argument.added given) := by
  simp only [Scan.step, gives.notEnded, Bool.false_eq_true, if_false, argument.shape_text]
  cases argument with
  | louder emphasis =>
      cases emphasis with
      | letters more => exact gives.shorts level more
      | word => exact gives.long_none belongs rfl rfl rfl
  | configuration path =>
      have stored : given.store .configuration path =
          .ok ((Argument.configuration path).added given) := by
        simp [Given.store, fits.1, fits.2, Argument.added]
      exact gives.long_some belongs rfl stored rfl
  | packageName name =>
      have vacant : given.packageName = none := fits
      exact gives.long_some belongs rfl (by rw [Given.store, vacant]; rfl) rfl
  | disable =>
      have vacant : given.disable = false := fits
      exact gives.long_none belongs rfl (by rw [Given.raise, vacant]; rfl) rfl
  | stop =>
      have vacant : given.stop = false := fits
      exact gives.long_none belongs rfl (by rw [Given.raise, vacant]; rfl) rfl
  | activity name =>
      have vacant : given.activity = none := fits
      exact gives.long_some belongs rfl (by rw [Given.store, vacant]; rfl) rfl
  | enabled value =>
      have innermost : level = .featureSet := belongs
      have waits := gives.notWaiting
      have taken := gives.operand fits value
      rw [innermost]
      rw [Scan.isWaiting] at waits
      cases pending : scan.pending with
      | flag waiting => simp [pending] at waits
      | _ => exact taken

end Scan

/-! ## A level -/

namespace Argument

/-- Two arguments may be written at one level: only the option for more output is repeated. -/
def Apart (argument other : Argument) : Prop :=
  argument.flag? = other.flag? → argument.flag? = some .verbose

instance : Std.Symm Apart := ⟨fun _ _ apart same => same.trans (apart same.symm)⟩

variable {argument other : Argument} {given : Given}

theorem Apart.fits_added (apart : argument.Apart other) (fits : other.Fits given) :
    other.Fits (argument.added given) := by
  cases argument <;> cases other <;> simp_all [Apart, flag?, Fits, added]

/-- What an argument says is known where it fits, and nothing else becomes known. -/
theorem told_added (fits : argument.Fits given) (quiet : other.flag? ≠ some .verbose) :
    other.Told (argument.added given) ↔ other.Told given ∨ argument = other := by
  cases argument <;> cases other <;> simp_all [Told, flag?, Fits, added]

theorem not_told_nothing (argument : Argument) : ¬ argument.Told {} := by
  cases argument <;> simp [Told]

theorem names_text {level : Level} (belongs : argument.Belongs level) :
    level.names argument.text = false := by
  by_cases plain : argument.shape = .plain
  · cases argument with
    | enabled value =>
        have innermost : level = .featureSet := belongs
        rw [innermost]
        rfl
    | louder emphasis => cases emphasis <;> cases plain
    | _ => cases plain
  · exact Level.names_eq_false (argument.shape_text ▸ plain)

end Argument

/-- What the arguments of a level give, all in all. -/
def gathered (arguments : List Argument) : Given :=
  arguments.foldl Argument.added {}

/-- Arguments that may be written at one level. -/
structure Sound (level : Level) (arguments : List Argument) : Prop where
  belongs : ∀ argument ∈ arguments, argument.Belongs level
  fits : ∀ argument ∈ arguments, argument.Fits {}
  apart : arguments.Pairwise Argument.Apart

/-- The arguments of a level may be written in any order. -/
theorem Sound.of_perm {level : Level} {arguments others : List Argument}
    (sound : Sound level arguments) (permuted : others.Perm arguments) : Sound level others where
  belongs argument member := sound.belongs argument (permuted.mem_iff.mp member)
  fits argument member := sound.fits argument (permuted.mem_iff.mp member)
  apart := sound.apart.perm permuted.symm (Std.Symm.symm _ _)

section

variable {level : Level} {arguments : List Argument}

/-- All arguments of a level are worked off. -/
theorem Scan.Gives.run {scan : Scan} {given : Given} (gives : scan.Gives given)
    (belongs : ∀ argument ∈ arguments, argument.Belongs level)
    (fits : ∀ argument ∈ arguments, argument.Fits given)
    (apart : arguments.Pairwise Argument.Apart) (rest : List String) :
    ∃ next, next.Gives (arguments.foldl Argument.added given) ∧
      scanLevel level scan (arguments.map Argument.text ++ rest) = scanLevel level next rest := by
  -- What is left fits what is given, as it is apart from all that has been worked off.
  induction arguments generalizing scan given with
  | nil => exact ⟨scan, gives, rfl⟩
  | cons argument others inductionHypothesis =>
      rw [List.forall_mem_cons] at belongs fits
      rw [List.pairwise_cons] at apart
      rcases gives.step belongs.1 fits.1 with ⟨next, stepped, nextGives⟩
      rcases inductionHypothesis nextGives belongs.2
        (fun other member => (apart.1 other member).fits_added (fits.2 other member)) apart.2 with
          ⟨last, lastGives, ran⟩
      refine ⟨last, lastGives, ?_⟩
      have unnamed := Argument.names_text belongs.1
      rw [List.map_cons, List.cons_append, scanLevel, unnamed, Bool.and_false, if_neg (by decide),
        stepped]
      exact ran

theorem told_foldl {argument : Argument} (quiet : argument.flag? ≠ some .verbose) {given : Given}
    (fits : ∀ other ∈ arguments, other.Fits given) (apart : arguments.Pairwise Argument.Apart) :
    argument.Told (arguments.foldl Argument.added given) ↔
      argument.Told given ∨ argument ∈ arguments := by
  induction arguments generalizing given with
  | nil => simp
  | cons first others inductionHypothesis =>
      rw [List.forall_mem_cons] at fits
      rw [List.pairwise_cons] at apart
      rw [List.foldl_cons, List.mem_cons, eq_comm, ← or_assoc, ← Argument.told_added fits.1 quiet]
      exact inductionHypothesis
        (fun other member => (apart.1 other member).fits_added (fits.2 other member)) apart.2

/-- What is given at a level is what is written there. -/
theorem Sound.told_iff (sound : Sound level arguments) {argument : Argument}
    (quiet : argument.flag? ≠ some .verbose) :
    argument.Told (gathered arguments) ↔ argument ∈ arguments := by
  rw [gathered, told_foldl quiet sound.fits sound.apart]
  exact or_iff_right argument.not_told_nothing

/-- A count that is full stays so, and comes to the same as one that is cut in the end. -/
theorem verbosity_foldl {given : Given} (counted : given.verbosity ≤ 255) :
    (arguments.foldl Argument.added given).verbosity =
      min (given.verbosity + (arguments.map Argument.count).sum) 255 := by
  induction arguments generalizing given with
  | nil => simp [counted]
  | cons argument others inductionHypothesis =>
      have added : (argument.added given).verbosity =
          min (given.verbosity + argument.count) 255 := by
        cases argument <;> simp [Argument.added, Argument.count, counted]
      rw [List.foldl_cons, inductionHypothesis (by omega), added, List.map_cons, List.sum_cons]
      omega

theorem verbosity_gathered (arguments : List Argument) :
    (gathered arguments).verbosity = min (arguments.map Argument.count).sum 255 := by
  rw [gathered, verbosity_foldl (Nat.zero_le 255), Nat.zero_add]

theorem Sound.scanLevel_last (sound : Sound level arguments) {command : Command}
    (commanded : level.command (gathered arguments) = .ok command) :
    scanLevel level {} (arguments.map Argument.text) = .ok (gathered arguments, command) := by
  rcases Scan.gives_initial.run sound.belongs sound.fits sound.apart [] with ⟨last, gives, ran⟩
  rw [List.append_nil] at ran
  rw [ran, scanLevel, gives.settled]
  change (level.command (gathered arguments)).bind _ = _
  rw [commanded]
  rfl

theorem Sound.scanLevel_within (sound : Sound level arguments) {name : String} {inner : Level}
    (opens : level.commands.lookup name = some inner) {rest : List String} {given : Given}
    {command : Command} (goesOn : scanLevel inner {} rest = .ok (given, command)) :
    scanLevel level {} (arguments.map Argument.text ++ name :: rest) =
      .ok ((gathered arguments).around given, command) := by
  rcases Scan.gives_initial.run sound.belongs sound.fits sound.apart (name :: rest) with
    ⟨last, gives, ran⟩
  have named : level.names name = true := Level.names_of_lookup opens
  rw [ran, scanLevel, gives.notEnded, gives.notWaiting, named, opens]
  change (scanLevel inner {} rest).bind _ = _
  rw [goesOn]
  change last.settled.bind _ = _
  rw [gives.settled]
  rfl

end

/-! ## Levels inside levels -/

/-- Each name is that of a command at the level before. -/
def Leads : Level → List (String × Level) → Prop
  | _, [] => True
  | level, (name, inner) :: path => level.commands.lookup name = some inner ∧ Leads inner path

/-- What is given at a level and at all levels inside it. -/
def joined (sections : Level → List Argument) : Level → List (String × Level) → Given
  | level, [] => gathered (sections level)
  | level, (_, inner) :: path => (gathered (sections level)).around (joined sections inner path)

section

variable {sections : Level → List Argument} {outer : Level} {path : List (String × Level)}

/-- The command lines of all levels are worked off from the outside to the inside. -/
theorem scanLevel_path {last : Level} (leads : Leads outer path)
    (sound : ∀ level ∈ outer :: path.map Prod.snd, Sound level (sections level))
    (innermost : (outer :: path.map Prod.snd).getLast? = some last) {command : Command}
    (commanded : last.command (gathered (sections last)) = .ok command) :
    scanLevel outer {} ((sections outer).map Argument.text ++
        path.flatMap fun (name, level) => name :: (sections level).map Argument.text) =
      .ok (joined sections outer path, command) := by
  rw [List.forall_mem_cons] at sound
  induction path generalizing outer with
  | nil =>
      cases innermost
      rw [List.flatMap_nil, List.append_nil]
      exact sound.1.scanLevel_last commanded
  | cons entry path inductionHypothesis =>
      rw [List.map_cons, List.forall_mem_cons] at sound
      rw [List.map_cons, List.getLast?_cons_cons] at innermost
      exact sound.1.scanLevel_within leads.1 (inductionHypothesis leads.2 sound.2 innermost)

/-- What is given at one level only is what is given in the end, wherever the level is. -/
theorem field_joined {α : Type} [DecidableEq α] (field : Given → α) {blank value : α}
    (decides : ∀ outer inner : Given, field (outer.around inner) =
      if field inner = blank then field outer else field inner)
    {place : Level} (placed : ∀ level ∈ outer :: path.map Prod.snd,
      field (gathered (sections level)) = if place = level then value else blank) :
    field (joined sections outer path) =
      if place ∈ outer :: path.map Prod.snd then value else blank := by
  rw [List.forall_mem_cons] at placed
  induction path generalizing outer with
  | nil => simp [joined, placed.1]
  | cons entry path inductionHypothesis =>
      rw [List.map_cons, List.forall_mem_cons] at placed
      rw [joined, decides, inductionHypothesis placed.2, placed.1, List.map_cons]
      by_cases inside : place ∈ entry.2 :: path.map Prod.snd
      · rw [if_pos inside, if_pos (List.mem_cons_of_mem outer inside)]
        by_cases said : value = blank <;> simp [said]
      · have outermost : place ∈ outer :: entry.2 :: path.map Prod.snd ↔ place = outer := by
          rw [List.mem_cons, or_iff_left inside]
        simp only [if_neg inside, if_true, outermost]

end

end CommandLine
end ContentCapture
