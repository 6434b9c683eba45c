import ContentCapture.Proofs.Overrides
import ContentCapture.Proofs.Simulation

namespace ContentCapture
namespace CommandLine

/-!
# Why commands fail

There are six reasons for a command to fail.  Each can be told from the invocation, the file that
it names and the environment, without regard to the others.  They come in an order, and a command
fails for the first one that applies, before it has written anything.  If none applies the command
writes all its output.

Nothing else goes wrong.  The service is there and answers, and all the work is done while the
command waits, so no question takes too long, no answer is unreadable, and no session is missed.
-/

open Deployment Steps

/-- Why a command fails, in the order in which it is found out. -/
inductive Reason where
  /-- The file cannot be read as text. -/
  | unreadable
  /-- The text of the file gives no configuration. -/
  | misconfigured
  /-- What is set in the environment asks for no timeout. -/
  | overridden
  /-- The service is turned off. -/
  | off
  /-- The feature belongs to another package. -/
  | foreign
  /-- The package or the class that is to be started is blank. -/
  | nameless
  deriving DecidableEq

namespace Reason

def all : List Reason :=
  [.unreadable, .misconfigured, .overridden, .off, .foreign, .nameless]

/-- The text of the file that an invocation names, if there is one. -/
def text? (invocation : Invocation) (read : String → Except FileFault ByteArray) : Option String :=
  invocation.configuration.bind fun path => (readNamed read path).toOption.bind String.fromUTF8?

def Applies (invocation : Invocation) (read : String → Except FileFault ByteArray)
    (setting : Option ByteArray) : Reason → Prop
  | .unreadable => invocation.configuration.isSome = true ∧ text? invocation read = none
  | .misconfigured =>
      ∃ text, text? invocation read = some text ∧
        ∀ configuration, ¬ Configuration.GivenBy configuration text
  | .overridden =>
      ∃ text, setting.bind String.fromUTF8? = some text ∧
        ∀ timeout, ¬ Configuration.AsksFor text timeout
  | .off =>
      ∃ text configuration, text? invocation read = some text ∧
        Configuration.GivenBy configuration text ∧ configuration.explicitlyEnabled = some false
  | .foreign =>
      (invocation.command = .featureGet ∨ ∃ enabled, invocation.command = .featureSet enabled) ∧
        invocation.packageName ≠ "com.example.capture"
  | .nameless =>
      ∃ disable stop activity, invocation.command = .simulate disable stop activity ∧
        (IsBlank invocation.packageName ∨
          IsBlank (startedClass invocation.packageName activity))

/-- A reason applies, and none before it. -/
def IsFirst (invocation : Invocation) (read : String → Except FileFault ByteArray)
    (setting : Option ByteArray) (reason : Reason) : Prop :=
  ∃ before later, all = before ++ reason :: later ∧ reason.Applies invocation read setting ∧
    ∀ other ∈ before, ¬ other.Applies invocation read setting

def LeadsTo (invocation : Invocation) : Reason → CommandFailure → Prop
  | .unreadable, failure => ∃ fault, failure = .capture (.file fault)
  | .misconfigured, failure => ∃ fault, failure = .capture (.configuration fault)
  | .overridden, failure => ∃ fault, failure = .capture (.configuration fault)
  | .off, failure =>
      failure = .connection
        ⟨"com.example.capture/.CaptureService disabled by service_explicitly_enabled"⟩
  | .foreign, failure => failure = .capture .notService
  | .nameless, failure =>
      ∃ disable stop activity, invocation.command = .simulate disable stop activity ∧
        failure = .capture (.invalidArgument (.invalidComponent
          ⟨invocation.packageName, startedClass invocation.packageName activity⟩))

end Reason

/-- All that a command writes. -/
def output (invocation : Invocation) : String :=
  match invocation.command with
  | .featureGet => "\x7b\"enabled\":true\x7d\n"
  | .featureSet enabled =>
      "\x7b\"acknowledged\":true,\"enabled\":" ++ Text.ofBool enabled ++ "\x7d\n"
  | .service =>
      "\x7b\"component\":\"com.example.capture/com.example.capture.CaptureService\"," ++
        "\"enabled\":true\x7d\n"
  | .simulate disable stop activity =>
      let component : ComponentName :=
        ⟨invocation.packageName, startedClass invocation.packageName activity⟩
      Text.indented "" (managerLines invocation.packageName component disable stop ++
        serviceLines invocation.packageName disable stop)

variable {meanwhile : Deployment LocalService → Deployment LocalService}

/-! ## Questions -/

section

variable (configuration : Configuration) (packageName : String)

/-- A request that the service answers is answered while a command waits. -/
theorem exists_settled (thorough : Thorough meanwhile) {request : Request} {outcome : Outcome}
    (carried : request.channel? = some 0)
    (handled : ((newService configuration).handle ⟨packageName, request⟩).2 = some outcome)
    (journal : List Entry) :
    ∃ service, meanwhile (stage (client configuration packageName .empty none) []
          ((newService configuration).joinedBy ⟨packageName, request⟩)
          (startChannel configuration none) ⟨1⟩ journal) =
        stage (client configuration packageName .empty none) [] service
          (startChannel configuration (some outcome)) ⟨1⟩ journal := by
  have tandem : (stage (client configuration packageName .empty none) []
      ((newService configuration).joinedBy ⟨packageName, request⟩)
      (startChannel configuration none) ⟨1⟩ journal).Tandem := tandem_stage rfl
  have decided : (newService configuration).decides ⟨packageName, request⟩ = some (0, outcome) := by
    have responsive : (newService configuration).configuration.unresponsive = false := rfl
    simp [LocalService.decides, responsive, carried, handled]
  have running := (newService configuration).running_handle ⟨packageName, request⟩
  have inbox := (newService configuration).inbox_handle ⟨packageName, request⟩
  rw [thorough.eq_settle tandem, ← tandem.settle_after .request, Deployment.after, acted_serve,
    serve_stage rfl, LocalService.workOff_eq, decided]
  exact ⟨_, settle_stage_nil running inbox⟩

/-- So a question comes to what the answer says. -/
theorem exists_inquire (thorough : Thorough meanwhile) {α : Type} {request : ChannelId → Request}
    {outcome : Outcome} (carried : (request 0).channel? = some 0)
    (handled : ((newService configuration).handle ⟨packageName, request 0⟩).2 = some outcome)
    {read : Deployment LocalService → ChannelId → Except Failure α} {expected : Except Failure α}
    (reads : Reads read outcome expected) :
    ∃ later, (connected configuration packageName).inquire 0
          (client configuration packageName .empty none) request meanwhile read =
        (expected, later) ∧
      later.managers = [client configuration packageName .empty none] := by
  have issued : (connected configuration packageName).issue 0
      (client configuration packageName .empty none) request =
        (.ok 0, stage (client configuration packageName .empty none) []
          ((newService configuration).joinedBy ⟨packageName, request 0⟩)
          (startChannel configuration none) ⟨1⟩
          [.asked (some 0) ⟨packageName, request 0⟩ (.ok ())]) := rfl
  rcases exists_settled configuration packageName thorough carried handled
    [.asked (some 0) ⟨packageName, request 0⟩ (.ok ())] with ⟨service, settled⟩
  rw [inquire, issued]
  simp only [settled]
  refine ⟨_, Prod.ext ?_ rfl, rfl⟩
  exact reads.decided _ _ ⟨configuration.timeoutSpan, some outcome, none⟩ rfl rfl

variable (thorough : Thorough meanwhile)

include thorough

theorem isFeatureEnabled_connected :
    ((connected configuration packageName).isFeatureEnabled 0 meanwhile).1 =
      ownersAnswer {} packageName true := by
  have handled := handle_featureEnabled { explicitlyEnabled := configuration.explicitlyEnabled } []
    packageName 0
  rcases exists_inquire configuration packageName thorough rfl handled
    (reads_answerOf (verdict_ownersAnswer _ packageName true)) with ⟨later, inquired, -⟩
  exact congrArg Prod.fst inquired

theorem setFeatureEnabled_connected (enabled : Bool) :
    ((connected configuration packageName).setFeatureEnabled 0 enabled meanwhile).1 =
      ownersAnswer {} packageName true := by
  have handled := handle_setFeatureEnabled
    { explicitlyEnabled := configuration.explicitlyEnabled } [] packageName enabled 0
  rcases exists_inquire configuration packageName thorough rfl handled
    (reads_answerOf (verdict_ownersAnswer _ packageName true)) with ⟨later, inquired, -⟩
  exact congrArg Prod.fst inquired

/-- Whoever asks is told the component, and capture is on for them. -/
theorem exists_serviceComponentName :
    ∃ later, (connected configuration packageName).serviceComponentName 0 meanwhile =
        (.ok (some (newService configuration).configuration.component), later) ∧
      (later.isEnabled 0).1 = true := by
  have handled := handle_serviceComponentName
    { explicitlyEnabled := configuration.explicitlyEnabled } [] packageName 0
  rcases exists_inquire configuration packageName thorough rfl handled
    (reads_payloadOf _) with ⟨later, inquired, managers⟩
  refine ⟨later, inquired, ?_⟩
  simp [isEnabled, poll, updateSession, updateManager, managers, client, Manager.withSession,
    Manager.isEnabled]

end

/-! ## What is written -/

section

variable {configuration : Configuration} {packageName : String} (thorough : Thorough meanwhile)

include thorough

/-- The feature is on, and its owner may ask. -/
theorem after_getFeature :
    (getFeature meanwhile (connected configuration packageName)).after "" =
      if packageName = "com.example.capture" then (.ok (), "\x7b\"enabled\":true\x7d\n")
      else (.error (.capture .notService), "") := by
  have answered := isFeatureEnabled_connected configuration packageName thorough
  rw [getFeature]
  simp only [answered, after_bind, after_require]
  by_cases owner : packageName = "com.example.capture"
  · have written : Json.Value.compact (.object [("enabled", .bool true)]) =
        "\x7b\"enabled\":true\x7d" := by decide +kernel
    rw [if_pos owner, ownersAnswer, if_pos owner]
    simp only [Except.mapError, after_writeLine, written, String.empty_append]
    rfl
  · rw [if_neg owner, ownersAnswer, if_neg owner]
    rfl

theorem after_setFeature (enabled : Bool) :
    (setFeature meanwhile (connected configuration packageName) enabled).after "" =
      if packageName = "com.example.capture" then
        (.ok (), "\x7b\"acknowledged\":true,\"enabled\":" ++ Text.ofBool enabled ++ "\x7d\n")
      else (.error (.capture .notService), "") := by
  have answered := setFeatureEnabled_connected configuration packageName thorough enabled
  rw [setFeature]
  simp only [answered, after_bind, after_require]
  by_cases owner : packageName = "com.example.capture"
  · rw [if_pos owner, ownersAnswer, if_pos owner]
    cases enabled <;> decide +kernel
  · rw [if_neg owner, ownersAnswer, if_neg owner]
    rfl

/-- Anybody is told the component. -/
theorem after_showService :
    (showService meanwhile (connected configuration packageName)).after "" =
      (.ok (), "\x7b\"component\":\"com.example.capture/com.example.capture.CaptureService\"," ++
        "\"enabled\":true\x7d\n") := by
  rcases exists_serviceComponentName configuration packageName thorough with
    ⟨later, answered, enabled⟩
  have component : (newService configuration).configuration.component =
      ⟨"com.example.capture", "com.example.capture.CaptureService"⟩ := rfl
  rw [showService]
  simp only [answered, enabled, after_bind, after_require, component]
  decide +kernel

end

/-! ## Configurations -/

section

variable {invocation : Invocation} {read : String → Except FileFault ByteArray}
  {setting : Option ByteArray}

/-- The configuration is that of the file, or the standard one, in the environment. -/
theorem loadConfiguration_eq_bind :
    loadConfiguration invocation read setting =
      (invocation.configuration.elim (.ok {})
        fun path => Configuration.ofFile (readNamed read path)).bind
          fun base => base.inEnvironment setting := by
  rw [Configuration.loadConfiguration_eq_loaded, Configuration.Origin.ofInvocation]
  cases invocation.configuration <;> rfl

/-- A file that is not text is refused as a file. -/
theorem exists_fault_of_unread {content : Except FileFault ByteArray}
    (unread : content.toOption.bind String.fromUTF8? = none) :
    ∃ fault, Configuration.ofFile content = .error (.file fault) := by
  cases content with
  | error fault => exact ⟨fault, rfl⟩
  | ok bytes =>
      have undecoded : String.fromUTF8? bytes = none := unread
      refine ⟨.notText, ?_⟩
      change (Configuration.decodedBytes bytes).bind Configuration.ofText = _
      rw [Configuration.decodedBytes, undecoded]
      rfl

theorem exists_fault_of_unreadable (applies : Reason.unreadable.Applies invocation read setting) :
    ∃ fault, loadConfiguration invocation read setting = .error (.file fault) := by
  rcases applies with ⟨named, unread⟩
  rcases Option.isSome_iff_exists.mp named with ⟨path, hpath⟩
  rw [Reason.text?, hpath, Option.bind_some] at unread
  rcases exists_fault_of_unread unread with ⟨fault, refused⟩
  refine ⟨fault, ?_⟩
  rw [loadConfiguration_eq_bind, hpath, Option.elim_some, refused]
  rfl

theorem loadConfiguration_of_text? {text : String}
    (written : Reason.text? invocation read = some text) :
    loadConfiguration invocation read setting =
      (Configuration.ofText text).bind fun base => base.inEnvironment setting := by
  rcases Option.bind_eq_some_iff.mp written with ⟨path, named, decoded⟩
  rw [loadConfiguration_eq_bind, named, Option.elim_some, Configuration.ofFile_eq_ofText decoded]

theorem exists_fault_of_misconfigured
    (applies : Reason.misconfigured.Applies invocation read setting) :
    ∃ fault, loadConfiguration invocation read setting = .error (.configuration fault) := by
  rcases applies with ⟨text, written, nothing⟩
  rcases Configuration.exists_fault_of_not_givenBy nothing with ⟨fault, refused⟩
  refine ⟨fault, ?_⟩
  rw [loadConfiguration_of_text? written, refused]
  rfl

/-- Otherwise there is a configuration, which the environment may override. -/
theorem exists_base (readable : ¬ Reason.unreadable.Applies invocation read setting)
    (configured : ¬ Reason.misconfigured.Applies invocation read setting) :
    ∃ base : Configuration,
      loadConfiguration invocation read setting = base.inEnvironment setting ∧
        base.timeout ≠ 0 ∧
        (base.explicitlyEnabled = some false ↔ Reason.off.Applies invocation read setting) := by
  cases named : invocation.configuration with
  | none =>
      refine ⟨{}, ?_, by decide, ?_⟩
      · rw [loadConfiguration_eq_bind, named]
        rfl
      · constructor
        · intro off
          cases off
        · rintro ⟨text, configuration, written, -⟩
          rw [Reason.text?, named] at written
          cases written
  | some path =>
      cases written : Reason.text? invocation read with
      | none => exact absurd ⟨by rw [named]; rfl, written⟩ readable
      | some text =>
          have given : ∃ configuration, Configuration.GivenBy configuration text := by
            by_contra nothing
            exact configured ⟨text, written, not_exists.mp nothing⟩
          rcases given with ⟨base, given⟩
          have accepted := Configuration.ofText_eq_ok_iff.mpr given
          refine ⟨base, ?_, Configuration.timeout_ne_zero_of_ofText accepted, ?_⟩
          · rw [loadConfiguration_of_text? written, accepted]
            rfl
          · constructor
            · intro off
              exact ⟨text, base, written, given, off⟩
            · rintro ⟨other, configuration, again, likewise, off⟩
              cases written.symm.trans again
              have same := accepted.symm.trans (Configuration.ofText_eq_ok_iff.mpr likewise)
              cases same
              exact off

theorem exists_fault_of_overridden (applies : Reason.overridden.Applies invocation read setting)
    (base : Configuration) :
    ∃ fault, base.inEnvironment setting = .error (.configuration fault) := by
  rcases applies with ⟨text, written, nothing⟩
  rw [Configuration.inEnvironment, written]
  exact base.exists_fault_of_not_asksFor nothing

/-- What the environment overrides leaves the service on or off. -/
theorem exists_configuration (sound : ¬ Reason.overridden.Applies invocation read setting)
    {base : Configuration} (positive : base.timeout ≠ 0) :
    ∃ configuration, base.inEnvironment setting = .ok configuration ∧
      configuration.explicitlyEnabled = base.explicitlyEnabled := by
  cases written : setting.bind String.fromUTF8? with
  | none =>
      rw [base.inEnvironment_of_unset written, Configuration.validated_eq, if_neg positive]
      exact ⟨base, rfl, rfl⟩
  | some text =>
      have asks : ∃ timeout, Configuration.AsksFor text timeout := by
        by_contra nothing
        exact sound ⟨text, written, not_exists.mp nothing⟩
      rcases asks with ⟨timeout, asks⟩
      rw [Configuration.inEnvironment, written]
      exact ⟨_, Configuration.overridden_some_eq_ok_iff.mpr ⟨timeout, asks, rfl⟩, rfl⟩

end

/-! ## Commands -/

section

variable {invocation : Invocation} {read : String → Except FileFault ByteArray}
  {setting : Option ByteArray} {configuration : Configuration}
  (loaded : loadConfiguration invocation read setting = .ok configuration)
  (on : configuration.explicitlyEnabled ≠ some false)

include loaded on

theorem carryOut_of_foreign (thorough : Thorough meanwhile)
    (applies : Reason.foreign.Applies invocation read setting) :
    carryOut meanwhile invocation read setting = (.error (.capture .notService), "") := by
  rw [carryOut_of_on meanwhile read setting loaded on]
  rcases applies with ⟨command | ⟨enabled, command⟩, stranger⟩
  · rw [command]
    exact (after_getFeature thorough).trans (if_neg stranger)
  · rw [command]
    exact (after_setFeature thorough enabled).trans (if_neg stranger)

theorem exists_failure_of_nameless
    (applies : Reason.nameless.Applies invocation read setting) :
    ∃ failure, Reason.nameless.LeadsTo invocation failure ∧
      carryOut meanwhile invocation read setting = (.error failure, "") := by
  rcases applies with ⟨disable, stop, activity, command, blank⟩
  refine ⟨_, ⟨disable, stop, activity, command, rfl⟩, ?_⟩
  have named : startedComponent invocation.packageName activity =
      ⟨invocation.packageName, startedClass invocation.packageName activity⟩ :=
    startedComponent_eq invocation.packageName activity
  rw [carryOut_of_on meanwhile read setting loaded on, command]
  exact after_simulate_of_error
    (simulated_of_fault _ named (startFault?_of_isBlank blank) disable stop)

/-- A command that nothing speaks against writes all its output. -/
theorem carryOut_of_sound (thorough : Thorough meanwhile)
    (native : ¬ Reason.foreign.Applies invocation read setting)
    (named : ¬ Reason.nameless.Applies invocation read setting) :
    carryOut meanwhile invocation read setting = (.ok (), output invocation) := by
  rw [carryOut_of_on meanwhile read setting loaded on]
  cases command : invocation.command with
  | featureGet =>
      have owner : invocation.packageName = "com.example.capture" := by
        by_contra stranger
        exact native ⟨.inl command, stranger⟩
      simp only [output, command]
      exact (after_getFeature thorough).trans (if_pos owner)
  | featureSet enabled =>
      have owner : invocation.packageName = "com.example.capture" := by
        by_contra stranger
        exact native ⟨.inr ⟨enabled, command⟩, stranger⟩
      simp only [output, command]
      exact (after_setFeature thorough enabled).trans (if_pos owner)
  | service =>
      simp only [output, command]
      exact after_showService thorough
  | simulate disable stop activity =>
      have proper : startFault? (startedToken
            ⟨invocation.packageName, startedClass invocation.packageName activity⟩)
          ⟨invocation.packageName, startedClass invocation.packageName activity⟩ = none :=
        startFault?_of_not_isBlank
          (fun blank => named ⟨disable, stop, activity, command, .inl blank⟩)
          (fun blank => named ⟨disable, stop, activity, command, .inr blank⟩)
      rcases simulated_connected thorough configuration
        (startedComponent_eq invocation.packageName activity) proper disable stop with
          ⟨now, done, -, -, managed, served⟩
      simp only [output, command]
      exact (after_simulate done).trans (by rw [managed, served]; rfl)

end

/-- A command fails for the first reason that applies, without having written anything, and
succeeds if none does, with all its output written.  There is no other way for it to end. -/
theorem carryOut_verdict (thorough : Thorough meanwhile) (invocation : Invocation)
    (read : String → Except FileFault ByteArray) (setting : Option ByteArray) :
    (∃ reason failure, Reason.IsFirst invocation read setting reason ∧
        reason.LeadsTo invocation failure ∧
        carryOut meanwhile invocation read setting = (.error failure, "")) ∨
      (∀ reason : Reason, ¬ reason.Applies invocation read setting) ∧
        carryOut meanwhile invocation read setting = (.ok (), output invocation) := by
  -- The reasons are taken in order; each case needs that none of those before applies.
  by_cases unreadable : Reason.unreadable.Applies invocation read setting
  · rcases exists_fault_of_unreadable unreadable with ⟨fault, refused⟩
    exact .inl ⟨.unreadable, _, ⟨[], _, rfl, unreadable, by simp⟩, ⟨fault, rfl⟩,
      carryOut_of_unloaded meanwhile read setting refused⟩
  by_cases misconfigured : Reason.misconfigured.Applies invocation read setting
  · rcases exists_fault_of_misconfigured misconfigured with ⟨fault, refused⟩
    exact .inl ⟨.misconfigured, _,
      ⟨[.unreadable], _, rfl, misconfigured, by simp [unreadable]⟩, ⟨fault, rfl⟩,
      carryOut_of_unloaded meanwhile read setting refused⟩
  rcases exists_base unreadable misconfigured with ⟨base, loads, positive, switch⟩
  by_cases overridden : Reason.overridden.Applies invocation read setting
  · rcases exists_fault_of_overridden overridden base with ⟨fault, refused⟩
    exact .inl ⟨.overridden, _,
      ⟨[.unreadable, .misconfigured], _, rfl, overridden, by simp [unreadable, misconfigured]⟩,
      ⟨fault, rfl⟩, carryOut_of_unloaded meanwhile read setting (loads.trans refused)⟩
  rcases exists_configuration overridden positive with ⟨configuration, accepted, unswitched⟩
  have loaded := loads.trans accepted
  rw [← unswitched] at switch
  by_cases off : Reason.off.Applies invocation read setting
  · exact .inl ⟨.off, _,
      ⟨[.unreadable, .misconfigured, .overridden], _, rfl, off,
        by simp [unreadable, misconfigured, overridden]⟩,
      rfl, carryOut_of_off meanwhile read setting loaded (switch.mpr off)⟩
  have on : configuration.explicitlyEnabled ≠ some false := fun closed => off (switch.mp closed)
  by_cases foreign : Reason.foreign.Applies invocation read setting
  · exact .inl ⟨.foreign, _,
      ⟨[.unreadable, .misconfigured, .overridden, .off], _, rfl, foreign,
        by simp [unreadable, misconfigured, overridden, off]⟩,
      rfl, carryOut_of_foreign loaded on thorough foreign⟩
  by_cases nameless : Reason.nameless.Applies invocation read setting
  · rcases exists_failure_of_nameless loaded on nameless with ⟨failure, leads, failed⟩
    exact .inl ⟨.nameless, failure,
      ⟨[.unreadable, .misconfigured, .overridden, .off, .foreign], _, rfl, nameless,
        by simp [unreadable, misconfigured, overridden, off, foreign]⟩, leads, failed⟩
  refine .inr ⟨?_, carryOut_of_sound loaded on thorough foreign nameless⟩
  intro reason
  cases reason <;> assumption

/-- A stranger asks for the feature of a service that is turned off, and wants no timeout. -/
def thriceWrong : Invocation :=
  ⟨0, some "capture.json", "org.example", .featureGet⟩

/-- The owner turns the feature off. -/
def ownersWish : Invocation :=
  ⟨0, none, "com.example.capture", .featureSet false⟩

theorem carryOut_verdict_thriceWrong :
    let read : String → Except FileFault ByteArray := fun _ => .ok "[5,false]".toUTF8
    let setting : Option ByteArray := some "0".toUTF8
    Reason.off.Applies thriceWrong read setting ∧
      Reason.foreign.Applies thriceWrong read setting ∧
      Reason.IsFirst thriceWrong read setting .overridden ∧
      carryOut Deployment.settle thriceWrong read setting =
        (.error (.capture (.configuration .zeroTimeout)), "") ∧
      (∀ reason : Reason, ¬ reason.Applies ownersWish read none) ∧
      carryOut Deployment.settle ownersWish read none =
        (.ok (), "\x7b\"acknowledged\":true,\"enabled\":false\x7d\n") := by
  intro read setting
  have given : Configuration.GivenBy ⟨5, some false⟩ "[5,false]" := by
    apply Configuration.ofText_eq_ok_iff.mp
    decide +kernel
  have written : Reason.text? thriceWrong read = some "[5,false]" := by decide +kernel
  have failed : carryOut Deployment.settle thriceWrong read setting =
      (.error (.capture (.configuration .zeroTimeout)), "") := by decide +kernel
  have done : carryOut Deployment.settle ownersWish read none =
      (.ok (), "\x7b\"acknowledged\":true,\"enabled\":false\x7d\n") := by decide +kernel
  refine ⟨⟨_, _, written, given, rfl⟩, ⟨.inl rfl, by decide⟩, ?_, failed, ?_, done⟩
  · rcases carryOut_verdict thorough_settle thriceWrong read setting with
      ⟨reason, failure, first, leads, ends⟩ | ⟨-, ends⟩
    · cases failed.symm.trans ends
      cases reason with
      | overridden => exact first
      | misconfigured =>
          rcases first with ⟨-, -, -, ⟨text, again, nothing⟩, -⟩
          cases written.symm.trans again
          exact absurd given (nothing _)
      | unreadable =>
          obtain ⟨fault, same⟩ := leads
          cases same
      | off => cases leads
      | foreign => cases leads
      | nameless =>
          obtain ⟨disable, stop, activity, -, same⟩ := leads
          cases same
    · cases failed.symm.trans ends
  · rcases carryOut_verdict thorough_settle ownersWish read none with
      ⟨-, failure, -, -, ends⟩ | ⟨nothing, -⟩
    · cases done.symm.trans ends
    · exact nothing

end CommandLine
end ContentCapture
