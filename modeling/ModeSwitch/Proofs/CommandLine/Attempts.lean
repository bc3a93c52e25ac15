import Mathlib
import ModeSwitch.Proofs.CommandLine.Requests
import ModeSwitch.Proofs.Config.Loading

/-! Attempts to set a toggle from the command line.

An attempt can fail while its description is loaded, while its key is looked up, and while the device
writes; and even then the device may show another state.  The conclusion, the events and the writes
are three accounts of how far it got.
-/

namespace ModeSwitch.CommandLine

open Procedure

variable {σ : Type}

/-- A call that sets a toggle: which description it asks for and how files are read, the device that it
is made on, and what it requests. -/
structure Attempt (σ : Type) where
  config? : Option String
  readFile : AttrPath → Except StoreError String
  respond : Responder σ
  state : σ
  key : String
  requested : State

/-- How far an attempt gets. -/
inductive Fate where
  /-- There is no valid description. -/
  | unloaded
  /-- The key is not described. -/
  | unknown
  /-- The device refuses the write. -/
  | refused (spec : ToggleSpec) (cause : StoreError)
  /-- The device writes, and then shows a state. -/
  | settled (spec : ToggleSpec) (observed : State)
  deriving DecidableEq, Repr

namespace Fate

def code (requested : State) : Fate → Nat
  | .settled _ observed => if observed = requested then 0 else 2
  | .unloaded | .unknown | .refused .. => 1

/-- The output that tells a fate: one line if the device wrote, and nothing otherwise. -/
def output (key : String) (requested : State) : Fate → String
  | .settled _ observed =>
      let line :=
        if observed = requested then key ++ " is now " ++ observed.word
        else key ++ " is " ++ observed.word ++ " (driver did not accept " ++ requested.word ++ ")"
      line ++ "\n"
  | .unloaded | .unknown | .refused .. => ""

/-- The verdicts that tell a fate.  Whoever fails says so, and the command says so again; a state that
differs is objected to by the toggle and by the settings. -/
def verdicts (key : String) (requested : State) : Fate → List Event
  | .unloaded => []
  | .unknown => [.refused (.unknownToggle key)]
  | .refused spec cause => [.writeFailed key cause, .refused (.notWritten ⟨spec.path, cause⟩)]
  | .settled _ observed =>
      if observed = requested then []
      else [.rejected key requested observed, .stayed key observed requested]

/-- The writes that an attempt makes: one as soon as its toggle is found, of the token that stands for
the request. -/
def writes (requested : State) : Fate → List Request
  | .unloaded | .unknown => []
  | .refused spec _ | .settled spec _ =>
      let token := if requested = .enabled then spec.tokens.enabled else spec.tokens.disabled
      [.write spec.path (token ++ "\n")]

variable {fate : Fate} {requested : State}

/-- The code is zero exactly if the device shows what was requested. -/
theorem code_eq_zero_iff : fate.code requested = 0 ↔ ∃ spec, fate = .settled spec requested := by
  cases fate <;> simp [code]

theorem code_eq_two_iff
    : fate.code requested = 2
      ↔ ∃ spec observed, observed ≠ requested ∧ fate = .settled spec observed := by
  cases fate <;> simp [code]

/-- The code is one exactly if nothing was written. -/
theorem code_eq_one_iff
    : fate.code requested = 1 ↔ ¬ ∃ spec observed, fate = .settled spec observed := by
  cases fate with
  | settled spec observed => by_cases same : observed = requested <;> simp [code, same]
  | _ => simp [code]

end Fate

namespace Attempt

variable (attempt : Attempt σ)

def invocation : Invocation :=
  ⟨attempt.config?, .set attempt.key attempt.requested⟩

def run : Run σ Conclusion :=
  (attempt.invocation.procedure
    (Config.load attempt.readFile attempt.invocation.source)).run attempt.respond attempt.state .fresh

def Loads (config : Config) : Prop :=
  config.HeldBy attempt.readFile attempt.invocation.source

/-- The key is that of a toggle of the description. -/
def Finds (spec : ToggleSpec) : Prop :=
  ∃ config, attempt.Loads config ∧ spec ∈ config.toggles ∧ spec.key = attempt.key

/-- The state of the device once an attribute was looked for. -/
def lookedFor (spec : ToggleSpec) : σ :=
  (attempt.respond (.probe spec.path) attempt.state).state

/-- Which fate an attempt meets is decided by the text of the description and by the replies of the
device alone. -/
def Meets : Fate → Prop
  | .unloaded => ¬ ∃ config, attempt.Loads config
  | .unknown => ∃ config, attempt.Loads config ∧ ∀ spec ∈ config.toggles, spec.key ≠ attempt.key
  | .refused spec cause =>
      attempt.Finds spec
      ∧ attempt.respond.Refuses (.ofSpec spec) attempt.requested (attempt.lookedFor spec) cause
  | .settled spec observed =>
      attempt.Finds spec
      ∧ attempt.respond.Settles (.ofSpec spec) attempt.requested (attempt.lookedFor spec) observed

/-- The conclusion, the events and the writes of an attempt are those of its fate. -/
structure Tells (fate : Fate) (conclusion : Conclusion) : Prop where
  ending_eq : attempt.run.ending = .finished conclusion
  code_eq : conclusion.code = fate.code attempt.requested
  output_eq : conclusion.outputText = fate.output attempt.key attempt.requested
  verdicts_eq : verdictsOf attempt.run.events = fate.verdicts attempt.key attempt.requested
  writes_eq : attempt.run.requests.filter Request.isWrite = fate.writes attempt.requested

variable {attempt} {config : Config} {spec : ToggleSpec} {fate : Fate}

/-- An attempt asks for one description only. -/
theorem Loads.unique {other : Config} (loads : attempt.Loads config) (loads' : attempt.Loads other)
    : config = other := by
  have same := (Config.load_eq_ok_iff.mpr loads).symm.trans (Config.load_eq_ok_iff.mpr loads')
  exact Except.ok.inj same

theorem Loads.sound (loads : attempt.Loads config) : config.Sound := by
  obtain ⟨text, -, -, valid⟩ := loads
  exact Config.validate_eq_ok_iff.mp valid

/-- Only one toggle is meant: a sound description has every key once. -/
theorem Finds.unique {other : ToggleSpec} (finds : attempt.Finds spec) (finds' : attempt.Finds other)
    : spec = other := by
  obtain ⟨config, loads, member, key⟩ := finds
  obtain ⟨config', loads', member', key'⟩ := finds'
  obtain rfl := loads.unique loads'
  exact loads.sound.spec_eq_of_key member member' (key.trans key'.symm)

/-- A key that was found is not unknown, as there is no other description. -/
theorem Finds.not_unknown (finds : attempt.Finds spec) : ¬ attempt.Meets .unknown := by
  rintro ⟨config, loads, unknown⟩
  obtain ⟨other, loads', member, key⟩ := finds
  obtain rfl := loads.unique loads'
  exact unknown spec member key

/-- Whoever fails to load a description gets no further. -/
theorem Meets.eq_unloaded (unloaded : attempt.Meets .unloaded) (meets : attempt.Meets fate)
    : fate = .unloaded := by
  cases fate with
  | unloaded => rfl
  | unknown =>
      obtain ⟨config, loads, -⟩ := meets
      exact (unloaded ⟨config, loads⟩).elim
  | refused spec cause =>
      obtain ⟨⟨config, loads, -⟩, -⟩ := meets
      exact (unloaded ⟨config, loads⟩).elim
  | settled spec observed =>
      obtain ⟨⟨config, loads, -⟩, -⟩ := meets
      exact (unloaded ⟨config, loads⟩).elim

theorem Meets.eq_unknown (unknown : attempt.Meets .unknown) (meets : attempt.Meets fate)
    : fate = .unknown := by
  cases fate with
  | unloaded => exact (meets.eq_unloaded unknown).symm
  | unknown => rfl
  | refused spec cause => exact (meets.1.not_unknown unknown).elim
  | settled spec observed => exact (meets.1.not_unknown unknown).elim

/-- An attempt meets no more than one fate. -/
theorem Meets.unique {other : Fate} (meets : attempt.Meets fate) (meets' : attempt.Meets other)
    : fate = other := by
  cases fate with
  | unloaded => exact (meets.eq_unloaded meets').symm
  | unknown => exact (meets.eq_unknown meets').symm
  -- Past the lookup both fates are about one toggle, and a device that refuses a write settles
  -- nothing.
  | refused spec cause =>
      cases other with
      | unloaded => exact meets'.eq_unloaded meets
      | unknown => exact meets'.eq_unknown meets
      | refused spec' cause' =>
          obtain rfl := meets.1.unique meets'.1
          rw [meets.2.unique meets'.2]
      | settled spec' observed =>
          obtain rfl := meets.1.unique meets'.1
          exact (meets.2.not_settles meets'.2).elim
  | settled spec observed =>
      cases other with
      | unloaded => exact meets'.eq_unloaded meets
      | unknown => exact meets'.eq_unknown meets
      | refused spec' cause =>
          obtain rfl := meets.1.unique meets'.1
          exact (meets'.2.not_settles meets.2).elim
      | settled spec' observed' =>
          obtain rfl := meets.1.unique meets'.1
          rw [meets.2.unique meets'.2]

theorem Meets.meets_iff {other : Fate} (meets : attempt.Meets fate)
    : attempt.Meets other ↔ fate = other :=
  ⟨meets.unique, fun same => same ▸ meets⟩

/-- Some fate is met whenever the device answers. -/
theorem exists_fate (answers : attempt.respond.Answers) : ∃ fate, attempt.Meets fate := by
  -- The stages in their order: loading, lookup, and the write.
  by_cases loaded : ∃ config, attempt.Loads config
  · obtain ⟨config, loads⟩ := loaded
    by_cases known : ∃ spec ∈ config.toggles, spec.key = attempt.key
    · obtain ⟨spec, member, key⟩ := known
      have finds : attempt.Finds spec := ⟨config, loads, member, key⟩
      rcases answers.refuses_or_settles (.ofSpec spec) attempt.requested (attempt.lookedFor spec) with
        ⟨cause, refuses⟩ | ⟨observed, settles⟩
      · exact ⟨.refused spec cause, finds, refuses⟩
      · exact ⟨.settled spec observed, finds, settles⟩
    · exact ⟨.unknown, config, loads, fun spec member key => known ⟨spec, member, key⟩⟩
  · exact ⟨.unloaded, loaded⟩

theorem verdictsOf_loadingEvent (source : ConfigSource)
    : verdictsOf [Config.loadingEvent source] = [] := by
  cases source <;> rfl

/-- A finished run whose course is that of a fate tells it. -/
theorem tells_of_course (serves : attempt.respond.Serves) {conclusion : Conclusion}
    {requests : List Request} {final : σ}
    (course
      : attempt.run.Course attempt.respond conclusion requests
          (fate.verdicts attempt.key attempt.requested) final .fresh)
    (code : conclusion.code = fate.code attempt.requested)
    (output : conclusion.outputText = fate.output attempt.key attempt.requested)
    (writes : requests.filter Request.isWrite = fate.writes attempt.requested)
    : attempt.Tells fate conclusion where
  ending_eq := course.ending_eq
  code_eq := code
  output_eq := output
  verdicts_eq := course.verdicts_eq serves.discreet
  writes_eq := by rw [course.requests_eq, writes]

/-- Without a description the attempt is at its end. -/
theorem tells_of_unloaded (serves : attempt.respond.Serves) (unloaded : attempt.Meets .unloaded)
    : ∃ conclusion, attempt.Tells .unloaded conclusion := by
  cases returned : Config.load attempt.readFile attempt.invocation.source with
  | ok config => exact (unloaded ⟨config, Config.load_eq_ok_iff.mp returned⟩).elim
  | error cause =>
      have course
          : attempt.run.Course attempt.respond ⟨[], Conclusion.failureCode, cause.chain⟩ []
              (verdictsOf [Config.loadingEvent attempt.invocation.source] ++ []) attempt.state
              .fresh := by
        rw [run, returned]
        exact course_note _ (course_done _)
      rw [verdictsOf_loadingEvent] at course
      exact ⟨_, tells_of_course serves course rfl rfl rfl⟩

/-- With a description, the command takes its course. -/
theorem run_course (loads : attempt.Loads config) {conclusion : Conclusion} {requests : List Request}
    {verdicts : List Event} {final : σ}
    (request
      : ((Command.request (.ofConfig config) attempt.key attempt.requested).run attempt.respond
          attempt.state .fresh).Course attempt.respond conclusion requests verdicts final .fresh)
    : attempt.run.Course attempt.respond conclusion requests verdicts final .fresh := by
  have course
      : attempt.run.Course attempt.respond conclusion requests
          (verdictsOf [Config.loadingEvent attempt.invocation.source]
            ++ (verdictsOf [.settingsBuilt config.name (Settings.ofConfig config).slots.length]
              ++ verdicts)) final .fresh := by
    rw [run, Config.load_eq_ok_iff.mpr loads]
    exact course_note _ (course_note _ request)
  rw [verdictsOf_loadingEvent] at course
  exact course

/-- A described key leads to a slot of its toggle. -/
theorem Finds.exists_slot? (finds : attempt.Finds spec)
    : ∃ config title lock,
        attempt.Loads config
        ∧ (Settings.ofConfig config).slot? attempt.key = some ⟨title, .ofSpec spec, lock⟩ := by
  obtain ⟨config, loads, member, key⟩ := finds
  obtain ⟨⟨title, toggle, lock⟩, known, rfl⟩ := Settings.exists_slot?_of_spec loads.sound member
  rw [key] at known
  exact ⟨config, title, lock, loads, known⟩

theorem Finds.name_eq (finds : attempt.Finds spec) : (Toggle.ofSpec spec).name = attempt.key := by
  obtain ⟨config, -, -, key⟩ := finds
  exact key

/-- An unknown key ends an attempt before it reaches the device. -/
theorem tells_of_unknown (serves : attempt.respond.Serves) (unknown : attempt.Meets .unknown)
    : ∃ conclusion, attempt.Tells .unknown conclusion := by
  obtain ⟨config, loads, unknown⟩ := unknown
  have course := run_course loads
    (Command.request_course_of_unknown (Settings.slot?_eq_none_iff.mpr unknown) attempt.requested)
  exact ⟨_, tells_of_course serves course rfl rfl rfl⟩

/-- A refused write is the last thing that the device is asked for. -/
theorem tells_of_refused (serves : attempt.respond.Serves) {cause : StoreError}
    (refused : attempt.Meets (.refused spec cause))
    : ∃ conclusion, attempt.Tells (.refused spec cause) conclusion := by
  obtain ⟨finds, refuses⟩ := refused
  obtain ⟨config, title, lock, loads, known⟩ := finds.exists_slot?
  obtain ⟨final, request⟩ :=
    Command.request_course_of_refused known serves.answers (Locks.free_fresh lock) refuses
  rw [finds.name_eq] at request
  have course := run_course loads request
  refine ⟨_, tells_of_course serves course rfl rfl ?_⟩
  rw [Fate.writes, ← Tokens.line_eq]
  rfl

/-- Once the device wrote, all that is told depends on the state that it shows. -/
theorem tells_of_settled (serves : attempt.respond.Serves) {observed : State}
    (settled : attempt.Meets (.settled spec observed))
    : ∃ conclusion, attempt.Tells (.settled spec observed) conclusion := by
  obtain ⟨finds, settles⟩ := settled
  obtain ⟨config, title, lock, loads, known⟩ := finds.exists_slot?
  obtain ⟨final, request⟩ :=
    Command.request_course_of_settled known serves.answers (Locks.free_fresh lock) settles
  -- The toggle and the settings object one after the other; the fate lists both objections at once.
  have agree
      : (Toggle.ofSpec spec).rejection attempt.requested observed
          ++ Settings.objection attempt.key attempt.requested observed
        = (Fate.settled spec observed).verdicts attempt.key attempt.requested := by
    dsimp only [Toggle.rejection, Settings.objection, Fate.verdicts]
    rw [finds.name_eq]
    split <;> rfl
  have course := run_course loads request
  rw [agree] at course
  refine ⟨_, tells_of_course serves course ?code ?output ?writes⟩
  case code =>
    by_cases same : observed = attempt.requested
    · simp [Fate.code, Outcome.accepted, same]
    · simp [Fate.code, Outcome.accepted, same, Ne.symm same, Conclusion.rejectedCode]
  case output =>
    by_cases same : observed = attempt.requested
    · simp [Fate.output, Conclusion.outputText, Outcome.describe, Outcome.accepted, same]
    · simp [Fate.output, Conclusion.outputText, Outcome.describe, Outcome.accepted, same,
        Ne.symm same]
  case writes =>
    rw [Fate.writes, ← Tokens.line_eq]
    exact congrArg (_ :: ·) ((Toggle.ofSpec spec).filter_noticeRequests observed)

theorem exists_tells (serves : attempt.respond.Serves) (meets : attempt.Meets fate)
    : ∃ conclusion, attempt.Tells fate conclusion := by
  cases fate with
  | unloaded => exact tells_of_unloaded serves meets
  | unknown => exact tells_of_unknown serves meets
  | refused spec cause => exact tells_of_refused serves meets
  | settled spec observed => exact tells_of_settled serves meets

variable (attempt) in
/-- An attempt meets a fate, which all accounts tell, and the code of the conclusion tells how far it
got. -/
structure TellsOneStory (conclusion : Conclusion) : Prop where
  meets : ∃ fate, attempt.Meets fate
  tells : ∀ fate, attempt.Meets fate → attempt.Tells fate conclusion
  succeeds : conclusion.code = 0 ↔ ∃ spec, attempt.Meets (.settled spec attempt.requested)
  differs
    : conclusion.code = 2
      ↔ ∃ spec observed, observed ≠ attempt.requested ∧ attempt.Meets (.settled spec observed)
  fails : conclusion.code = 1 ↔ ¬ ∃ spec observed, attempt.Meets (.settled spec observed)

/-- An attempt on a device that serves comes to a conclusion that agrees with its fate. -/
theorem exists_tellsOneStory (serves : attempt.respond.Serves)
    : ∃ conclusion, attempt.TellsOneStory conclusion := by
  obtain ⟨fate, meets⟩ := exists_fate serves.answers
  obtain ⟨conclusion, tells⟩ := exists_tells serves meets
  refine ⟨conclusion, ⟨fate, meets⟩, fun other meets' => ?tells, ?succeeds, ?differs, ?fails⟩
  case tells =>
    rw [← meets.meets_iff.mp meets']
    exact tells
  case succeeds =>
    simp only [meets.meets_iff, tells.code_eq]
    exact Fate.code_eq_zero_iff
  case differs =>
    simp only [meets.meets_iff, tells.code_eq]
    exact Fate.code_eq_two_iff
  case fails =>
    simp only [meets.meets_iff, tells.code_eq]
    exact Fate.code_eq_one_iff

/-- The attempt that a call on a host makes: the description is one of its files, and so are the
attributes. -/
def onHost (environment : Host.Environment) (config? : Option String) (key : String)
    (requested : State) (tree : Host.FileTree)
    : Attempt Host.FileTree :=
  let readFile (path : AttrPath) := tree.readText path.text
  let source := Invocation.source ⟨config?, .set key requested⟩
  let service := serviceOf environment (Config.load readFile source)
  ⟨config?, readFile, Device.sharing fileStore service, tree, key, requested⟩

/-- The files of a host serve, and so does either service. -/
theorem onHost_serves (environment : Host.Environment) (config? : Option String) (key : String)
    (requested : State) (tree : Host.FileTree)
    : (onHost environment config? key requested tree).respond.Serves := by
  refine Responder.serves_fileStore ?_
  unfold serviceOf
  split
  · exact NotifierChoice.service_answers environment _
  · exact Notifier.journal_answers

end Attempt

/-- A call that is read as one that sets a toggle tells one story, whatever description, device and
service it meets: its code, its output, its events and its writes all follow from how far it gets.  On
a host, this is the story that the call shows. -/
theorem set_tells_one_story (environment : Host.Environment) (arguments : List String)
    (config? : Option String) (key : String) (requested : State)
    (parsed
      : Invocation.read (environment.get? configVariable) arguments
        = .ok ⟨config?, .set key requested⟩)
    : (∀ {σ : Type} (readFile : AttrPath → Except StoreError String) (respond : Responder σ),
        respond.Serves
        → ∀ state,
            ∃ conclusion,
              Attempt.TellsOneStory ⟨config?, readFile, respond, state, key, requested⟩ conclusion)
      ∧ ∀ tree,
          let attempt := Attempt.onHost environment config? key requested tree
          let shown := (Filter.ofSetting (environment.get? filterVariable)).lines attempt.run.events
          ∃ conclusion,
            attempt.TellsOneStory conclusion
            ∧ call environment arguments tree
              = (⟨conclusion.code, conclusion.outputText,
                  String.join (shown.map (· ++ "\n")) ++ conclusion.failureText⟩,
                attempt.run.state) := by
  refine ⟨fun readFile respond serves state => Attempt.exists_tellsOneStory serves, fun tree => ?_⟩
  intro attempt shown
  obtain ⟨conclusion, story⟩ := Attempt.exists_tellsOneStory
    (Attempt.onHost_serves environment config? key requested tree)
  refine ⟨conclusion, story, ?_⟩
  -- The call runs the very attempt, and shows its conclusion since the run comes to one.
  obtain ⟨fate, meets⟩ := story.meets
  have ended : attempt.run.ending = .finished conclusion := (story.tells fate meets).ending_eq
  have value : attempt.run.ending.value?.getD ⟨[], Conclusion.failureCode, []⟩ = conclusion := by
    rw [ended]
    rfl
  simp only [call, parsed]
  rw [← value]
  rfl

theorem stubborn_serves : Responder.stubborn.Serves where
  answers := Responder.stubborn_answers
  own request asked event member := by
    cases request <;> cases member

/-- A fan whose driver ignores what it is told is off: a request to turn it on is not accepted, and one
to turn it off is. -/
theorem fan_tells_one_story
    : let text :=
        "device:\n  name: A\n  toggles:\n  - key: fan\n    title: F\n    path: /f\n    "
          ++ "enabled_token: y\n    disabled_token: n\n"
      let arguments (word : String) := ["--config", "/etc/fan", "set", "fan", word]
      let attempt (requested : State) : Attempt (List Request) :=
        ⟨some "/etc/fan", fun _ => .ok text, Responder.stubborn, [], "fan", requested⟩
      let parses (word : String) (requested : State) :=
        Invocation.read (Host.Environment.usual.get? configVariable) (arguments word)
          = .ok (attempt requested).invocation
      (parses "on" .enabled
        ∧ ∃ conclusion,
            (attempt .enabled).run.ending = .finished conclusion
            ∧ conclusion.code = 2
            ∧ conclusion.outputText = "fan is off (driver did not accept on)\n"
            ∧ verdictsOf (attempt .enabled).run.events
              = [.rejected "fan" .enabled .disabled, .stayed "fan" .disabled .enabled]
            ∧ (attempt .enabled).run.requests.filter Request.isWrite = [.write ⟨"/f"⟩ "y\n"])
      ∧ parses "off" .disabled
      ∧ ∃ conclusion,
          (attempt .disabled).run.ending = .finished conclusion
          ∧ conclusion.code = 0
          ∧ conclusion.outputText = "fan is now off\n"
          ∧ verdictsOf (attempt .disabled).run.events = []
          ∧ (attempt .disabled).run.requests.filter Request.isWrite = [.write ⟨"/f"⟩ "n\n"] := by
  intro text arguments attempt parses
  let fan : ToggleSpec := ⟨"fan", "F", ⟨"/f"⟩, ⟨"y", "n"⟩, none⟩
  have decoded : Config.ofText text = .ok ⟨"A", .log, [fan]⟩ := by
    dsimp only [text, fan, Config.ofText]
    set_option maxRecDepth 20000 in conv => lhs; arg 1; cbv
    rfl
  have tells (word : String) (requested : State) (parsed : parses word requested)
      : ∃ conclusion, (attempt requested).Tells (.settled fan .disabled) conclusion := by
    have finds : (attempt requested).Finds fan :=
      ⟨⟨"A", .log, [fan]⟩, ⟨text, rfl, decoded, by decide⟩, List.mem_cons_self, rfl⟩
    obtain ⟨conclusion, story⟩ :=
      (set_tells_one_story Host.Environment.usual (arguments word) _ _ _ parsed).1
        (attempt requested).readFile Responder.stubborn stubborn_serves []
    exact ⟨conclusion, story.tells _ ⟨finds, rfl, .ok "1\n", rfl, by decide⟩⟩
  have on : parses "on" .enabled := by
    unfold parses
    decide
  have off : parses "off" .disabled := by
    unfold parses
    decide
  obtain ⟨rejected, ending, code, output, verdicts, writes⟩ := tells "on" .enabled on
  obtain ⟨accepted, ending', code', output', verdicts', writes'⟩ := tells "off" .disabled off
  exact ⟨⟨on, rejected, ending, code, output, verdicts, writes⟩,
    off, accepted, ending', code', output', verdicts', writes'⟩

end ModeSwitch.CommandLine
