import Mathlib.Data.List.Forall2
import ModeSwitch.Proofs.Settings.Changes
import ModeSwitch.Proofs.Toggle.Observation

/-! Settings as an array of registers.

On an accepting driver every place is a register.  A change of a toggle whose attribute is present
writes it, any other change fails, and the contents of a place are the line written there last, by
whichever toggle and under whichever spelling of the path.
-/

namespace ModeSwitch

open Procedure RecordingDevice

/-- The line written last to the place of a path. -/
def lastLine? (writes : List (AttrPath × String)) (path : AttrPath) : Option String :=
  (writes.reverse.find? fun write => path.SamePlace write.1).map (·.2)

/-- The contents of a register after some writes: what was written last, and the contents it had at
first if nothing was written. -/
def MemoryStore.register (store : MemoryStore) (writes : List (AttrPath × String))
    (path : AttrPath) : Option String :=
  (store.contents? path).map fun initial => (lastLine? writes path).getD initial

@[simp]
theorem lastLine?_nil (path : AttrPath) : lastLine? [] path = none :=
  rfl

/-- A write counts when nothing is written to its place later. -/
theorem lastLine?_cons (write : AttrPath × String) (later : List (AttrPath × String))
    (path : AttrPath)
    : lastLine? (write :: later) path
      = (lastLine? later path).or (if path.SamePlace write.1 then some write.2 else none) := by
  by_cases h : path.SamePlace write.1 <;>
    cases found : later.reverse.find? (fun write => path.SamePlace write.1) <;>
    simp [lastLine?, List.find?_append, h, found]

namespace MemoryStore.Accepts

variable {store : MemoryStore}

/-- The registers after a write and then others are those of the written store after the others. -/
theorem register_accepting (accepts : store.Accepts) (path : AttrPath) (line : String)
    (later : List (AttrPath × String)) (other : AttrPath)
    : (store.accepting path line).register later other
      = store.register ((path, line) :: later) other := by
  simp only [register, accepts.contents_accepting, lastLine?_cons]
  by_cases same : other.SamePlace path
  · cases store.contents? other <;> cases lastLine? later other <;> simp [same]
  · simp [same]

end MemoryStore.Accepts

namespace Settings

def changesInTurn (settings : Settings) (calls : List (String × State))
    (device : RecordingDevice) (locks : Locks)
    : Succession RecordingDevice (Except ChangeError Outcome) :=
  inTurn respond (calls.map fun call => settings.change call.1 call.2) device locks

/-- A change in turn is followed by the others, from what it leaves. -/
theorem changesInTurn_cons {settings : Settings} {call : String × State}
    {ending : Ending (Except ChangeError Outcome)} {device later : RecordingDevice}
    {locks locks' : Locks}
    (left : ((settings.change call.1 call.2).run respond device locks).Leaves ending later locks')
    (calls : List (String × State))
    : settings.changesInTurn (call :: calls) device locks
      = let rest := settings.changesInTurn calls later locks'
        { rest with endings := ending :: rest.endings } :=
  inTurn_cons left _

end Settings

def Ending.succeeded {ε α : Type} : Ending (Except ε α) → Bool
  | .finished (.ok _) => true
  | .finished (.error _) | .panicked | .blocked => false

def succeededCalls {ε α : Type} (calls : List (String × State))
    (endings : List (Ending (Except ε α)))
    : List (String × State) :=
  ((calls.zip endings).filter (·.2.succeeded)).map (·.1)

/-- The first call ended well or not, and the others are as without it. -/
theorem succeededCalls_cons {ε α : Type} (call : String × State) (calls : List (String × State))
    (ending : Ending (Except ε α)) (endings : List (Ending (Except ε α)))
    : succeededCalls (call :: calls) (ending :: endings)
      = succeededCalls [call] [ending] ++ succeededCalls calls endings := by
  cases h : ending.succeeded <;> simp [succeededCalls, h]

/-- The device after a change of a toggle whose attribute is present: the line of the requested state
is written, and the recorder received the notices of this state. -/
def RecordingDevice.changing (device : RecordingDevice) (spec : ToggleSpec) (requested : State)
    : RecordingDevice :=
  (device.accepting spec.path (spec.tokens.line requested)).receiving
    ((Toggle.ofSpec spec).notices requested)

namespace Config

variable (config : Config)

/-- The write that a change asks for, if its key is described: the path of the toggle and the line
of the requested state. -/
def write? (call : String × State) : Option (AttrPath × String) :=
  (config.toggles.find? (·.key = call.1)).map fun spec =>
    (spec.path, spec.tokens.line call.2)

/-- The writes that changes made: one for each that ended well. -/
def writesOf (calls : List (String × State))
    (endings : List (Ending (Except ChangeError Outcome)))
    : List (AttrPath × String) :=
  (succeededCalls calls endings).filterMap config.write?

/-- The writes of some calls are those of the first one, followed by those of the others. -/
theorem writesOf_cons (call : String × State) (calls : List (String × State))
    (ending : Ending (Except ChangeError Outcome))
    (endings : List (Ending (Except ChangeError Outcome)))
    : config.writesOf (call :: calls) (ending :: endings)
      = config.writesOf [call] [ending] ++ config.writesOf calls endings := by
  simp only [writesOf, succeededCalls_cons call calls, List.filterMap_append]

variable {config} in
/-- A change of a described key asks for the write of its toggle. -/
theorem Sound.write?_eq (sound : config.Sound) {call : String × State} {spec : ToggleSpec}
    (member : spec ∈ config.toggles) (named : spec.key = call.1)
    : config.write? call = some (spec.path, spec.tokens.line call.2) := by
  cases found : config.toggles.find? (·.key = call.1) with
  | none => simpa [named] using List.find?_eq_none.mp found spec member
  | some other =>
      have key : other.key = call.1 := by simpa using List.find?_some found
      have same : other = spec :=
        sound.spec_eq_of_key (List.mem_of_find?_eq_some found) member (key.trans named.symm)
      simp [write?, found, same]

/-- How a change ends, given the attributes that are present. -/
structure Answers (store : MemoryStore) (call : String × State)
    (ending : Ending (Except ChangeError Outcome)) : Prop where
  unknown
    : ending = .finished (.error (.unknownToggle call.1))
      ↔ ∀ spec ∈ config.toggles, spec.key ≠ call.1
  notWritten
    : ∀ failure,
        ending = .finished (.error (.notWritten failure))
        ↔ ∃ spec ∈ config.toggles,
            spec.key = call.1 ∧ store.holds spec.path = false
            ∧ failure = ⟨spec.path, .noAttribute⟩
  written
    : ending = .finished (.ok ⟨call.2, call.2⟩)
      ↔ ∃ spec ∈ config.toggles, spec.key = call.1 ∧ store.holds spec.path = true

/-- Only the attributes that are present matter for an answer. -/
theorem Answers.of_holds {store other : MemoryStore} {call : String × State}
    {ending : Ending (Except ChangeError Outcome)} (h : config.Answers store call ending)
    (same : ∀ path, store.holds path = other.holds path)
    : config.Answers other call ending :=
  ⟨h.unknown, by simpa only [same] using h.notWritten, by simpa only [same] using h.written⟩

/-- What one change does on an accepting driver. -/
inductive Handles (device : RecordingDevice) (call : String × State)
    : Ending (Except ChangeError Outcome) → RecordingDevice → Prop where
  /-- No toggle has the key. -/
  | unknown (none : ∀ spec ∈ config.toggles, spec.key ≠ call.1)
    : Handles device call (.finished (.error (.unknownToggle call.1))) device
  /-- The attribute of the toggle is absent. -/
  | absent (spec : ToggleSpec) (member : spec ∈ config.toggles) (named : spec.key = call.1)
    (missing : device.store.holds spec.path = false)
    : Handles device call (.finished (.error (.notWritten ⟨spec.path, .noAttribute⟩))) device
  /-- The line of the requested state is written, and the toggle shows that state. -/
  | written (spec : ToggleSpec) (member : spec ∈ config.toggles) (named : spec.key = call.1)
    (present : device.store.holds spec.path = true)
    : Handles device call (.finished (.ok ⟨call.2, call.2⟩)) (device.changing spec call.2)

end Config

namespace Settings

variable {config : Config} {device : RecordingDevice}

/-- A change of a toggle whose attribute is present writes the line of the requested state, and the
toggle shows that state. -/
theorem change_leaves_written (sound : config.Sound) (accepts : device.store.Accepts)
    {spec : ToggleSpec} (member : spec ∈ config.toggles)
    (present : device.store.holds spec.path = true) (requested : State)
    : (((ofConfig config).change spec.key requested).run respond device .fresh).Leaves
        (.finished (.ok ⟨requested, requested⟩)) (device.changing spec requested) .fresh := by
  have willing : device.store.behaviour ≠ .fail := by simp [accepts.obeys]
  obtain ⟨slot, known, presents⟩ := exists_slot?_of_spec sound member
  have path_eq : slot.toggle.path = spec.path := by rw [presents]; rfl
  have accepted := change_leaves_of_accepted known requested (Locks.free_fresh slot.lock)
    accepts.calm willing (path_eq ▸ present)
  have shows := Toggle.observe_ofSpec_accepting accepts (sound.wellFormed spec member)
    present requested
  rw [presents] at accepted
  simp only [Toggle.ofSpec, changing, accepting] at accepted shows ⊢
  rwa [shows] at accepted

/-- A change on an accepting driver does one of three things, and the locks stay free. -/
theorem change_handled (sound : config.Sound) (accepts : device.store.Accepts)
    (call : String × State)
    : ∃ ending later,
        (((ofConfig config).change call.1 call.2).run respond device .fresh).Leaves
          ending later .fresh
        ∧ config.Handles device call ending later := by
  obtain ⟨key, requested⟩ := call
  by_cases unknown : ∀ spec ∈ config.toggles, spec.key ≠ key
  · have missing : (ofConfig config).slot? key = none := slot?_eq_none_iff.mpr unknown
    exact ⟨_, _, change_leaves_of_unknown missing requested, .unknown unknown⟩
  · obtain ⟨spec, member, rfl⟩ : ∃ spec ∈ config.toggles, spec.key = key := by
      simpa using unknown
    cases present : device.store.holds spec.path with
    | true =>
        exact ⟨_, _, change_leaves_written sound accepts member present requested,
          .written spec member rfl present⟩
    | false =>
        obtain ⟨slot, known, presents⟩ := exists_slot?_of_spec sound member
        have path_eq : slot.toggle.path = spec.path := by rw [presents]; rfl
        have refused := change_leaves_of_refused known requested (Locks.free_fresh slot.lock)
          accepts.calm (.inr (path_eq ▸ present))
        rw [path_eq] at refused
        exact ⟨_, _, refused, .absent spec member rfl present⟩

end Settings

namespace Config.Handles

variable {config : Config} {device later : RecordingDevice} {call : String × State}
  {ending : Ending (Except ChangeError Outcome)}

/-- A handled change is answered by what is present: a sound description has one toggle at most for
the key. -/
theorem answers (h : config.Handles device call ending later) (sound : config.Sound)
    : config.Answers device.store call ending := by
  cases h with
  | unknown none =>
      refine ⟨by simpa using none, fun failure => ?_, ?_⟩
      · simpa using fun spec member named => (none spec member named).elim
      · simpa using fun spec member named => (none spec member named).elim
  | absent spec member named missing =>
      -- Keys are unique, so what is known of this toggle is known of whoever has the key.
      have only : ∀ other ∈ config.toggles, other.key = call.1 → other = spec :=
        fun other hother key => sound.spec_eq_of_key hother member (key.trans named.symm)
      refine ⟨by simpa using ⟨spec, member, named⟩, fun failure => ?_, ?_⟩
      · constructor
        · rintro ⟨⟩
          exact ⟨spec, member, named, missing, rfl⟩
        · rintro ⟨other, hother, key, -, rfl⟩
          rw [only other hother key]
      · constructor
        · rintro ⟨⟩
        · rintro ⟨other, hother, key, present⟩
          rw [only other hother key, missing] at present
          cases present
  | written spec member named present =>
      have only : ∀ other ∈ config.toggles, other.key = call.1 → other = spec :=
        fun other hother key => sound.spec_eq_of_key hother member (key.trans named.symm)
      refine ⟨by simpa using ⟨spec, member, named⟩, fun failure => ?_,
        by simpa using ⟨spec, member, named, present⟩⟩
      constructor
      · rintro ⟨⟩
      · rintro ⟨other, hother, key, missing, -⟩
        rw [only other hother key, present] at missing
        cases missing

/-- An accepting driver stays one. -/
theorem accepts (h : config.Handles device call ending later) (before : device.store.Accepts)
    : later.store.Accepts := by
  cases h with
  | unknown none => exact before
  | absent spec member named missing => exact before
  | written spec member named present => exact before.after_write _ _

/-- No attribute appears or vanishes. -/
theorem holds (h : config.Handles device call ending later) (path : AttrPath)
    : later.store.holds path = device.store.holds path := by
  cases h with
  | unknown none => rfl
  | absent spec member named missing => rfl
  | written spec member named present => exact device.store.holds_accepting _ _ _

/-- The store records the write that the change made, if it made one. -/
theorem writes (h : config.Handles device call ending later) (sound : config.Sound)
    : later.store.writes = device.store.writes ++ config.writesOf [call] [ending] := by
  cases h with
  | unknown none => exact (List.append_nil _).symm
  | absent spec member named missing => exact (List.append_nil _).symm
  | written spec member named present =>
      have made := sound.write?_eq member named
      simp [writesOf, succeededCalls, Ending.succeeded, made, changing, receiving,
        RecordingDevice.accepting, MemoryStore.accepting]

/-- The registers after the change and further writes are those after its own write and the further
ones. -/
theorem register (h : config.Handles device call ending later) (sound : config.Sound)
    (before : device.store.Accepts) (further : List (AttrPath × String)) (path : AttrPath)
    : later.store.register further path
      = device.store.register (config.writesOf [call] [ending] ++ further) path := by
  cases h with
  | unknown none => rfl
  | absent spec member named missing => rfl
  | written spec member named present =>
      have made := sound.write?_eq member named
      have one : config.writesOf [call] [.finished (.ok ⟨call.2, call.2⟩)]
          = [(spec.path, spec.tokens.line call.2)] := by
        simp [writesOf, succeededCalls, Ending.succeeded, made]
      rw [one]
      exact before.register_accepting spec.path (spec.tokens.line call.2) further path

end Config.Handles

namespace Settings

variable {config : Config}

/-- What is left of changes in turn on an accepting driver. -/
structure Registered (config : Config) (device : RecordingDevice) (calls : List (String × State))
    (course : Succession RecordingDevice (Except ChangeError Outcome)) : Prop where
  answered : List.Forall₂ (config.Answers device.store) calls course.endings
  written
    : course.state.store.writes
      = device.store.writes ++ config.writesOf calls course.endings
  contents
    : ∀ path,
        course.state.store.contents? path
        = device.store.register (config.writesOf calls course.endings) path
  accepts : course.state.store.Accepts
  free : course.locks = .fresh

/-- Changes in turn are answered, and leave the registers that the successful ones wrote, by
induction on the changes: each writes one register or nothing. -/
theorem changesInTurn_registered (sound : config.Sound) (calls : List (String × State))
    (device : RecordingDevice) (accepts : device.store.Accepts)
    : Registered config device calls ((ofConfig config).changesInTurn calls device .fresh) := by
  induction calls generalizing device with
  | nil =>
      refine ⟨.nil, (List.append_nil _).symm, fun path => ?_, accepts, rfl⟩
      cases found : device.store.contents? path <;>
        simp [changesInTurn, inTurn, MemoryStore.register, Config.writesOf, succeededCalls, found]
  | cons call calls ih =>
      obtain ⟨ending, later, left, handled⟩ := change_handled sound accepts call
      obtain ⟨answered, written, contents, stays, free⟩ := ih later (handled.accepts accepts)
      rw [changesInTurn_cons left]
      refine ⟨?_, ?_, fun path => ?_, stays, free⟩
      · exact .cons (handled.answers sound)
          (answered.imp fun _ _ answer => answer.of_holds config handled.holds)
      · rw [Config.writesOf_cons config call calls, ← List.append_assoc,
          ← handled.writes sound]
        exact written
      · rw [Config.writesOf_cons config call calls, ← handled.register sound accepts]
        exact contents path

end Settings

end ModeSwitch
