import ModeSwitch.Proofs.Session.Notes
import ModeSwitch.Proofs.Session.Queries
import ModeSwitch.Proofs.Settings.Views
import ModeSwitch.Proofs.Snapshot.Difference

/-! What a watch tells.

A watch compares each snapshot with the one that it told about last.  It only looks, so the snapshots
are those of the session without a watch, and the changes that it tells lead from each to the next.
-/

namespace ModeSwitch

open Procedure

variable {ν : Type}

def Event.graded (event : Event) : Level × String :=
  (event.level, event.message)

def watchEvents (events : List Event) : List Event :=
  events.filter (·.origin = .watch)

theorem watchEvents_append (events more : List Event)
    : watchEvents (events ++ more) = watchEvents events ++ watchEvents more :=
  List.filter_append ..

/-- Events that do not come from the watch leave no line of it. -/
theorem watchEvents_eq_nil {events : List Event} (others : ∀ event ∈ events, event.origin ≠ .watch)
    : watchEvents events = [] :=
  List.filter_eq_nil_iff.mpr fun event member => by simpa using others event member

theorem watchEvents_eq_self {events : List Event} (own : ∀ event ∈ events, event.origin = .watch)
    : watchEvents events = events :=
  List.filter_eq_self.mpr fun event member => by simpa using own event member

/-- The line about one key whose state differs. -/
def Change.told : Change → Level × String
  | ⟨key, _, none⟩ => (.warning, "WATCH: '" ++ key ++ "' disappeared")
  | ⟨key, none, some state⟩ => (.info, "WATCH: '" ++ key ++ "' appeared (" ++ state.word ++ ")")
  | ⟨key, some before, some after⟩ =>
      (.info, "WATCH: '" ++ key ++ "' changed " ++ before.word ++ " -> " ++ after.word)

/-- A change is told by its event with the level and the text that it calls for. -/
theorem Change.graded_event (change : Change) : change.event.graded = change.told := by
  obtain ⟨key, before, after⟩ := change
  cases after <;> cases before <;> rfl

namespace Watch

/-- The lines about a difference: one for each key, or one that says that there is none. -/
def told (changes : List Change) : List (Level × String) :=
  if changes = [] then [(.debug, "WATCH: no changes")] else changes.map Change.told

theorem graded_report (changes : List Change) : (report changes).map Event.graded = told changes := by
  cases changes with
  | nil => rfl
  | cons change rest => simp [report, told, Change.graded_event]

theorem origin_of_mem_report {changes : List Change}
    : ∀ event ∈ report changes, event.origin = .watch := by
  have each (change : Change) : change.event.origin = .watch := by
    obtain ⟨key, before, after⟩ := change
    cases after <;> cases before <;> rfl
  cases changes with
  | nil => simp [report, Event.origin]
  | cons change rest => simp [report, each]

theorem logAll_only {allowed : Request → Prop} (events : List Event)
    : (logAll events).Only allowed := by
  induction events with
  | nil => trivial
  | cons event rest ih => exact ih

/-- A look, and what is noted of the snapshot that it takes. -/
def look (settings : Settings) (noted : Snapshot → List Event) : Procedure Snapshot :=
  settings.snapshot.bind fun snapshot => (logAll (noted snapshot)).bind fun _ => .done snapshot

variable (settings : Settings)

/-- The first look notes the state of every toggle that is present. -/
theorem start_eq
    : start settings
      = look settings fun snapshot =>
          snapshot.entries.map fun entry => .watched entry.1 entry.2 :=
  rfl

/-- A later look notes the differences from the snapshot before it. -/
theorem tick_eq (previous : Snapshot)
    : tick settings previous = look settings fun snapshot => report (previous.diff snapshot) :=
  rfl

/-- Whatever it notes, a look asks for attributes only. -/
theorem look_queries (noted : Snapshot → List Event)
    : (look settings noted).Only Request.IsQuery :=
  only_bind settings.snapshot_queries fun _ => only_bind (logAll_only _) fun _ => trivial

theorem runHolding_logAll {σ α : Type} (respond : Responder σ) (events : List Event) (value : α)
    (held : List Nat) (state : σ) (locks : Locks)
    : ((logAll events).bind fun _ => .done value).runHolding respond held state locks
      = ⟨.finished value, [], events, state, locks⟩ := by
  induction events with
  | nil => rfl
  | cons event rest ih =>
      unfold logAll at ih ⊢
      simp only [List.foldr_cons, Procedure.bind, runHolding, ih]

end Watch

/-- Beside any service a snapshot is taken of what the store holds, and taking it notes events of
toggles only. -/
theorem Settings.snapshot_runs (config : Config) (store : MemoryStore)
    : ∃ requests events,
        (∀ event ∈ events, event.origin = .toggle)
        ∧ ∀ {ν : Type} (notifier : Notifier ν) (state : ν) (held : List Nat) (locks : Locks),
            (ofConfig config).snapshot.runHolding (Device.responder MemoryStore.service notifier)
              held ⟨store, state⟩ locks
            = ⟨.finished (.ofList (config.presentIn store)), requests, events, ⟨store, state⟩,
                locks⟩ := by
  obtain ⟨value, requests, events, found⟩ := (ofConfig config).snapshot_queries.looks store
  -- The recorder serves to find out what is the same beside every service.
  have recorded := found Recorder.service store (.fresh false) [] .fresh (.refl store)
  have ended := (snapshot_finds config store (.fresh false) [] .fresh).ending_eq
  rw [RecordingDevice.respond, recorded] at ended
  have noted := (ofConfig config).snapshot_notes.of_mem_events
    (Device.responder_notes Recorder.service_notes) [] ⟨store, .fresh false⟩ .fresh
  rw [recorded] at noted
  refine ⟨requests, events, noted, fun notifier state held locks => ?_⟩
  rw [found notifier store state held locks (.refl store), Ending.finished.inj ended]

namespace Session

variable (config : Config) (own : Option Toggle) (notifier : Notifier ν)
  (calls : ν → List NotifierCall)

/-- A session may be cut at any point: the rest goes on from what the moves before it leave. -/
theorem runAll_append {δ ι : Type} (bench : Bench δ ι) (surface : Surface)
    (moves more : List (Move ι)) (session : Session δ)
    : (session.runAll bench surface (moves ++ more)).2
      = ((session.runAll bench surface moves).2.runAll bench surface more).2 := by
  induction moves generalizing session with
  | nil => rfl
  | cons next rest ih => exact ih _

/-- A look leaves the session as it was, and of its events those of the watch are the noted ones. -/
theorem watching_look {noted : Snapshot → List Event}
    (told : ∀ snapshot, ∀ event ∈ noted snapshot, event.origin = .watch)
    (session : Session (Device MemoryStore ν)) (otherwise : Snapshot)
    : let snapshot := Snapshot.ofList (config.presentIn session.device.store)
      let looked := session.watching (.memory notifier calls) otherwise
        (Watch.look (.ofConfig config) noted)
      watchEvents looked.1 = noted snapshot ∧ looked.2 = (snapshot, session) := by
  intro snapshot looked
  obtain ⟨requests, events, others, found⟩ := Settings.snapshot_runs config session.device.store
  have taken := found notifier session.device.notifier [] session.locks
  have ran : session.run (.memory notifier calls) (Watch.look (.ofConfig config) noted)
      = ⟨.finished snapshot, requests, events ++ noted snapshot, session.device, session.locks⟩ := by
    unfold Session.run Procedure.run Watch.look
    rw [(Settings.snapshot_queries _).runHolding_bind]
    simp only [Bench.memory, taken, Run.andThen, Watch.runHolding_logAll, List.append_nil]
    rfl
  have silent : watchEvents events = [] :=
    watchEvents_eq_nil fun event member => by simp [others event member]
  simp only [looked, watching, ran, after, Ending.value?, Option.getD_some]
  exact ⟨by rw [watchEvents_append, silent, watchEvents_eq_self (told snapshot), List.nil_append],
    trivial⟩

/-- The snapshot of what the store holds after the first `count` frames, made without a watch. -/
def takenAfter (session : Session (Device MemoryStore ν))
    (frames : List (List (Move MemoryStore.Intervention))) (count : Nat) : Snapshot :=
  let moves := (frames.take count).flatten
  let later := (session.runAll (.memory notifier calls) ⟨.ofConfig config, own⟩ moves).2
  .ofList (config.presentIn later.device.store)

variable {notifier}

/-- From a snapshot of the session as it is, a watch tells about each tick the difference between the
snapshots before and after the frame, by induction on the frames. -/
theorem watchEvents_watchFrames (noted : notifier.Notes (·.origin ≠ .watch))
    (frames : List (List (Move MemoryStore.Intervention))) (session : Session (Device MemoryStore ν))
    : let taken := session.takenAfter config own notifier calls frames
      watchEvents
        (session.watchFrames (.memory notifier calls) ⟨.ofConfig config, own⟩ (taken 0) frames)
      = (List.range frames.length).flatMap (fun i => Watch.report ((taken i).diff (taken (i + 1))))
        ++ [.watchStopping] := by
  induction frames generalizing session with
  | nil => rfl
  | cons frame rest ih =>
      intro taken
      let bench := Bench.memory notifier calls
      let course := session.runAll bench ⟨.ofConfig config, own⟩ frame
      have quiet : watchEvents (course.1.flatMap (·.events)) = [] := by
        refine watchEvents_eq_nil fun event member => ?_
        obtain ⟨report, made, member⟩ := List.mem_flatMap.mp member
        refine runAll_notes ?_ (Device.responder_notes noted) _ frame session report made event member
        rintro event (origin | origin) <;> simp [origin]
      have watched (snapshot : Snapshot)
          : ∀ event ∈ Watch.report ((taken 0).diff snapshot), event.origin = .watch :=
        Watch.origin_of_mem_report
      obtain ⟨told, looked⟩ := watching_look config notifier calls watched course.2 (taken 0)
      -- What the rest takes after some frames is taken one frame later in the whole.
      have shifted (i : Nat)
          : course.2.takenAfter config own notifier calls rest i = taken (i + 1) := by
        simp only [taken, takenAfter, List.take_succ_cons, List.flatten_cons, runAll_append]
        rfl
      have later := ih course.2
      simp only [shifted] at later
      have unfolded
          : session.watchFrames bench ⟨.ofConfig config, own⟩ (taken 0) (frame :: rest)
            = let look := course.2.watching bench (taken 0)
                (Watch.tick (.ofConfig config) (taken 0))
              course.1.flatMap (·.events) ++ look.1
                ++ look.2.2.watchFrames bench ⟨.ofConfig config, own⟩ look.2.1 rest :=
        rfl
      have current : Snapshot.ofList (config.presentIn course.2.device.store) = taken 1 := shifted 0
      rw [current] at told looked
      simp only [unfolded, Watch.tick_eq, watchEvents_append, quiet, told, looked, later,
        List.nil_append, List.length_cons, List.range_succ_eq_map, List.flatMap_cons,
        List.flatMap_map, List.append_assoc, Nat.zero_add, bench]

/-- Before its first tick a watch tells about the snapshot of the session as it is. -/
theorem watchEvents_watch (noted : notifier.Notes (·.origin ≠ .watch))
    (frames : List (List (Move MemoryStore.Intervention))) (session : Session (Device MemoryStore ν))
    : let taken := session.takenAfter config own notifier calls frames
      watchEvents (session.watch (.memory notifier calls) ⟨.ofConfig config, own⟩ frames)
      = (taken 0).entries.map (fun entry => .watched entry.1 entry.2)
        ++ (List.range frames.length).flatMap
          (fun i => Watch.report ((taken i).diff (taken (i + 1))))
        ++ [.watchStopping] := by
  intro taken
  let bench := Bench.memory notifier calls
  have watched (snapshot : Snapshot)
      : ∀ event ∈ snapshot.entries.map fun entry => Event.watched entry.1 entry.2,
          event.origin = .watch := by
    intro event member
    obtain ⟨entry, -, rfl⟩ := List.mem_map.mp member
    rfl
  obtain ⟨told, looked⟩ := watching_look config notifier calls watched session .empty
  have rest := watchEvents_watchFrames config own calls noted frames session
  have unfolded
      : session.watch bench ⟨.ofConfig config, own⟩ frames
        = let look := session.watching bench .empty (Watch.start (.ofConfig config))
          look.1 ++ look.2.2.watchFrames bench ⟨.ofConfig config, own⟩ look.2.1 frames :=
    rfl
  rw [unfolded, Watch.start_eq, watchEvents_append, told, looked, List.append_assoc]
  exact congrArg (_ ++ ·) rest

/-- The lines of a watch are those about the first snapshot, then those about each difference in turn,
and that it stops.  The snapshots are those of the session without the watch; replaying what was told
leads to each of them; and the watch asks for attributes only. -/
theorem watch_is_lossless (config : Config) (own : Option Toggle) {notifier : Notifier ν}
    (noted : notifier.Notes (·.origin ≠ .watch)) (calls : ν → List NotifierCall)
    (session : Session (Device MemoryStore ν))
    (frames : List (List (Move MemoryStore.Intervention)))
    : let bench := Bench.memory notifier calls
      let surface : Surface := ⟨.ofConfig config, own⟩
      let after (i : Nat) := (session.runAll bench surface (frames.take i).flatten).2
      let taken := session.takenAfter config own notifier calls frames
      let changes (i : Nat) := (taken i).diff (taken (i + 1))
      (watchEvents (session.watch bench surface frames)).map Event.graded
        = (taken 0).entries.map (fun (key, state) =>
            (.info, "WATCH: '" ++ key ++ "' is " ++ state.word))
          ++ (List.range frames.length).flatMap (fun i => Watch.told (changes i))
          ++ [(.info, "WATCH: stopping")]
      ∧ (∀ i, ((after i).run bench surface.settings.snapshot).ending = .finished (taken i))
      ∧ (∀ i, (changes i).Pairwise (·.key < ·.key))
      ∧ (∀ i, (taken 0).applyAll ((List.range i).flatMap changes) = taken i)
      ∧ (Watch.start surface.settings).Only Request.IsQuery
      ∧ (∀ previous, (Watch.tick surface.settings previous).Only Request.IsQuery)
      ∧ Watch.stop.Only fun _ => False := by
  intro bench surface after taken changes
  refine ⟨?_, fun i => ?_, fun i => Snapshot.diff_ascending .., fun i => ?_,
    Watch.look_queries _ _, fun previous => Watch.look_queries _ _, trivial⟩
  · rw [watchEvents_watch config own calls noted frames session]
    simp only [List.map_append, List.map_flatMap, Watch.graded_report, List.map_map]
    rfl
  · obtain ⟨requests, events, -, found⟩ := Settings.snapshot_runs config (after i).device.store
    exact congrArg Run.ending (found notifier (after i).device.notifier [] (after i).locks)
  · exact Snapshot.applyAll_diffs taken i

/-- While a charger is watched it is switched on, nothing happens for a while, and its light is taken
away and put back. -/
theorem charger_watch_is_lossless
    : let frames : List (List (Move MemoryStore.Intervention)) :=
        [[.operate (.change "fast" .enabled)], [], [.intervene (.remove ⟨"/sys/light"⟩)],
          [.intervene (.put ⟨"/sys/light"⟩ "on\n")]]
      let session := start ⟨.charger, .fresh false⟩
      Recorder.service.Notes (·.origin ≠ .watch)
      ∧ (watchEvents (session.watch .recording ⟨.ofConfig .charger, none⟩ frames)).map Event.graded
        = [(.info, "WATCH: 'fast' is off"), (.info, "WATCH: 'light' is off"),
            (.info, "WATCH: 'turbo' is off"),
            (.info, "WATCH: 'fast' changed off -> on"), (.debug, "WATCH: no changes"),
            (.warning, "WATCH: 'light' disappeared"), (.info, "WATCH: 'light' appeared (on)"),
            (.info, "WATCH: stopping")] := by
  intro frames session
  have noted : Recorder.service.Notes (·.origin ≠ .watch) := Recorder.service_notes
  obtain ⟨lines, -⟩ := watch_is_lossless .charger none noted (·.calls) session frames
  refine ⟨noted, lines.trans ?_⟩
  decide +kernel

end Session

end ModeSwitch
