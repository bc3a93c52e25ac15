import ModeSwitch.Device
import ModeSwitch.Listing
import ModeSwitch.Toggle.Dump
import ModeSwitch.Watch

/-! Sessions.

A session holds a device together with the settings built over it, and perhaps one toggle of its
own.  It advances by moves: an operation on the settings or on a toggle, a direct request to the
store or the notification service, or something done to the store from outside.  Every move
reports its answer, the events it noted, and what reached the store and the service.
-/

namespace ModeSwitch

/-- The toggle that an operation is about: the session's own, or the one with a key. -/
inductive Subject where
  | own
  | keyed (key : String)
  deriving DecidableEq, Repr

/-- An operation of a session. -/
inductive Operation where
  | storeProbe (path : AttrPath)
  | storeRead (path : AttrPath)
  | storeWrite (path : AttrPath) (contents : String)
  | post (notification : Notification)
  | withdraw (id : UInt32)
  | isSupported (subject : Subject)
  | state (subject : Subject)
  | readMode (subject : Subject)
  | describe (subject : Subject)
  | set (subject : Subject) (requested : State)
  | info (subject : Subject)
  | dump (subject : Subject) (pretty : Bool)
  | summary
  | entries
  | lines
  | displayNames
  | entry (key : String)
  | change (key : String) (requested : State)
  | snapshot
  /-- The difference to the snapshot of the previous difference. -/
  | diff
  deriving DecidableEq, Repr

inductive Answer where
  | nothing
  | flag (value : Bool)
  | text (value : String)
  | texts (values : List String)
  | contents (value : Option Contents)
  | read (result : Except StoreError String)
  | written (result : Except StoreError Unit)
  | delivered (result : Except NotifyError Unit)
  | state (value : State)
  | reading (value : Reading)
  | set (result : Except WriteFailure State)
  | info (toggle : Toggle)
  | summary (name : String) (keys : List String)
  | entries (values : List Entry)
  | entry (value : Entry)
  | change (key : String) (result : Except ChangeError Outcome)
  | snapshot (entries : List (String × State))
  | changes (values : List Change)
  /-- The answers of changes made at the same time. -/
  | together (values : List (Ending Answer))
  | unknownToggle (key : String)

/-- What a session works on besides its device. -/
structure Surface where
  settings : Settings
  /-- The session's own toggle. -/
  own : Option Toggle

namespace Surface

/-- The toggle that a subject stands for. -/
def toggle? (surface : Surface) : Subject → Option Toggle
  | .own => surface.own
  | .keyed key => surface.settings.toggle? key

/-- Goes on with the toggle of a subject; a key without a toggle is answered as unknown. -/
def withToggle (surface : Surface) (subject : Subject) (body : Toggle → Procedure Answer) :
    Procedure Answer :=
  match surface.toggle? subject, subject with
  | some toggle, _ => body toggle
  | none, .keyed key => pure (.unknownToggle key)
  | none, .own => pure .nothing

open Procedure

/-- The procedure of an operation, given the snapshot of the previous difference; it ends in the
answer and the snapshot to compare with next. -/
def perform (surface : Surface) (seen : Snapshot) : Operation → Procedure (Answer × Snapshot)
  | .storeProbe path => do return (.flag (← request (.probe path)), seen)
  | .storeRead path => do return (.read (← request (.read path)), seen)
  | .storeWrite path contents => do return (.written (← request (.write path contents)), seen)
  | .post notification => do return (.delivered (← request (.post notification)), seen)
  | .withdraw id => do return (.delivered (← request (.withdraw id)), seen)
  | .isSupported subject => do
      let answer ← surface.withToggle subject fun t => do return .flag (← t.isSupported)
      return (answer, seen)
  | .state subject => do
      let answer ← surface.withToggle subject fun t => do return .state (← t.currentState)
      return (answer, seen)
  | .readMode subject => do
      let answer ← surface.withToggle subject fun t => do return .reading (← t.readMode)
      return (answer, seen)
  | .describe subject => do
      let answer ← surface.withToggle subject fun t => do return .text (t.describe (← t.readMode))
      return (answer, seen)
  | .set subject requested => do
      let answer ← surface.withToggle subject fun t => do return .set (← t.set requested)
      return (answer, seen)
  | .info subject => do
      let answer ← surface.withToggle subject fun t => pure (.info t)
      return (answer, seen)
  | .dump subject pretty => do
      let answer ← surface.withToggle subject fun t =>
        pure (.text (if pretty then t.dump.pretty 0 else t.dump.inline))
      return (answer, seen)
  | .summary => pure (.summary surface.settings.name surface.settings.keys, seen)
  | .entries => do return (.entries (← surface.settings.entries), seen)
  | .lines => do return (.texts ((← surface.settings.entries).map Entry.line), seen)
  | .displayNames => do
      return (.texts ((← surface.settings.entries).map Entry.displayName), seen)
  | .entry key => do
      match ← surface.settings.entry key with
      | .ok entry => return (.entry entry, seen)
      | .error cause => return (.change key (.error cause), seen)
  | .change key requested => do
      return (.change key (← surface.settings.change key requested), seen)
  | .snapshot => do return (.snapshot (← surface.settings.snapshot).entries, seen)
  | .diff => do
      let current ← surface.settings.snapshot
      return (.changes (seen.diff current), current)

end Surface

/-- A move of a session over a device that can be changed from outside in the ways of `ι`. -/
inductive Move (ι : Type) where
  | operate (operation : Operation)
  /-- Changes made at the same time, each by itself. -/
  | together (changes : List (String × State))
  | intervene (intervention : ι)
  /-- Looks at a path from outside. -/
  | inspect (path : AttrPath)

/-- The kind of device that a session runs on, with states of `δ`, and how it looks from outside. -/
structure Bench (δ ι : Type) where
  respond : Responder δ
  intervene : δ → ι → δ
  inspect : δ → AttrPath → Option Contents
  /-- The writes that reached the store so far, if it records them. -/
  writes : δ → List (AttrPath × String)
  /-- The calls that reached the service so far, if it records them. -/
  calls : δ → List NotifierCall

/-- The state of a session. -/
structure Session (δ : Type) where
  device : δ
  locks : Locks
  /-- The snapshot that the next difference is taken from. -/
  seen : Snapshot

/-- What a move reports. -/
structure MoveReport where
  ending : Ending Answer
  events : List Event
  /-- The writes that reached the store during the move. -/
  writes : List (AttrPath × String)
  /-- The calls that reached the service during the move. -/
  calls : List NotifierCall

namespace Session

variable {δ ι : Type}

def start (device : δ) : Session δ := ⟨device, .fresh, .empty⟩

def run {α : Type} (bench : Bench δ ι) (session : Session δ) (procedure : Procedure α) :
    Run δ α :=
  procedure.run bench.respond session.device session.locks

/-- The session after a run; the snapshot to compare with is set by the caller. -/
def after {α : Type} (session : Session δ) (run : Run δ α) : Session δ :=
  { session with device := run.state, locks := run.locks }

def operate (bench : Bench δ ι) (surface : Surface) (session : Session δ)
    (operation : Operation) : Ending Answer × List Event × Session δ :=
  let run := session.run bench (surface.perform session.seen operation)
  match run.ending with
  | .finished (answer, seen) =>
      (.finished answer, run.events, { session.after run with seen })
  | .panicked => (.panicked, run.events, session.after run)
  | .blocked => (.blocked, run.events, session.after run)

/-- Makes changes one after another; their answers do not depend on each other's endings. -/
def changeAll (bench : Bench δ ι) (surface : Surface) :
    Session δ → List (String × State) → List (Ending Answer) × List Event × Session δ
  | session, [] => ([], [], session)
  | session, (key, requested) :: rest =>
      let (ending, events, session) := session.operate bench surface (.change key requested)
      let (endings, moreEvents, session) := changeAll bench surface session rest
      (ending :: endings, events ++ moreEvents, session)

def move (bench : Bench δ ι) (surface : Surface) (session : Session δ) :
    Move ι → Ending Answer × List Event × Session δ
  | .operate operation => session.operate bench surface operation
  | .together changes =>
      let (endings, events, session) := session.changeAll bench surface changes
      (.finished (.together endings), events, session)
  | .intervene intervention =>
      let device := bench.intervene session.device intervention
      (.finished .nothing, [], { session with device })
  | .inspect path =>
      (.finished (.contents (bench.inspect session.device path)), [], session)

def advance (bench : Bench δ ι) (surface : Surface) (session : Session δ) (next : Move ι) :
    MoveReport × Session δ :=
  let (ending, events, later) := session.move bench surface next
  let writes := (bench.writes later.device).drop (bench.writes session.device).length
  let calls := (bench.calls later.device).drop (bench.calls session.device).length
  (⟨ending, events, writes, calls⟩, later)

def runAll (bench : Bench δ ι) (surface : Surface) :
    Session δ → List (Move ι) → List MoveReport × Session δ
  | session, [] => ([], session)
  | session, next :: rest =>
      let (report, session) := session.advance bench surface next
      let (reports, session) := runAll bench surface session rest
      (report :: reports, session)

/-- Runs a procedure of a watch; its events, its value or else the given one, and the session. -/
def watching {α : Type} (bench : Bench δ ι) (session : Session δ) (otherwise : α)
    (procedure : Procedure α) : List Event × α × Session δ :=
  let run := session.run bench procedure
  (run.events, run.ending.value?.getD otherwise, session.after run)

/-- The events of a watch from its snapshot `previous` to its end: for each frame, what its moves
note and then what the tick after it notes. -/
def watchFrames (bench : Bench δ ι) (surface : Surface) :
    Session δ → Snapshot → List (List (Move ι)) → List Event
  | session, _, [] => (session.watching bench () Watch.stop).1
  | session, previous, frame :: rest =>
      let (reports, session) := session.runAll bench surface frame
      let (events, current, session) :=
        session.watching bench previous (Watch.tick surface.settings previous)
      reports.flatMap (·.events) ++ events ++ watchFrames bench surface session current rest

/-- The events of a watch during which the frames of moves are made, each between two ticks. -/
def watch (bench : Bench δ ι) (surface : Surface) (session : Session δ)
    (frames : List (List (Move ι))) : List Event :=
  let (events, first, session) :=
    session.watching bench .empty (Watch.start surface.settings)
  events ++ session.watchFrames bench surface first frames

end Session

end ModeSwitch
