import ModeSwitch.Proofs.Device.Looking
import ModeSwitch.Proofs.Session.Omission
import ModeSwitch.Proofs.Session.Requests

/-! Queries of a session.

A query answers from what the store holds now, and leaves the session as it was.  So queries may be
left out of a session or put into it anywhere, and asking again gives the same answer until an
attribute is touched.
-/

namespace ModeSwitch

open Procedure

/-- Does an operation only look?  The difference to an earlier snapshot does not: it remembers the
snapshot that it took. -/
def Operation.IsQuery : Operation → Prop
  | .isSupported _ | .state _ | .readMode _ | .describe _ | .entries | .lines | .displayNames
  | .entry _ | .snapshot | .info _ | .dump .. | .summary | .storeProbe _ | .storeRead _ => True
  | .storeWrite .. | .post _ | .withdraw _ | .set .. | .change .. | .diff => False

namespace Move

variable {ι : Type}

/-- Does a move only look, from inside or from outside? -/
def IsQuery : Move ι → Prop
  | .operate operation => operation.IsQuery
  | .inspect _ => True
  | .together _ | .intervene _ => False

/-- May a move touch an attribute, by a request or from outside? -/
def Touches : Move ι → Prop
  | .operate operation => operation.isRequest = true
  | .together _ | .intervene _ => True
  | .inspect _ => False

end Move

/-- May a request not touch an attribute? -/
def Request.Spares : Request → Prop
  | .write .. => False
  | _ => True

/-- A query touches nothing. -/
theorem Request.IsQuery.spares {request : Request} (h : request.IsQuery) : request.Spares := by
  cases request <;> trivial

def Answer.ofEntry (key : String) : Except ChangeError Entry → Answer
  | .ok value => .entry value
  | .error cause => .change key (.error cause)

namespace Surface

variable (surface : Surface)

/-- A query finds its answer without regard to the snapshot to compare with, and passes that snapshot
on. -/
theorem perform_query {operation : Operation} (h : operation.IsQuery)
    : ∃ query : Procedure Answer,
        query.Only Request.IsQuery
        ∧ ∀ seen, surface.perform seen operation = query.bind fun answer => .done (answer, seen) := by
  -- Most queries look first and then tell what they found, without asking again.
  have told {α : Type} {p : Procedure α} (only : p.Only Request.IsQuery) (tell : α → Answer)
      : ∃ query : Procedure Answer,
          query.Only Request.IsQuery
          ∧ ∀ seen : Snapshot, (p.bind fun value => .done (tell value, seen))
            = query.bind fun answer => .done (answer, seen) :=
    ⟨p.bind fun value => .done (tell value), only_bind only fun _ => trivial,
      fun seen =>
        (bind_assoc p (fun value => .done (tell value)) fun answer => .done (answer, seen)).symm⟩
  have subject {body : Toggle → Procedure Answer} (s : Subject)
      (each : ∀ toggle, (body toggle).Only Request.IsQuery)
      : ∃ query : Procedure Answer,
          query.Only Request.IsQuery
          ∧ ∀ seen : Snapshot, ((surface.withToggle s body).bind fun answer => .done (answer, seen))
            = query.bind fun answer => .done (answer, seen) :=
    ⟨_, withToggle_only each s, fun _ => rfl⟩
  cases operation with
  | storeProbe path =>
      exact told (p := request (.probe path)) ⟨trivial, fun _ => trivial⟩ .flag
  | storeRead path => exact told (p := request (.read path)) ⟨trivial, fun _ => trivial⟩ .read
  | isSupported s => exact subject s fun _ => ⟨trivial, fun _ => trivial⟩
  | state s => exact subject s fun t => only_bind t.currentState_queries fun _ => trivial
  | readMode s => exact subject s fun t => only_bind t.readMode_queries fun _ => trivial
  | describe s => exact subject s fun t => only_bind t.readMode_queries fun _ => trivial
  | info s => exact subject s fun _ => trivial
  | dump s pretty => exact subject s fun _ => trivial
  | summary => exact ⟨.done _, trivial, fun _ => rfl⟩
  | entries => exact told surface.settings.entries_queries .entries
  | lines => exact told surface.settings.entries_queries fun values => .texts (values.map Entry.line)
  | displayNames =>
      exact told surface.settings.entries_queries fun values =>
        .texts (values.map Entry.displayName)
  | entry key =>
      -- Here the answer is chosen by what was found, and both sides choose alike.
      obtain ⟨query, only, same⟩ := told (surface.settings.entry_queries key) (Answer.ofEntry key)
      refine ⟨query, only, fun seen => ?_⟩
      rw [← same seen]
      exact congrArg (Procedure.bind _) (funext fun result => by cases result <;> rfl)
  | snapshot =>
      exact told surface.settings.snapshot_queries fun taken => .snapshot taken.entries
  | storeWrite path contents => exact h.elim
  | post notification => exact h.elim
  | withdraw id => exact h.elim
  | set s requested => exact h.elim
  | change key requested => exact h.elim
  | diff => exact h.elim

/-- Only a request asks for a write. -/
theorem perform_spares {operation : Operation} (h : operation.isRequest = false) (seen : Snapshot)
    : (surface.perform seen operation).Only Request.Spares := by
  have query (h : operation.IsQuery) : (surface.perform seen operation).Only Request.Spares := by
    obtain ⟨query, only, performed⟩ := surface.perform_query h
    rw [performed seen]
    exact only_bind (only.mono fun _ => Request.IsQuery.spares) fun _ => trivial
  cases operation with
  | post notification => exact ⟨trivial, fun _ => trivial⟩
  | withdraw id => exact ⟨trivial, fun _ => trivial⟩
  | diff =>
      have looks := surface.settings.snapshot_queries.mono fun _ => Request.IsQuery.spares
      exact only_bind looks fun _ => trivial
  | storeWrite path contents => cases h
  | set s requested => cases h
  | change key requested => cases h
  | _ => exact query trivial

end Surface

namespace Session

section Looking

variable (surface : Surface)

/-- A query is answered from what the store holds, and the session stays as it was. -/
theorem operate_of_query {operation : Operation} (h : operation.IsQuery) (store : MemoryStore)
    : ∃ answer events,
        ∀ {ν : Type} (notifier : Notifier ν) (calls : ν → List NotifierCall)
          (session : Session (Device MemoryStore ν)),
          store.LooksLike session.device.store
          → session.operate (.memory notifier calls) surface operation
            = (.finished answer, events, session) := by
  obtain ⟨query, only, performed⟩ := surface.perform_query h
  obtain ⟨answer, requests, events, found⟩ := only.looks store
  refine ⟨answer, events, ?_⟩
  intro ν notifier calls session looks
  have ran : session.run (.memory notifier calls) (surface.perform session.seen operation)
      = ⟨.finished (answer, session.seen), requests, events, session.device, session.locks⟩ := by
    unfold Session.run Procedure.run
    rw [performed, runHolding_map query fun answer => (answer, session.seen)]
    exact congrArg (Run.map _) (found notifier session.device.store _ [] session.locks looks)
  simp only [operate, ran, after]

theorem advance_of_query {next : Move MemoryStore.Intervention} (h : next.IsQuery)
    (store : MemoryStore)
    : ∃ answer events,
        ∀ {ν : Type} (notifier : Notifier ν) (calls : ν → List NotifierCall)
          (session : Session (Device MemoryStore ν)),
          store.LooksLike session.device.store
          → session.advance (.memory notifier calls) surface next
            = (⟨.finished answer, events, [], []⟩, session) := by
  cases next with
  | operate operation =>
      obtain ⟨answer, events, found⟩ := operate_of_query surface h store
      refine ⟨answer, events, ?_⟩
      intro ν notifier calls session looks
      simp [advance, move, found notifier calls session looks]
  | inspect path =>
      refine ⟨.contents ((store.contents? path).map .text), [], ?_⟩
      intro ν notifier calls session looks
      simp [advance, move, Bench.memory, looks.contents_eq]
  | together changes => exact h.elim
  | intervene change => exact h.elim

variable {ν : Type} (notifier : Notifier ν) (calls : ν → List NotifierCall)

/-- A move that touches no attribute leaves the store as it was. -/
theorem advance_spares {next : Move MemoryStore.Intervention} (h : ¬ next.Touches)
    (session : Session (Device MemoryStore ν))
    : (session.advance (.memory notifier calls) surface next).2.device.store
      = session.device.store := by
  cases next with
  | operate operation =>
      have spares := surface.perform_spares (by simpa [Move.Touches] using h) session.seen
      have kept : (session.run (.memory notifier calls)
          (surface.perform session.seen operation)).state.store = session.device.store := by
        refine spares.state_invariant (fun device : Device MemoryStore ν =>
          device.store = session.device.store) ?_ [] session.device session.locks rfl
        intro request spares device kept
        cases request with
        | write path contents => exact spares.elim
        | _ => exact kept
      simp only [advance, move, operate]
      split <;> exact kept
  | inspect path => rfl
  | together changes => exact (h trivial).elim
  | intervene change => exact (h trivial).elim

/-- Moves that touch no attribute leave the store as it is, its record of writes included. -/
theorem runAll_spares (moves : List (Move MemoryStore.Intervention))
    (h : ∀ move ∈ moves, ¬ move.Touches) (session : Session (Device MemoryStore ν))
    : (session.runAll (.memory notifier calls) surface moves).2.device.store
      = session.device.store := by
  induction moves generalizing session with
  | nil => rfl
  | cons next rest ih =>
      have after := advance_spares surface notifier calls (h next (by simp)) session
      exact (ih (fun move member => h move (by simp [member])) _).trans after

/-- Without some of its queries a session runs as it did.  It is compared with itself, since a query
leaves it as it was. -/
theorem runAll_without_queries {session : Session (Device MemoryStore ν)}
    {moves : List (Move MemoryStore.Intervention)}
    {rest : List (Move MemoryStore.Intervention × MoveReport)}
    (omitted
      : Omits (·.1.IsQuery)
          (moves.zip (session.runAll (.memory notifier calls) surface moves).1) rest)
    : session.runAll (.memory notifier calls) surface (rest.map (·.1))
      = (rest.map (·.2), (session.runAll (.memory notifier calls) surface moves).2) := by
  obtain ⟨reports, same⟩ := runAll_omits (fun session other => session = other)
    (by rintro session other next rfl; exact ⟨rfl, rfl⟩)
    (by
      rintro session other next rfl query
      obtain ⟨answer, events, found⟩ := advance_of_query surface query session.device.store
      rw [found notifier calls session (.refl _)])
    rfl omitted
  exact Prod.ext reports same.symm

end Looking

/-- Whichever queries are left out of a session or put into it, the other moves are reported as they
were, and the session ends in the same state.  At every point the report of a query depends on nothing
but what the store holds then, so it is repeated word for word until an attribute is touched. -/
theorem queries_are_invisible (config : Config) (own : Option Toggle) {ν : Type}
    (notifier : Notifier ν) (calls : ν → List NotifierCall) (device : Device MemoryStore ν)
    (moves : List (Move MemoryStore.Intervention))
    : let surface : Surface := ⟨.ofConfig config, own⟩
      let run := (start device).runAll (.memory notifier calls) surface
      let course := run moves
      (∀ rest,
          Omits (·.1.IsQuery) (moves.zip course.1) rest
          → run (rest.map (·.1)) = (rest.map (·.2), course.2))
      ∧ (∀ more,
          Omits (·.IsQuery) more moves
          → Omits (·.1.IsQuery) (more.zip (run more).1) (moves.zip course.1)
            ∧ (run more).2 = course.2)
      ∧ ∀ query : Move MemoryStore.Intervention,
          query.IsQuery
          → let asked := course.2.advance (.memory notifier calls) surface query
            (∀ {μ : Type} (other : Notifier μ) (calls' : μ → List NotifierCall)
              (session : Session (Device MemoryStore μ)),
              course.2.device.store.LooksLike session.device.store
              → (session.advance (.memory other calls') surface query).1 = asked.1)
            ∧ ∀ between : List (Move MemoryStore.Intervention),
                (∀ move ∈ between, ¬ move.Touches)
                → let later := asked.2.runAll (.memory notifier calls) surface between
                  (later.2.advance (.memory notifier calls) surface query).1 = asked.1 := by
  intro surface run course
  refine ⟨fun rest omitted => runAll_without_queries surface notifier calls omitted,
    fun more omitted => ?_, fun query looks => ⟨?_, ?_⟩⟩
  · -- The session with more queries in it is the one that the queries are left out of.
    obtain ⟨kept, omits, same⟩ := omitted.exists_zip (length_runAll _ _ more (start device))
    have without := runAll_without_queries surface notifier calls omits
    rw [same] at without
    have reports : kept.map (·.2) = course.1 := (congrArg Prod.fst without).symm
    rw [← List.zip_of_prod same reports]
    exact ⟨omits, (congrArg Prod.snd without).symm⟩
  · intro μ other calls' session alike
    obtain ⟨answer, events, found⟩ := advance_of_query surface looks course.2.device.store
    rw [found other calls' session alike, found notifier calls course.2 (.refl _)]
  · intro between spares later
    obtain ⟨answer, events, found⟩ := advance_of_query surface looks course.2.device.store
    have asked := found notifier calls course.2 (.refl _)
    -- Neither the query nor what comes between touches an attribute.
    have same : later.2.device.store = course.2.device.store := by
      have spared := runAll_spares surface notifier calls between spares course.2
      simpa only [later, asked] using spared
    rw [found notifier calls later.2 (.of_eq same.symm), asked]

/-- While a charger is switched on somebody lists its toggles, asks for one that it has not, reads an
attribute that is missing and looks at one from outside; the charger does not notice. -/
theorem charger_queries_are_invisible
    : let change : String → Move MemoryStore.Intervention :=
        fun key => .operate (.change key .enabled)
      let run := (start ⟨.charger, .fresh false⟩).runAll .recording ⟨.ofConfig .charger, none⟩
      let asked := run [.operate .entries, change "fast", .operate (.state (.keyed "slow")),
        .operate (.storeRead ⟨"/sys/fan"⟩), change "light", .inspect ⟨"/sys/light"⟩]
      asked.2 = (run [change "fast", change "light"]).2
      ∧ asked.2.device.store.contents? ⟨"/sys/charge/mode"⟩ = some "1\n" := by
  intro change run asked
  obtain ⟨-, more, -⟩ := queries_are_invisible .charger none Recorder.service (·.calls)
    ⟨.charger, .fresh false⟩ [change "fast", change "light"]
  refine ⟨(more _ ?_).2, by decide +kernel⟩
  exact .drop _ trivial (.keep _ (.drop _ trivial (.drop _ trivial (.keep _ (.drop _ trivial .nil)))))

end Session

end ModeSwitch
