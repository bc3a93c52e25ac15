import ModeSwitch.Host.Shell.Expansion

/-! Redirections.

Before a command is run, some of its descriptors may be led elsewhere: to a file, to where another
one is led, to a document, or nowhere.  First all words come to what they mean, then one redirection
after another is carried out.
-/

namespace ModeSwitch.Host.Shell

def descriptorPaths : List (String × Nat) :=
  [("/dev/stdin", standardInput), ("/dev/stdout", standardOutput), ("/dev/stderr", errorOutput)]
    ++ (List.range 10).flatMap fun n =>
      [("/dev/fd/" ++ toString n, n), ("/proc/self/fd/" ++ toString n, n)]

def terminalPath : String := "/dev/tty"

namespace Opening

def makesFile : Opening → Bool
  | .read => false
  | .readWrite | .write | .overwrite | .append => true

def dropsBytes : Opening → Bool
  | .write | .overwrite => true
  | .read | .readWrite | .append => false

def reads : Opening → Bool
  | .read | .readWrite => true
  | .write | .overwrite | .append => false

def writes : Opening → Bool
  | .read => false
  | .readWrite | .write | .overwrite | .append => true

end Opening

/-- Opens what stands at a place: the state after it was opened, and the number of the channel. -/
def openNode (state : State) (opening : Opening) (place : List String) :
    Option FileNode → Except SystemError (State × Nat)
  | some .sink => .ok (state.addChannel .sink)
  | some .full => .ok (state.addChannel .full)
  | some .directory =>
      if opening.writes then .error .isDirectory else .ok (state.addChannel (.directory place))
  | some (.link _) => .error .linkLoop
  | some (.program _) =>
      if opening.writes then .error .denied
      else .ok (state.addChannel (.file place 0 true false false))
  | some (.file _) =>
      let state := if opening.dropsBytes then state.setFile place [] else state
      .ok (state.addChannel
        (.file place 0 opening.reads opening.writes (opening = .append)))
  | none =>
      if opening.makesFile then
        .ok ((state.setFile place []).addChannel
          (.file place 0 opening.reads opening.writes (opening = .append)))
      else .error .noEntry

def openPath (state : State) (opening : Opening) (path : Octets) :
    Except SystemError (State × Nat) :=
  let text := Octets.text path
  match descriptorPaths.lookup text with
  | some descriptor =>
      match state.descriptors.lookup descriptor with
      | some number => .ok (state, number)
      | none => .error .noEntry
  | none =>
      if text = terminalPath then .error .noDevice
      else
        match state.tree.locate state.directory text with
        | .error cause => .error cause
        | .ok (place, node) =>
            let isFile := match node with
              | some (.file _) => true
              | _ => false
            if isFile && opening = .write && state.hasOption 'C' then .error .fileExists
            else openNode state opening place node

def openingProblem (opening : Opening) (path : Octets) (cause : SystemError) : Octets :=
  let isMissing := cause = .noEntry || cause = .notDirectory
  let verb := if opening.makesFile then "cannot create " else "cannot open "
  let reason :=
    if !isMissing then cause.words
    else if opening.makesFile then "Directory nonexistent" else "No such file"
  verb.toList ++ path ++ ": ".toList ++ reason.toList

/-- What redirections mean, once their words have come to texts. -/
def leadsOf (run : Runner) (fuel : Nat) : List Redirection → Act (List Lead)
  | [] => return []
  | redirection :: rest => do
      let lead : Lead ← match redirection with
        | .file source opening path => pure ⟨source, .path opening (← textOf run fuel path)⟩
        | .duplicate source target => pure ⟨source, .descriptor target⟩
        | .duplicateNamed source target => do
            match ← textOf run fuel target with
            | ['-'] => pure ⟨source, .descriptor none⟩
            | [c] =>
                if c.isDigit then pure ⟨source, .descriptor (some (c.toNat - '0'.toNat))⟩
                else fail "Syntax error: Bad fd number".toList
            | _ => fail "Syntax error: Bad fd number".toList
        | .document source number => pure ⟨source, .document number⟩
      return lead :: (← leadsOf run fuel rest)

def perform (run : Runner) (fuel : Nat) (lead : Lead) : Act Unit := do
  let state ← get
  match lead.target with
  | .path opening path =>
      match openPath state opening path with
      | .ok (opened, number) => set (opened.lead lead.source (some number))
      | .error cause => fail (openingProblem opening path cause)
  | .descriptor none => set (state.lead lead.source none)
  | .descriptor (some target) =>
      if target = lead.source then return
      else
        match state.descriptors.lookup target with
        | some number => set (state.lead lead.source (some number))
        | none => failAbout (Number.text target) SystemError.notOpen.words
  | .document number =>
      let text ← documentText run fuel ((state.documents.lookup number).getD [])
      let (opened, number) := (← get).addChannel (.stream [text])
      set (opened.lead lead.source (some number))

/-- Leads descriptors to where they are to be led, and tells whether that was possible. -/
def performAll (run : Runner) (fuel : Nat) (leads : List Lead) : Act Bool :=
  tryCatch (do
    for lead in leads do
      perform run fuel lead
    return true) fun
    | .failed => return false
    | halt => throw halt

end ModeSwitch.Host.Shell
