import ModeSwitch.Host.Shell.Builtin.Surroundings
import ModeSwitch.Host.Shell.Invocation
import ModeSwitch.Host.Shell.Process
import ModeSwitch.Host.Shell.Reader
import ModeSwitch.Host.Shell.Tools

/-! Running scripts.

A script is run list by list, as it is read.  Commands that are run apart are run to their end before
what comes after them goes on; a command in the background is run when it is waited for, or when the
shell has nothing else to do.
-/

namespace ModeSwitch.Host.Shell

structure Setting where
  /-- Is its failure looked at by the command around it? -/
  isTested : Bool
  /-- Does the shell end with it? -/
  isLast : Bool
  deriving DecidableEq, Repr

namespace Setting

def plain : Setting := ⟨false, false⟩

def tested : Setting := ⟨true, false⟩

def inner (setting : Setting) : Setting := { setting with isLast := false }

end Setting

/-! ## Jumps -/

/-- How a loop goes on behind some of its commands. -/
inductive LoopStep where
  | onward
  | nextRound
  | out
  deriving DecidableEq, Repr

def stepOfLoop : Act LoopStep := do
  let state ← get
  match state.jump with
  | none => return .onward
  | some .back => return .out
  | some (.leave loops) =>
      set { state with jump := if loops ≤ 1 then none else some (.leave (loops - 1)) }
      return .out
  | some (.next loops) =>
      set { state with jump := if loops ≤ 1 then none else some (.next (loops - 1)) }
      return if loops ≤ 1 then .nextRound else .out

/-- Begins a jump out of some loops, or to the next round of one of them. -/
def jumpLoops (jump : Nat → Jump) (arguments : List Octets) : Act Nat := do
  let count ← match arguments with
    | argument :: _ => do
        let count ← numberOf argument
        if count = 0 then fail ("Illegal number: ".toList ++ argument) else pure count
    | [] => pure 1
  modify fun state =>
    let count := min count state.loops
    { state with jump := if count = 0 then none else some (jump count) }
  return 0

def returnBack (arguments : List Octets) : Act Nat := do
  let status ← match arguments with
    | argument :: _ => numberOf argument
    | [] => pure (← get).status
  modify fun state => { state with jump := some .back }
  return status

def goesOn : Act Bool :=
  return (← get).jump.isNone

/-- The state behind a function, or a script that was run inside another one. -/
def State.afterBack (state : State) : State :=
  { state with jump := if state.jump = some .back then none else state.jump }

def maxCallDepth : Nat := 1000

def callDepthProblem : Octets :=
  s!"Maximum function recursion depth ({maxCallDepth}) reached".toList

def exitShell (arguments : List Octets) : Act Nat := do
  let status ← match arguments with
    | argument :: _ => numberOf argument
    | [] =>
        let state ← get
        pure (state.savedStatus.getD state.status)
  setStatus status
  throw .exited

/-! ## Redirected commands -/

/-- Does something with descriptors led elsewhere, if that is possible, and leads just these back;
tells whether it was possible. -/
def withLeads (run : Runner) (fuel : Nat) (leads : List Lead) (keeps : Bool) (act : Act Unit) :
    Act Bool := do
  let before := (← get).descriptors
  let sources := (leads.filter fun lead => lead.target ≠ .descriptor (some lead.source)).map (·.source)
  let restore (state : State) : State :=
    sources.foldl (fun state source => state.lead source (before.lookup source)) state
  let isPossible ← ending (if keeps then id else restore) do
    let isPossible ← performAll run fuel leads
    if isPossible then act
    return isPossible
  if !isPossible then modify restore
  return isPossible

def setLine (line : Nat) : Act Unit :=
  modify fun state => { state with line }

/-- Tells a command with what its words have come to, if that is asked for. -/
def trace (descriptors : List (Nat × Nat)) (words : List Octets) : Act Unit := do
  let state ← get
  if state.hasOption 'x' then
    let mark := (state.value? "PS4".toList).getD []
    let text := mark ++ Octets.joined [' '] words ++ ['\n']
    match descriptors.lookup errorOutput with
    | some number => set ((state.writeChannel number text).toOption.getD state)
    | none => return

/-! ## Programs -/

def freshShell (name : Octets) (process : Nat) (directory : List String)
    (environment : List (Octets × Octets)) (descriptors : List (Nat × Nat)) : Interpreter where
  name
  root := process
  process
  arguments := []
  bindings :=
    let given := (environment.filter fun (name, _) => isName name && name ≠ "IFS".toList).map
      fun (name, value) => (name, (⟨some value, true, false⟩ : Variable))
    let usual : List (Octets × Octets) :=
      [("IFS".toList, State.usualSeparators), (optionIndexName, ['1']), ("PS1".toList, ['#', ' ']),
        ("PS2".toList, ['>', ' ']), ("PS4".toList, ['+', ' ']),
        ("PPID".toList, Number.text (process - 1)),
        (pathName, (":".intercalate Lookup.directories).toList),
        ("PWD".toList, pathOf directory)]
    given ++ (usual.filter fun (name, _) => (given.lookup name).isNone).map
      fun (name, value) => (name, (⟨some value, name = "PWD".toList, false⟩ : Variable))
  functions := []
  aliases := []
  options := []
  status := 0
  savedStatus := none
  outputStatus := 0
  traps := []
  arrived := []
  directory
  descriptors
  jump := none
  loops := 0
  callDepth := 0
  hidden := []
  line := 0
  speaker := none
  optionIndex := 1
  lettersRead := 0
  mask := 0o022
  lastJob := none
  pending := []

/-- Puts fields that words come to one after another until there is a first one; the words behind are
given back. -/
def firstFields (run : Runner) (fuel : Nat) : List Word → Act (List Octets × List Word)
  | [] => return ([], [])
  | word :: rest => do
      match ← fieldsOf run fuel word with
      | [] => firstFields run fuel rest
      | fields => return (fields, rest)

/-- The fields that words come to; some of them may be used like assignments. -/
def allFields (run : Runner) (fuel : Nat) (takesAssignments : Bool) : List Word →
    Act (List Octets)
  | [] => return []
  | word :: rest => do
      let fields ←
        if takesAssignments && Word.isAssignment word then
          pure [← assignmentText run fuel word]
        else fieldsOf run fuel word
      return fields ++ (← allFields run fuel takesAssignments rest)

/-- The arguments behind those that say how a command is to be looked for, and whether in the usual
directories; nothing if the command is only asked about. -/
def commandArguments (usually : Bool) : List Octets → Option (Bool × List Octets)
  | [] => none
  | ['-', '-'] :: rest => if rest.isEmpty then none else some (usually, rest)
  | ('-' :: letter :: letters) :: rest =>
      if (letter :: letters).all (· = 'p') then commandArguments true rest else none
  | arguments => some (usually, arguments)

/-- What is to be done for a simple command, once its name is known. -/
structure Plan where
  meaning : Meaning
  /-- The command and its arguments. -/
  fields : List Octets
  /-- Is the command a special builtin that was called by its name? -/
  isSpecial : Bool
  /-- Is the command a builtin? -/
  isBuiltin : Bool
  /-- Are programs looked for in the usual directories? -/
  isUsual : Bool
  /-- Are functions looked for? -/
  withFunctions : Bool

/-- Finds out what is to be done for fields; at most `steps` of them are words that only say how. -/
def planOf (state : State) : (steps : Nat) → (plan : Plan) → Plan
  | 0, plan => plan
  | steps + 1, plan =>
      let name := plan.fields.head?.getD []
      let directories := if plan.isUsual then Lookup.directories else state.directories
      let meaning := state.meaning name plan.withFunctions directories
      match meaning with
      | .builtin =>
          let plan :=
            if plan.isBuiltin then { plan with meaning }
            else { plan with meaning, isBuiltin := true, isSpecial := isSpecialBuiltin name }
          if name = "command".toList then
            match commandArguments plan.isUsual plan.fields.tail with
            | some (isUsual, fields) =>
                planOf state steps { plan with fields, isUsual, withFunctions := false }
            | none => plan
          else plan
      | meaning => { plan with meaning }

def Plan.empty : Plan := ⟨.builtin, [], false, true, false, true⟩

def tellNotRun (name : Octets) (cause : SystemError) : Act Unit :=
  complain (name ++ ": ".toList ++ (runningProblem cause).toList)

def noJob : Act Nat :=
  fail "No current job".toList

/-- Does the shell answer signals, or its own end? -/
def answersSignals : Act Bool :=
  return (← get).traps.any (·.2 ≠ [])

def addJob (leads : List Lead) (command : Option Command) : Act Unit := do
  let process ← newProcess
  let state ← get
  let (state, number) := state.addChannel .sink
  let shell := (state.lead standardInput (some number)).toInterpreter.inProcess process
  let job : Job := ⟨state.process, shell, leads, command⟩
  set { state with jobs := state.jobs ++ [job], lastJob := some process, status := 0 }

mutual

def run : (fuel : Nat) → Setting → Option Command → Act Unit
  | 0, _, _ => throw .exited
  | fuel + 1, setting, command => do
      let mustSucceed := (← get).hasOption 'e' && !setting.isTested
      let isChecked ← match command with
        | none => pure false
        | some command =>
            if (← get).hasOption 'n' then pure false
            else
              answer fuel
              runCommand fuel setting command
      answer fuel
      if (isChecked && mustSucceed && (← get).status ≠ 0) || setting.isLast then throw .exited

/-- Runs a command, and tells whether its failure may end the shell. -/
def runCommand : (fuel : Nat) → Setting → Command → Act Bool
  | 0, _, _ => throw .exited
  | fuel + 1, setting, command => do
      match command with
      | .simple line assignments words redirections =>
          runSimple fuel setting line assignments words redirections
          return true
      | .redirected line command redirections =>
          setLine line
          let leads ← leadsOf (output fuel) fuel redirections
          if !(← withLeads (output fuel) fuel leads false (run fuel setting.inner command)) then
            setStatus failureStatus
          return false
      | .apart line command redirections =>
          setLine line
          let leads ← leadsOf (output fuel) fuel redirections
          let body : Act Unit := do
            for lead in leads do
              perform (output fuel) fuel lead
            run fuel { setting with isLast := true } command
          if setting.isLast && !(← answersSignals) then body
          else setStatus (← wait (← apart (toExit fuel body)))
          return true
      | .background line command redirections =>
          setLine line
          addJob (← leadsOf (output fuel) fuel redirections) command
          return true
      | .pipeline inBackground stages =>
          if inBackground then addJob [] (some (.pipeline false stages))
          else runStages fuel none stages
          return true
      | .negation command =>
          run fuel .tested (some command)
          if ← goesOn then
            modify fun state => { state with status := if state.status = 0 then 1 else 0 }
          return false
      | .both first second =>
          run fuel .tested (some first)
          if (← get).status = 0 && (← goesOn) then run fuel setting (some second)
          return false
      | .either first second =>
          run fuel .tested (some first)
          if (← get).status ≠ 0 && (← goesOn) then run fuel setting (some second)
          return false
      | .sequence first second =>
          run fuel setting.inner (some first)
          if ← goesOn then run fuel setting (some second)
          return false
      | .choice condition positive negative =>
          run fuel .tested condition
          if ← goesOn then
            if (← get).status = 0 then run fuel setting positive
            else
              match negative with
              | some negative => run fuel setting (some negative)
              | none => setStatus 0
          return false
      | .loop endsOnSuccess condition body =>
          let loops := (← get).loops
          modify fun state => { state with loops := loops + 1 }
          let status ← ending (fun state => { state with loops })
            (repeatBody fuel setting.inner endsOnSuccess condition body 0)
          setStatus status
          return false
      | .each line name words body =>
          setLine line
          let fields ← allFields (output fuel) fuel false words
          let loops := (← get).loops
          modify fun state => { state with loops := loops + 1 }
          let status ← ending (fun state => { state with loops })
            (forEach fuel setting.inner name fields body 0)
          setStatus status
          return false
      | .select line word cases =>
          setLine line
          let text ← textOf (output fuel) fuel word
          selectCase fuel setting text cases
          return false
      | .definition name body =>
          modify fun state =>
            { state with
              functions := (name, body) :: state.functions.filter (·.1 ≠ name)
              status := 0 }
          return false

/-- Runs commands of which each reads what the one before it writes; the first one may have something
to read. -/
def runStages : (fuel : Nat) → (source : Option Nat) → List Command → Act Unit
  | 0, _, _ => throw .exited
  | _, _, [] => return
  | fuel + 1, source, stage :: rest => do
      let (opened, number) := (← get).addChannel (.stream [])
      set opened
      let first := opened.nextProcess
      let ended ← apart <| toExit fuel do
        if let some source := source then
          modify (·.lead standardInput (some source))
        if !rest.isEmpty then modify (·.lead standardOutput (some number))
        run fuel ⟨false, true⟩ (some stage)
      if !rest.isEmpty then runJobs fuel (first ≤ ·.shell.process)
      if let some source := source then
        modify (·.dropChannel source)
      setStatus (← wait ended)
      runStages fuel (some number) rest

def repeatBody : (fuel : Nat) → Setting → (endsOnSuccess : Bool) →
    (condition body : Option Command) → (status : Nat) → Act Nat
  | 0, _, _, _, _, _ => throw .exited
  | fuel + 1, setting, endsOnSuccess, condition, body, status => do
      run fuel .tested condition
      let found := (← get).status
      let isBack := (← get).jump = some .back
      match ← stepOfLoop with
      | .nextRound => repeatBody fuel setting endsOnSuccess condition body status
      | .out => return if isBack then found else status
      | .onward =>
          if (found = 0) = endsOnSuccess then return status
          else
            run fuel setting body
            let status := (← get).status
            match ← stepOfLoop with
            | .out => return status
            | .onward | .nextRound => repeatBody fuel setting endsOnSuccess condition body status

def forEach : (fuel : Nat) → Setting → (name : Octets) → (fields : List Octets) →
    (body : Option Command) → (status : Nat) → Act Nat
  | 0, _, _, _, _, _ => throw .exited
  | _, _, _, [], _, status => return status
  | fuel + 1, setting, name, field :: rest, body, _ => do
      assign name field false
      run fuel setting body
      let status := (← get).status
      match ← stepOfLoop with
      | .out => return status
      | .onward | .nextRound => forEach fuel setting name rest body status

def selectCase : (fuel : Nat) → Setting → (text : Octets) → List Case → Act Unit
  | 0, _, _, _ => throw .exited
  | _, _, _, [] => setStatus 0
  | fuel + 1, setting, text, .case forms body :: rest => do
      if ← hasOneForm fuel text forms then
        match body with
        | some body => run fuel setting (some body)
        | none => setStatus 0
      else selectCase fuel setting text rest

def hasOneForm : (fuel : Nat) → (text : Octets) → (forms : List Word) → Act Bool
  | 0, _, _ => throw .exited
  | _, _, [] => return false
  | fuel + 1, text, form :: rest => do
      let form ← formOf (output fuel) fuel form
      if form.hasForm text then return true else hasOneForm fuel text rest

def runSimple : (fuel : Nat) → Setting → (line : Nat) → (assignments words : List Word) →
    List Redirection → Act Unit
  | 0, _, _, _, _, _ => throw .exited
  | fuel + 1, setting, line, assignments, words, redirections => do
      modify fun state => { state with line, outputStatus := 0 }
      let act : Act Unit := do
        let (first, later) ← firstFields (output fuel) fuel words
        let plan ← planFor fuel first later
        let fields := plan.2
        let plan := plan.1
        let isExec := plan.isBuiltin && plan.fields.head? = some "exec".toList
        let leads ← leadsOf (output fuel) fuel redirections
        let descriptors := (← get).descriptors
        let isPossible ← withLeads (output fuel) fuel leads isExec do
          let assigned ← assignAll fuel (!plan.isSpecial && !plan.fields.isEmpty)
            (isExec && 1 < plan.fields.length) assignments
          trace descriptors (assigned ++ fields)
          carryOut fuel setting plan
        if !isPossible then
          setStatus failureStatus
          if plan.isSpecial then throw .failed
      if assignments.isEmpty then act else withHidden act

/-- Finds out what is to be done for a simple command whose first fields are known, and all its
fields. -/
def planFor : (fuel : Nat) → (first : List Octets) → (later : List Word) →
    Act (Plan × List Octets)
  | 0, _, _ => throw .exited
  | fuel + 1, first, later => do
      if first.isEmpty then return (Plan.empty, [])
      else
        let start : Plan := ⟨.builtin, first, false, false, false, true⟩
        let plan := planOf (← get) (first.length + 1) start
        let isAsking := plan.fields.head? = some "command".toList && plan.isBuiltin
        match if isAsking then later else [] with
        | word :: rest =>
            let more ← fieldsOf (output fuel) fuel word
            planFor fuel (first ++ more) rest
        | [] =>
            let takes := plan.isBuiltin && takesAssignments (plan.fields.head?.getD [])
            let more ← allFields (output fuel) fuel takes later
            return ({ plan with fields := plan.fields ++ more }, first ++ more)

/-- Gives variables values, perhaps only until the command ends, and tells what was assigned. -/
def assignAll : (fuel : Nat) → (isHidden isExported : Bool) → (assignments : List Word) →
    Act (List Octets)
  | 0, _, _, _ => throw .exited
  | _, _, _, [] => return []
  | fuel + 1, isHidden, isExported, word :: rest => do
      let text ← assignmentText (output fuel) fuel word
      let (name, value) := Builtin.nameAndValue text
      if isHidden then hide name
      assign name (value.getD []) (isHidden || isExported)
      return text :: (← assignAll fuel isHidden isExported rest)

def carryOut : (fuel : Nat) → Setting → Plan → Act Unit
  | 0, _, _ => throw .exited
  | fuel + 1, setting, plan => do
      match plan.fields with
      | [] => setStatus (← get).outputStatus
      | name :: arguments =>
          match plan.meaning with
          | .builtin =>
              tryCatch (runBuiltin fuel setting name arguments) fun halt =>
                if halt = .failed && !plan.isSpecial then return else throw halt
          | .function body => callFunction fuel setting body arguments
          | .path | .program _ | .missing _ =>
              let state ← get
              let directories := if plan.isUsual then Lookup.directories else state.directories
              match state.meaning name false directories with
              | .missing cause =>
                  tellNotRun name cause
                  setStatus 127
              | _ =>
                  let body := launch fuel directories name arguments
                  if setting.isLast && !(← answersSignals) then body
                  else setStatus (← wait (← apart body))

def launch : (fuel : Nat) → (directories : List String) → (name : Octets) →
    (arguments : List Octets) → Act Unit
  | 0, _, _, _ => throw .exited
  | fuel + 1, directories, name, arguments => do
      let state ← get
      match Lookup.program state.tree state.directory directories (Octets.text name) with
      | .error cause =>
          tellNotRun name cause
          setStatus (runningStatus cause)
      | .ok found => runProgram fuel found.program name arguments
      modify fun state => { state with traps := [] }
      throw .exited

def runProgram : (fuel : Nat) → (program : String) → (name : Octets) →
    (arguments : List Octets) → Act Unit
  | 0, _, _, _ => throw .exited
  | fuel + 1, program, name, arguments => do
      match program with
      | "sh" | "dash" => runShell fuel name arguments
      | "env" =>
          match ← Tools.changeSurroundings name arguments with
          | .error status => setStatus status
          | .ok [] => setStatus 0
          | .ok (command :: arguments) =>
              let state ← get
              match Lookup.program state.tree state.directory (Tools.searchDirectories state)
                  (Octets.text command) with
              | .ok found => runProgram fuel found.program command arguments
              | .error cause =>
                  discard (Tools.complainAs name (Tools.named command ++ ": " ++ cause.words))
                  if cause = .noEntry && command.contains ' ' then
                    discard (Tools.complainAs name "use -[v]S to pass options in shebang lines")
                  setStatus (runningStatus cause)
      | program =>
          match Tools.all.lookup program with
          | some tool =>
              if program = "sleep" then runJobs fuel fun _ => true
              setStatus (← tool name arguments)
          | none => setStatus 0

def callFunction : (fuel : Nat) → Setting → (body : Command) → (arguments : List Octets) → Act Unit
  | 0, _, _, _ => throw .exited
  | fuel + 1, setting, body, arguments => do
      let before ← get
      if maxCallDepth ≤ before.callDepth then fail callDepthProblem
      set { before.withoutOptionsRead with arguments, callDepth := before.callDepth + 1, loops := 0 }
      let restore (state : State) : State :=
        { state.afterBack with
          arguments := before.arguments
          callDepth := before.callDepth
          loops := before.loops
          optionIndex := before.optionIndex
          lettersRead := before.lettersRead }
      ending restore (withHidden (run fuel setting.inner (some body)))

def runBuiltin : (fuel : Nat) → Setting → (name : Octets) → (arguments : List Octets) → Act Unit
  | 0, _, _, _ => throw .exited
  | fuel + 1, setting, name, arguments => do
      let speaker := (← get).speaker
      modify fun state => { state with speaker := some name }
      ending (fun state => { state with speaker }) <|
        tryCatch (do
          let status ← builtin fuel setting name arguments
          if ← flush then setStatus status
          else
            complain (name ++ ": I/O error".toList)
            setStatus (status ||| 1)) fun halt => do
          discard flush
          throw halt

def builtin : (fuel : Nat) → Setting → (name : Octets) → (arguments : List Octets) → Act Nat
  | 0, _, _, _ => throw .exited
  | fuel + 1, setting, name, arguments => do
      match String.ofList name with
      | ":" | "true" | "jobs" | "times" => return 0
      | "false" => return 1
      | "." => source fuel arguments
      | "[" => Builtin.bracket arguments
      | "alias" => Builtin.aliasCommand arguments
      | "bg" | "fg" => noJob
      | "break" => jumpLoops .leave arguments
      | "cd" | "chdir" => Builtin.changeDirectory arguments
      | "command" => Builtin.commandOptions arguments
      | "continue" => jumpLoops .next arguments
      | "echo" => Builtin.echoCommand arguments
      | "eval" =>
          runText fuel setting.inner (Octets.joined [' '] arguments)
      | "exec" => replace fuel arguments
      | "exit" => exitShell arguments
      | "export" => Builtin.exportNames arguments
      | "getopts" => Builtin.getOption arguments
      | "hash" => Builtin.hash arguments
      | "kill" =>
          let status ← Builtin.killCommand arguments
          receive
          return status
      | "local" => Builtin.localNames arguments
      | "printf" => Builtin.printf arguments
      | "pwd" => Builtin.tellDirectory arguments
      | "read" => Builtin.read arguments
      | "readonly" => Builtin.protect arguments
      | "return" => returnBack arguments
      | "set" => Builtin.setCommand arguments
      | "shift" => Builtin.shift arguments
      | "test" => Builtin.test arguments
      | "trap" => Builtin.trap arguments
      | "type" => Builtin.typeCommand arguments
      | "ulimit" => Builtin.limits arguments
      | "umask" => Builtin.mask arguments
      | "unalias" => Builtin.unaliasCommand arguments
      | "unset" => Builtin.unset arguments
      | "wait" => waitFor fuel arguments
      | _ => return 0

/-- Runs a program in the place of the shell; without one, only the redirections stay. -/
def replace : (fuel : Nat) → (arguments : List Octets) → Act Nat
  | 0, _ => throw .exited
  | fuel + 1, arguments => do
      let options ← optionsOf "" arguments
      match options.rest with
      | [] => return 0
      | name :: arguments =>
          launch fuel (← get).directories name arguments
          return 0

/-- Runs the script at a path, or with a name in one of the directories of programs. -/
def source : (fuel : Nat) → (arguments : List Octets) → Act Nat
  | 0, _ => throw .exited
  | fuel + 1, arguments => do
      let options ← optionsOf "" arguments
      match options.rest with
      | [] => return 0
      | name :: _ =>
          let state ← get
          let isFile (path : Octets) : Bool :=
            match state.tree.findIn state.directory (Octets.text path) with
            | .ok (_, .file _) | .ok (_, .program _) => true
            | _ => false
          let candidates : List Octets :=
            if name.contains '/' then [name]
            else
              (state.directories.map fun directory =>
                Octets.ofText (Lookup.pathIn directory (Octets.text name))).filter isFile
          match candidates with
          | [] => failAbout name "not found"
          | path :: _ =>
              let text ← scriptAt path
              modify fun state => { state with speaker := some path }
              let status ← runText fuel .plain text
              modify State.afterBack
              return status

/-- Runs the lists of commands that a reader finds, and tells the exit code of the last one. -/
def runLists : (fuel : Nat) → Setting → ReaderState → (status : Nat) → Act Nat
  | 0, _, _, _ => throw .exited
  | fuel + 1, setting, reader, status => do
      let state ← get
      let reader :=
        { reader with
          aliases := state.aliases, nextDocument := state.nextDocument, documents := [] }
      match (nextCommands (16 * reader.rest.length + 64)).run reader with
      | .error fault =>
          setLine fault.line
          fail ("Syntax error: ".toList ++ fault.problem.message.toList)
      | .ok (none, _) => return status
      | .ok (some command, reader) =>
          modify fun state =>
            { state with
              documents := reader.documents ++ state.documents
              nextDocument := reader.nextDocument }
          let isAtEnd := match reader.pushed with
            | some .endOfScript => true
            | _ => false
          run fuel { setting with isLast := setting.isLast && isAtEnd } command
          let found := (← get).status
          let status := if command.isSome then found else status
          if ← goesOn then runLists fuel setting reader status else return status

/-- Runs a script from its text, and tells the exit code of its last command. -/
def runText : (fuel : Nat) → Setting → (text : Octets) → Act Nat
  | 0, _, _ => throw .exited
  | fuel + 1, setting, text => do
      runLists fuel setting (.start text 1 0 []) 0

def answer : (fuel : Nat) → Act Unit
  | 0 => return
  | fuel + 1 => do
      let state ← get
      if state.jump.isSome then return
      else
        match state.arrived.mergeSort with
        | [] => return
        | number :: rest =>
            let status := state.status
            set { state with
              arrived := rest, savedStatus := some (state.savedStatus.getD status) }
            discard (runText fuel .plain ((state.traps.lookup number).getD []))
            modify fun after =>
              { after with
                savedStatus := state.savedStatus
                status := if after.jump = some .back then after.status else status }
            answer fuel

/-- Does something, and then what is to be done at the end of the shell. -/
def toExit : (fuel : Nat) → Act Unit → Act Unit
  | 0, _ => throw .exited
  | fuel + 1, act => do
      match ← toEnd act with
      | .killed signal => throw (.killed signal)
      | .exited status =>
          let state ← get
          match state.traps.lookup 0 with
          | none | some [] => throw .exited
          | some action =>
              set { state with
                traps := state.traps.filter (·.1 ≠ 0), jump := none, savedStatus := some status }
              discard (runText fuel .plain action)
              setStatus status
              throw .exited

def output : (fuel : Nat) → Runner
  | 0, _ => throw .exited
  | _, none => return []
  | fuel + 1, some command => do
      let first := (← get).nextProcess
      let (text, ended) ←
        capturing (toExit fuel (run fuel ⟨false, true⟩ (some command)))
          (runJobs fuel (first ≤ ·.shell.process))
      let status ← wait ended
      modify fun state => { state with outputStatus := status }
      return text

def runJobs : (fuel : Nat) → (isDue : Job → Bool) → Act Unit
  | 0, _ => return
  | fuel + 1, isDue => do
      let state ← get
      match state.jobs.find? isDue with
      | none => return
      | some job =>
          set { state with
            jobs := state.jobs.filter (·.shell.process ≠ job.shell.process) }
          let ended ← within job.shell <| toExit fuel do
            for lead in job.leads do
              perform (output fuel) fuel lead
            run fuel ⟨false, true⟩ job.command
          modify fun state =>
            { state with ended := ⟨job.owner, job.shell.process, ended⟩ :: state.ended }
          runJobs fuel isDue

/-- Waits for processes in the background, and tells the exit code of the last one. -/
def waitFor : (fuel : Nat) → (arguments : List Octets) → Act Nat
  | 0, _ => throw .exited
  | fuel + 1, arguments => do
      let options ← optionsOf "" arguments
      let before ← get
      runJobs fuel (·.owner = before.process)
      receive
      let mut status := 0
      for argument in options.rest do
        if argument.head? = some '%' then fail ("No such job: ".toList ++ argument)
        let number ← numberOf argument
        let state ← get
        match state.ended.find? fun job => job.process = number && job.owner = state.process with
        | none => status := 127
        | some job =>
            status := job.ended.status
            if before.jobs.any (·.shell.process = number) then tellEnd job.ended
      return status

def runShell : (fuel : Nat) → (name : Octets) → (arguments : List Octets) → Act Unit
  | 0, _, _ => throw .exited
  | fuel + 1, name, arguments => do
      let state ← get
      let shell :=
        freshShell name state.process state.directory state.environment state.descriptors
      let ended ← within shell <| toExit fuel do
        let invocation ← Invocation.read arguments
        let script : Octets ← match invocation.source with
          | .text script => pure script
          | .file path => scriptAt path
          | .input =>
              match (← get).read standardInput with
              | .ok (text, state) => do
                  set state
                  pure text
              | .error _ => pure []
        modify fun state =>
          { state with
            name := invocation.name.getD name, arguments := invocation.arguments }
        discard (runText fuel .plain script)
      match ended with
      | .exited status => setStatus status
      | .killed signal => throw (.killed signal)

end

end ModeSwitch.Host.Shell
