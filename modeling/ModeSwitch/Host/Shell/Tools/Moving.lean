import ModeSwitch.Host.Shell.Tools.Files
import ModeSwitch.Host.Shell.Tools.Words

/-! Programs that give files other places, or second ones.

Each takes sources and a target.  A target that is a directory takes the sources in under their own
names.
-/

namespace ModeSwitch.Host.Shell.Tools

def pathInside (directory name : Octets) : Octets :=
  if directory.getLast? = some '/' then directory ++ name else directory ++ '/' :: name

/-- The sources that operands name, each with its target; `problem` says that there are too few of
them. -/
def sourcesAndTargets (name : Octets) (given : Given) :
    Act (Except Nat (List (Octets × Octets))) := do
  let state ← get
  let isDirectory (path : Octets) : Bool :=
    match state.tree.findIn state.directory (Octets.text path) with
    | .ok (_, .directory) => true
    | .ok _ | .error _ => false
  let inside (directory : Octets) (sources : List Octets) : List (Octets × Octets) :=
    sources.map fun source => (source, pathInside directory (lastName source))
  match given.argument? 't', given.operands.reverse with
  | none, [] | some _, [] => return .error (← misused name "missing file operand")
  | some directory, sources => return .ok (inside directory sources.reverse)
  | none, [operand] =>
      return .error (← misused name ("missing destination file operand after " ++ quotedName operand))
  | none, target :: sources =>
      if isDirectory target && !given.has 'T' then return .ok (inside target sources.reverse)
      else
        match sources with
        | [source] => return .ok [(source, target)]
        | _ =>
            let cause := match state.tree.findIn state.directory (Octets.text target) with
              | .ok _ => SystemError.notDirectory
              | .error cause => cause
            return .error (← complainAs name ("target " ++ quotedName target ++ ": " ++ cause.words))

def forSources (name : Octets) (given : Given)
    (act : (source target : Octets) → Act Nat) : Act Nat := do
  match ← sourcesAndTargets name given with
  | .error status => return status
  | .ok pairs =>
      let mut status := 0
      for (source, target) in pairs do
        status := max status (← act source target)
      return status

/-- Where a path leads, or would lead if there were something; a link at its end is not followed. -/
def placeFor (state : State) (path : Octets) : Except SystemError (List String) :=
  let text := Octets.text path
  let start := FileTree.startIn state.directory text
  match state.tree.entry? start (FileTree.namesOf text) with
  | some place => .ok place
  | none =>
      match state.tree.locate state.directory text with
      | .ok (place, _) => .ok place
      | .error cause => .error (if path.getLast? = some '/' then .notDirectory else cause)

def areSame (name source target : Octets) : Act Nat :=
  complainAs name (quotedName source ++ " and " ++ quotedName target ++ " are the same file")

/-- Complains about a directory where there is something else, or the other way round. -/
def cannotOverwrite (name source target : Octets) (isDirectory : Bool) : Act Nat :=
  complainAs name (if isDirectory then
      "cannot overwrite non-directory " ++ quotedName target ++ " with directory " ++ quotedName source
    else "cannot overwrite directory " ++ quotedName target ++ " with non-directory")

/-! ## Copies -/

def copyFile (name source target : Octets) (place : List String) : Act Nat := do
  let state ← get
  match state.tree.locate state.directory (Octets.text target) with
  | .error .notDirectory =>
      complainAs name ("cannot stat " ++ quotedName target ++ ": " ++ SystemError.notDirectory.words)
  | .error cause =>
      let cause := if target.getLast? = some '/' then .notDirectory else cause
      complainAs name ("cannot create regular file " ++ quotedName target ++ ": " ++ cause.words)
  | .ok (_, some .directory) => cannotOverwrite name source target false
  | .ok (other, _) =>
      if other = place then areSame name source target
      else
        match ← readOperand source with
        | .error cause =>
            complainAs name ("cannot open " ++ quotedName source ++ " for reading: " ++ cause.words)
        | .ok text =>
            match openPath (← get) .write target with
            | .error cause =>
                complainAs name ("cannot create regular file " ++ quotedName target ++ ": "
                  ++ cause.words)
            | .ok (opened, number) =>
                match if text = [] then .ok opened else opened.writeChannel number text with
                | .ok written =>
                    set (written.dropChannel number)
                    return 0
                | .error cause =>
                    complainAs name ("error writing " ++ quotedName target ++ ": " ++ cause.words)

/-- Copies files, and directories with all that is in them if that is asked for. -/
def cp : Tool :=
  withOptions ⟨"afprRt:Tuv", [("archive", 'a'), ("force", 'f'), ("recursive", 'r'),
    ("target-directory", 't'), ("no-target-directory", 'T')], 1⟩ fun name given => do
    let isRecursive := given.has 'a' || given.has 'r' || given.has 'R'
    forSources name given fun source target => do
      let state ← get
      match state.tree.findIn state.directory (Octets.text source) with
      | .error cause =>
          complainAs name ("cannot stat " ++ quotedName source ++ ": " ++ cause.words)
      | .ok (place, .directory) =>
          if !isRecursive then
            complainAs name ("-r not specified; omitting directory " ++ quotedName source)
          else
            match state.tree.locate state.directory (Octets.text target) with
            | .error cause =>
                complainAs name ("cannot create directory " ++ quotedName target ++ ": " ++ cause.words)
            | .ok (other, node) =>
                if place.isPrefixOf other then
                  complainAs name ("cannot copy a directory, " ++ quotedName source ++ ", into itself, "
                    ++ quotedName target)
                else if node.isSome && node ≠ some .directory then
                  cannotOverwrite name source target true
                else
                  set { state with tree := state.tree.copyAll place other }
                  return 0
      | .ok (place, _) => copyFile name source target place

/-! ## Other places -/

def mv : Tool :=
  withOptions ⟨"fint:Tuv", [("force", 'f'), ("no-clobber", 'n'), ("target-directory", 't'),
    ("no-target-directory", 'T')], 1⟩ fun name given => do
    forSources name given fun source target => do
      let state ← get
      let refuse (words : String) : Act Nat :=
        complainAs name ("cannot move " ++ quotedName source ++ " to " ++ words)
      match entryAt state source, placeFor state target with
      | .error cause, _ =>
          complainAs name ("cannot stat " ++ quotedName source ++ ": " ++ cause.words)
      | .ok _, .error cause => refuse (quotedName target ++ ": " ++ cause.words)
      | .ok (place, node), .ok other =>
          let isDirectory := node = .directory
          if isDirectory && place.isPrefixOf other then
            refuse ("a subdirectory of itself, " ++ quotedName target)
          else if place = other then areSame name source target
          else
            match state.tree.node? other with
            | none =>
                set { state with tree := state.tree.moveAll place other }
                return 0
            | some found =>
                if given.has 'n' then return 0
                else if isDirectory ≠ decide (found = .directory) then
                  cannotOverwrite name source target isDirectory
                else if isDirectory && !(state.tree.namesIn other).isEmpty then
                  complainAs name ("cannot overwrite " ++ quotedName target ++ ": Directory not empty")
                else
                  set { state with tree := state.tree.moveAll place other }
                  return 0

/-! ## Second places -/

/-- Makes links.  A second name of a file is given the contents that the file has. -/
def ln : Tool :=
  withOptions ⟨"fnst:Tv", [("force", 'f'), ("no-dereference", 'n'), ("symbolic", 's'),
    ("target-directory", 't'), ("no-target-directory", 'T')], 1⟩ fun name given => do
    let isSymbolic := given.has 's'
    let operands := match given.operands with
      | [operand] => if (given.argument? 't').isSome then [operand] else [operand, ['.']]
      | operands => operands
    let kind := if isSymbolic then "symbolic link " else "hard link "
    forSources name { given with operands } fun source target => do
      let state ← get
      let refuse (words : String) : Act Nat :=
        complainAs name ("failed to create " ++ kind ++ quotedName target ++ words)
      let about := if isSymbolic then "" else " => " ++ quotedName source
      let node : Except SystemError FileNode :=
        if isSymbolic then .ok (.link (Octets.text source)) else (entryAt state source).map (·.2)
      match node, placeFor state target with
      | .error cause, _ =>
          complainAs name ("failed to access " ++ quotedName source ++ ": " ++ cause.words)
      | .ok .directory, _ =>
          complainAs name (shownName source ++ ": hard link not allowed for directory")
      | .ok _, .error cause => refuse (about ++ ": " ++ cause.words)
      | .ok node, .ok place =>
          match state.tree.node? place, given.has 'f' with
          | some .directory, _ | some _, false => refuse (": " ++ SystemError.fileExists.words)
          | _, _ =>
              set { state with tree := state.tree.put place node }
              return 0

end ModeSwitch.Host.Shell.Tools
