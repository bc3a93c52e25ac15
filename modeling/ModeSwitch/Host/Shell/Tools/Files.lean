import ModeSwitch.Host.Shell.Tools.Given

/-! Programs that tell what files and directories there are, that make them, and that remove them. -/

namespace ModeSwitch.Host.Shell.Tools

/-- What stands at the last name of a path, which is not followed if it is that of a link. -/
def entryAt (state : State) (path : Octets) : Except SystemError (List String × FileNode) :=
  let text := Octets.text path
  let start := FileTree.startIn state.directory text
  match state.tree.entry? start (FileTree.namesOf text) with
  | none => state.tree.findIn state.directory text
  | some place =>
      match state.tree.node? place with
      | some node => .ok (place, node)
      | none => .error .noEntry

/-! ## Telling -/

def inOrder (texts : List Octets) : List Octets :=
  texts.mergeSort fun a b => !(b < a)

/-- The names in a directory that are shown; those that begin with a dot only if that is asked for. -/
def shownNames (given : Given) (state : State) (place : List String) : List Octets :=
  let names := (state.tree.namesIn place).map Octets.ofText
  if given.has 'a' then inOrder (['.'] :: ['.', '.'] :: names)
  else inOrder (names.filter fun name => given.has 'A' || name.head? ≠ some '.')

def ls : Tool :=
  withOptions ⟨"aACdfFlprRtUx1", [("all", 'a'), ("almost-all", 'A'), ("directory", 'd'),
    ("reverse", 'r'), ("recursive", 'R')], 2⟩ fun name given => do
    let operands := if given.operands.isEmpty then [['.']] else given.operands
    let mut status := 0
    let mut files : List Octets := []
    let mut directories : List (Octets × List String) := []
    for operand in operands do
      let state ← get
      match tryCatch (state.tree.findIn state.directory (Octets.text operand)) fun _ =>
          entryAt state operand with
      | .error cause =>
          discard (complainAs name ("cannot access " ++ quotedName operand ++ ": " ++ cause.words))
          status := 2
      | .ok (place, .directory) =>
          if given.has 'd' then files := operand :: files
          else directories := (operand, place) :: directories
      | .ok _ => files := operand :: files
    let turned {α : Type} (items : List α) : List α := if given.has 'r' then items.reverse else items
    let lines (names : List Octets) : Octets := (turned names).flatMap (· ++ ['\n'])
    let state ← get
    let fileLines := lines (inOrder files)
    let groups := (turned (directories.mergeSort fun a b => !(b.1 < a.1))).map fun (operand, place) =>
      (if 1 < operands.length then operand ++ [':', '\n'] else [])
        ++ lines (shownNames given state place)
    let parts := if files.isEmpty then groups else fileLines :: groups
    return max status (← writeOut name (Octets.joined ['\n'] parts))

/-! ## Making -/

def touch : Tool :=
  withOptions ⟨"acmd:r:t:fh", [("no-create", 'c'), ("date", 'd'), ("no-dereference", 'h'),
    ("reference", 'r')], 1⟩ fun name given => do
    if given.operands.isEmpty then misused name "missing file operand"
    else
      let mut status := 0
      for operand in given.operands do
        let state ← get
        match state.tree.locate state.directory (Octets.text operand) with
        | .ok (_, some _) => pure ()
        | .ok (place, none) =>
            if !given.has 'c' then set (state.setFile place [])
        | .error cause =>
            if !(given.has 'c' && cause = .noEntry) then
              let isMissing := cause = .noEntry && operand.getLast? = some '/'
              let problem := if isMissing then "setting times of " else "cannot touch "
              status ← complainAs name (problem ++ quotedName operand ++ ": " ++ cause.words)
      return status

/-- Makes directories, and those above them if that is asked for. -/
def mkdir : Tool :=
  withOptions ⟨"m:pv", [("mode", 'm'), ("parents", 'p'), ("verbose", 'v')], 1⟩ fun name given => do
    if given.operands.isEmpty then misused name "missing operand"
    else
      let mut status := 0
      for operand in given.operands do
        let state ← get
        let text := Octets.text operand
        let start := FileTree.startIn state.directory text
        let names := (FileTree.namesOf text).filter (· ≠ "")
        let refuse (cause : SystemError) : Act Nat :=
          complainAs name ("cannot create directory " ++ quotedName operand ++ ": " ++ cause.words)
        if text = "" then status ← refuse .noEntry
        else if given.has 'p' then
          let heads := (FileTree.above names).tail ++ [names]
          let tree := heads.foldl (fun tree head => tree.makeDirectory start head) state.tree
          set { state with tree }
          let isDirectory (head : List String) : Bool :=
            match tree.follow FileTree.maxLinks start head with
            | .ok (_, some .directory) => true
            | .ok _ | .error _ => false
          match heads.find? (!isDirectory ·) with
          | none => pure ()
          | some head =>
              let path := (if text.startsWith "/" then "/" else "") ++ "/".intercalate head
              let cause : SystemError := if head = names then .fileExists else .notDirectory
              status ← complainAs name ("cannot create directory "
                ++ quotedName (Octets.ofText path) ++ ": " ++ cause.words)
        else
          match state.tree.follow FileTree.maxLinks start names with
          | .ok (_, some _) => status ← refuse .fileExists
          | .ok (place, none) => set { state with tree := state.tree.put place .directory }
          | .error cause => status ← refuse cause
      return status

/-! ## Removing -/

def isKept (path : Octets) : Bool :=
  let trimmed := (path.reverse.dropWhile (· = '/')).reverse
  let last := (trimmed.reverse.takeWhile (· ≠ '/')).reverse
  last = ['.'] || last = ['.', '.']

/-- Removes files, and directories with all that is in them if that is asked for. -/
def rm : Tool :=
  withOptions ⟨"dfiIrRv", [("dir", 'd'), ("force", 'f'), ("recursive", 'r'), ("verbose", 'v')], 1⟩
    fun name given => do
    if given.operands.isEmpty then
      if given.has 'f' then return 0 else misused name "missing operand"
    else
      let isRecursive := given.has 'r' || given.has 'R'
      let mut status := 0
      for operand in given.operands do
        let state ← get
        let refuse (cause : SystemError) : Act Nat :=
          complainAs name ("cannot remove " ++ quotedName operand ++ ": " ++ cause.words)
        match entryAt state operand with
        | .error cause =>
            if !(given.has 'f' && (cause = .noEntry || cause = .notDirectory)) then
              status ← refuse cause
        | .ok (place, .directory) =>
            if !isRecursive then status ← refuse .isDirectory
            else if isKept operand then
              status ← complainAs name ("refusing to remove '.' or '..' directory: skipping "
                ++ quotedName operand)
            else set { state with tree := state.tree.removeAll place }
        | .ok (place, _) => set { state with tree := state.tree.remove place }
      return status

def rmdir : Tool :=
  withOptions ⟨"pv", [("parents", 'p'), ("verbose", 'v')], 1⟩ fun name given => do
    if given.operands.isEmpty then misused name "missing operand"
    else
      let mut status := 0
      for operand in given.operands do
        let state ← get
        let refuse (words : String) : Act Nat :=
          complainAs name ("failed to remove " ++ quotedName operand ++ ": " ++ words)
        match entryAt state operand with
        | .error cause => status ← refuse cause.words
        | .ok (place, .directory) =>
            if (operand.reverse.takeWhile (· ≠ '/')) = ['.'] then status ← refuse "Invalid argument"
            else if !(state.tree.namesIn place).isEmpty then status ← refuse "Directory not empty"
            else set { state with tree := state.tree.remove place }
        | .ok _ => status ← refuse SystemError.notDirectory.words
      return status

end ModeSwitch.Host.Shell.Tools
