import ModeSwitch.Failure
import ModeSwitch.Text.Utf8

/-! The files of a host.

A tree is a table from the names that lead to a file from the root to what stands there.  A path is
followed name by name: links are replaced by what they lead to, a step through anything but a
directory is refused, and a name after the last separator asks for a directory.
-/

namespace ModeSwitch.Host

/-- What stands at a place of a file tree. -/
inductive FileNode where
  | file (bytes : List UInt8)
  | directory
  | link (target : String)
  /-- A device that is always empty and swallows what is written to it. -/
  | sink
  /-- A device that never has room. -/
  | full
  /-- A program, told by its name. -/
  | program (name : String)
  deriving DecidableEq, Repr

/-- The files of a host, by the names that lead to them from the root.  The root itself and the
directory that relative paths start from are always there. -/
structure FileTree where
  nodes : List (List String × FileNode)
  deriving DecidableEq, Repr

namespace FileTree

/-- The directory that relative paths start from. -/
def workingDirectory : List String := ["work"]

def programs : List String :=
  ["sh", "dash", "env", "true", "false", "cat", "tac", "tee", "head", "tail", "wc", "cut", "fold",
    "paste", "tr", "sort", "uniq", "grep", "expr", "echo", "printf", "seq", "test", "[",
    "basename", "dirname", "printenv", "pwd", "sleep", "ls", "touch", "rm", "rmdir", "mkdir",
    "cp", "mv", "ln"]

def bare : FileTree :=
  ⟨[([], .directory), (workingDirectory, .directory), (["tmp"], .directory),
    (["etc"], .directory), (["sys"], .directory), (["proc"], .directory), (["usr"], .directory),
    (["root"], .directory), (["home"], .directory), (["var"], .directory), (["run"], .directory),
    (["opt"], .directory), (["usr", "local"], .directory), (["usr", "local", "bin"], .directory),
    (["usr", "local", "sbin"], .directory), (["usr", "sbin"], .directory),
    (["usr", "bin"], .directory), (["bin"], .link "usr/bin"), (["sbin"], .link "usr/sbin"),
    (["dev"], .directory), (["dev", "null"], .sink), (["dev", "full"], .full)]
    ++ programs.map fun name => (["usr", "bin", name], .program name)⟩

def node? (tree : FileTree) (place : List String) : Option FileNode :=
  tree.nodes.lookup place

def put (tree : FileTree) (place : List String) (node : FileNode) : FileTree :=
  ⟨(place, node) :: tree.nodes.filter (·.1 ≠ place)⟩

def remove (tree : FileTree) (place : List String) : FileTree :=
  ⟨tree.nodes.filter (·.1 ≠ place)⟩

/-- The tree without what stands at a place, and without all that stands below it. -/
def removeAll (tree : FileTree) (place : List String) : FileTree :=
  ⟨tree.nodes.filter fun entry => !place.isPrefixOf entry.1⟩

/-- What stands at a place and below it, as it would stand at another place. -/
def nodesMoved (tree : FileTree) (source target : List String) : List (List String × FileNode) :=
  (tree.nodes.filter fun entry => source.isPrefixOf entry.1).map fun (place, node) =>
    (target ++ place.drop source.length, node)

/-- The tree with all that stands at a place and below it standing at another place too. -/
def copyAll (tree : FileTree) (source target : List String) : FileTree :=
  (tree.nodesMoved source target).foldr (fun (place, node) tree => tree.put place node) tree

/-- The tree with all that stands at a place and below it standing at another place instead. -/
def moveAll (tree : FileTree) (source target : List String) : FileTree :=
  ⟨tree.nodesMoved source target ++ ((tree.removeAll source).removeAll target).nodes⟩

/-- The names of a path in order; an empty name stands for a separator that nothing follows. -/
def namesOf (path : String) : List String :=
  (AttrPath.pieces path.toList).map String.ofList

/-- The greatest number of bytes of a name. -/
def maxName : Nat := 255

/-- The number of bytes that a path stays below. -/
def maxPath : Nat := 4096

/-- Follows names from a place, through at most `links` links.  What is found is a place and what
stands there; if only the last name is missing, the place is where it would stand. -/
def follow (tree : FileTree) (links : Nat) (place : List String) (names : List String) :
    Except SystemError (List String × Option FileNode) :=
  match names with
  | [] => .ok (place, tree.node? place)
  | name :: rest =>
      if tree.node? place ≠ some .directory then .error .notDirectory
      else if name = "" ∨ name = "." then follow tree links place rest
      else if name = ".." then follow tree links place.dropLast rest
      else if maxName < name.utf8ByteSize then .error .nameTooLong
      else
        let next := place ++ [name]
        match tree.node? next with
        | some (.link target) =>
            match links with
            | 0 => .error .linkLoop
            | links + 1 =>
                follow tree links (if target.startsWith "/" then [] else place)
                  (namesOf target ++ rest)
        | some node => if rest = [] then .ok (next, some node) else follow tree links next rest
        | none => if rest = [] then .ok (next, none) else .error .noEntry
termination_by (links, names.length)

/-- The number of links that a path may lead through. -/
def maxLinks : Nat := 40

def startIn (directory : List String) (path : String) : List String :=
  if path.startsWith "/" then [] else directory

def startOf (path : String) : List String :=
  startIn workingDirectory path

/-- Follows a path in a directory to a place, and to what stands there, if anything does. -/
def locate (tree : FileTree) (directory : List String) (path : String) :
    Except SystemError (List String × Option FileNode) :=
  if path = "" then .error .noEntry
  else if maxPath ≤ path.utf8ByteSize then .error .nameTooLong
  else tree.follow maxLinks (startIn directory path) (namesOf path)

def findIn (tree : FileTree) (directory : List String) (path : String) :
    Except SystemError (List String × FileNode) :=
  match tree.locate directory path with
  | .error cause => .error cause
  | .ok (place, some node) => .ok (place, node)
  | .ok (_, none) => .error .noEntry

def find (tree : FileTree) (path : String) : Except SystemError (List String × FileNode) :=
  tree.findIn workingDirectory path

def namesIn (tree : FileTree) (place : List String) : List String :=
  tree.nodes.filterMap fun (other, _) =>
    if other ≠ [] && other.dropLast = place then other.getLast? else none

/-- The place of names that are followed from another one, but for the last, which may be that of a
link. -/
def entry? (tree : FileTree) (start names : List String) : Option (List String) :=
  match names.getLast? with
  | none => none
  | some name =>
      if name = "" ∨ name = "." ∨ name = ".." then none
      else
        match tree.follow maxLinks start names.dropLast with
        | .ok (place, some .directory) => some (place ++ [name])
        | .ok _ | .error _ => none

def holds (tree : FileTree) (path : String) : Bool :=
  !path.contains '\x00' && (tree.find path).isOk

/-- What the file of every program begins with; it is no text. -/
def programBytes : List UInt8 := [0x7F, 0x45, 0x4C, 0x46, 0xFF]

def readBytes (tree : FileTree) (path : String) : Except SystemError (List UInt8) :=
  match tree.find path with
  | .error cause => .error cause
  | .ok (_, .file bytes) => .ok bytes
  | .ok (_, .directory) => .error .isDirectory
  | .ok (_, .link _) => .error .linkLoop
  | .ok (_, .sink) | .ok (_, .full) => .ok []
  | .ok (_, .program _) => .ok programBytes

def readText (tree : FileTree) (path : String) : Except StoreError String :=
  if path.contains '\x00' then .error .nulInPath
  else
    match tree.readBytes path with
    | .error cause => .error (.system cause)
    | .ok bytes =>
        match Text.Utf8.decode? bytes with
        | some text => .ok text
        | none => .error .notText

/-- Replaces the whole contents of the file at a path; a missing file is never created. -/
def writeText (tree : FileTree) (path : String) (text : String) :
    Except StoreError FileTree :=
  if path.contains '\x00' then .error .nulInPath
  else
    match tree.find path with
    | .error cause => .error (.system cause)
    | .ok (place, .file _) => .ok (tree.put place (.file (Text.Utf8.encode text)))
    | .ok (_, .directory) => .error (.system .isDirectory)
    | .ok (_, .link _) => .error (.system .linkLoop)
    | .ok (_, .sink) => .ok tree
    | .ok (_, .full) => if text = "" then .ok tree else .error (.system .noSpace)
    | .ok (_, .program _) => .error (.system .denied)

/-! ## From outside -/

/-- The tree with a directory, unless something is there or it would stand nowhere. -/
def makeDirectory (tree : FileTree) (start names : List String) : FileTree :=
  match tree.entry? start names with
  | some place => if (tree.node? place).isSome then tree else tree.put place .directory
  | none => tree

/-- The names that lead to what is above the last of some names, the outermost first. -/
def above (names : List String) : List (List String) :=
  (List.range names.length).map (names.take ·)

/-- Puts something at a path, with the directories above it.  A file is put behind links, and may
replace one; a directory is only made where there is nothing. -/
def place (tree : FileTree) (path : String) (node : FileNode) : FileTree :=
  let start := startOf path
  let names := namesOf path
  let tree := (above names).foldl (fun tree head => tree.makeDirectory start head) tree
  match node with
  | .directory => tree.makeDirectory start names
  | .file _ =>
      match tree.follow maxLinks start names with
      | .ok (place, none) | .ok (place, some (.file _)) => tree.put place node
      | .ok _ | .error _ => tree
  | .link _ | .sink | .full | .program _ =>
      match tree.entry? start names with
      | some place => tree.put place node
      | none => tree

/-- Removes the file or the link at a path; a directory stays. -/
def erase (tree : FileTree) (path : String) : FileTree :=
  match tree.entry? (startOf path) (namesOf path) with
  | none => tree
  | some place => if tree.node? place = some .directory then tree else tree.remove place

end FileTree

end ModeSwitch.Host
