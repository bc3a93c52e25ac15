import ModeSwitch.Device
import ModeSwitch.Host.FileTree

/-! Attributes in files.

Each attribute is a file of the host.  The store notes what it reads and writes; a write replaces
the whole file and is noted before the file is opened.
-/

namespace ModeSwitch

open Host

/-- What is noted of a read: the text, if there is one. -/
def readEvents (path : AttrPath) : Except StoreError String → List Event
  | .ok text => [.attributeRead text path]
  | .error _ => []

/-- What is noted of a write, whether it goes through or not. -/
def writeEvents (path : AttrPath) (contents : String) : List Event :=
  [.attributeWritten contents path]

def fileStore : Store FileTree where
  probe path tree := ⟨some (tree.holds path.text), [], tree⟩
  read path tree :=
    let result := tree.readText path.text
    ⟨some result, readEvents path result, tree⟩
  write path contents tree :=
    match tree.writeText path.text contents with
    | .ok tree => ⟨some (.ok ()), writeEvents path contents, tree⟩
    | .error cause => ⟨some (.error cause), writeEvents path contents, tree⟩

inductive FileIntervention where
  | put (path : AttrPath) (node : FileNode)
  /-- Removes a file or a link; a directory stays. -/
  | remove (path : AttrPath)
  deriving DecidableEq, Repr

def FileIntervention.apply (change : FileIntervention) (tree : FileTree) : FileTree :=
  match change with
  | .put path node => tree.place path.text node
  | .remove path => tree.erase path.text

/-- What is found at a path from outside: nothing if it cannot be read. -/
def inspectFile (tree : FileTree) (path : AttrPath) : Option Contents :=
  match tree.find path.text with
  | .ok (_, .directory) => some .directory
  | .error _ => none
  | .ok _ =>
      match tree.readBytes path.text with
      | .error _ => none
      | .ok bytes =>
          match Text.Utf8.decode? bytes with
          | some text => some (.text text)
          | none => some (.bytes bytes)

end ModeSwitch
