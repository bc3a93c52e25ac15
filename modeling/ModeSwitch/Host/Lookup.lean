import ModeSwitch.Host.FileTree

/-! Where programs are found.

A command is the path of a program, or a bare name, which is looked for in some directories.
-/

namespace ModeSwitch.Host

/-- The name of the program that a file is; nothing else can be run. -/
def FileNode.program? : FileNode → Except SystemError String
  | .program name => .ok name
  | .file _ | .directory | .link _ | .sink | .full => .error .denied

namespace Lookup

def directories : List String :=
  ["/usr/local/sbin", "/usr/local/bin", "/usr/sbin", "/usr/bin", "/sbin", "/bin"]

structure Found where
  path : String
  /-- Its name. -/
  program : String
  deriving DecidableEq, Repr

def atPath (tree : FileTree) (start : List String) (path : String) : Except SystemError Found := do
  let (_, node) ← tree.findIn start path
  return ⟨path, ← node.program?⟩

/-- The path of a name in a directory; the directory without a name is the present one. -/
def pathIn (directory name : String) : String :=
  if directory = "" then name else directory ++ "/" ++ name

/-- Looks for a program in directories.  Something there that is no program is told only if none is
found. -/
def search (tree : FileTree) (start : List String) (name : String) (cause : SystemError) :
    List String → Except SystemError Found
  | [] => .error cause
  | directory :: rest =>
      let path := pathIn directory name
      match tree.findIn start path with
      | .error _ => search tree start name cause rest
      | .ok (_, node) =>
          match node.program? with
          | .ok program => .ok ⟨path, program⟩
          | .error cause => search tree start name cause rest

def program (tree : FileTree) (start directories : List String) (command : String) :
    Except SystemError Found :=
  if command = "" then .error .noEntry
  else if command.contains '/' then atPath tree start command
  else if FileTree.maxName < command.utf8ByteSize then .error .nameTooLong
  else search tree start command .noEntry directories

end Lookup

end ModeSwitch.Host
