import ModeSwitch.Host.Shell.Builtin
import ModeSwitch.Host.Shell.Condition
import ModeSwitch.Host.Shell.Format

/-! The builtins that write texts, and those that ask whether a condition holds. -/

namespace ModeSwitch.Host.Shell

def FileNode.facts (place : List String) (node : FileNode) : Condition.FileFacts where
  isFile := match node with
    | .file _ | .program _ => true
    | _ => false
  isDirectory := node = .directory
  isDevice := node = .sink || node = .full
  canBeRun := match node with
    | .program _ | .directory => true
    | _ => false
  isEmpty := match node with
    | .file bytes => bytes.isEmpty
    | .sink | .full => true
    | _ => false
  identity := place

def State.filesForConditions (state : State) : Condition.Files where
  facts? path :=
    match state.tree.findIn state.directory (Octets.text path) with
    | .ok (place, node) => some (FileNode.facts place node)
    | .error _ => none
  isLink path :=
    let text := Octets.text path
    match state.tree.entry? (FileTree.startIn state.directory text) (FileTree.namesOf text) with
    | some place =>
        match state.tree.node? place with
        | some (.link _) => true
        | _ => false
    | none => false

namespace Builtin

def echoCommand (arguments : List Octets) : Act Nat := do
  put (echo arguments)
  return 0

def printf (arguments : List Octets) : Act Nat := do
  let options ← optionsOf "" arguments
  match options.rest with
  | [] => fail "usage: printf format [arg ...]".toList
  | layout :: rest =>
      let formatted := format layout rest
      for (argument, fault) in formatted.faults do
        complain (fault.message argument)
      put formatted.text
      match formatted.broken with
      | some directive => fail directive.message
      | none => return if formatted.faults.isEmpty then 0 else 1

def test (words : List Octets) : Act Nat := do
  match Condition.holds (← get).filesForConditions words with
  | .ok holds => return if holds then 0 else 1
  | .error problem => fail problem.message

def bracket (arguments : List Octets) : Act Nat :=
  if arguments.getLast? = some [']'] then test arguments.dropLast
  else fail "missing ]".toList

end Builtin

end ModeSwitch.Host.Shell
