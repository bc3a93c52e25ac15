import ModeSwitch.Host.Shell.Command

/-! Home directories.

A tilde at the head of a word stands for a home directory: that of the user whose name follows, or, if
none does, the one that a variable names.  In an assignment this also holds behind the equals sign and
behind colons.
-/

namespace ModeSwitch.Host.Shell

def homes : List (String × String) :=
  [("root", "/root"), ("daemon", "/usr/sbin"), ("bin", "/bin"), ("sys", "/dev"), ("sync", "/bin"),
    ("games", "/usr/games"), ("man", "/var/cache/man"), ("lp", "/var/spool/lpd"),
    ("mail", "/var/mail"), ("news", "/var/spool/news"), ("uucp", "/var/spool/uucp"),
    ("proxy", "/bin"), ("www-data", "/var/www"), ("backup", "/var/backups"),
    ("list", "/var/list"), ("nobody", "/nonexistent")]

def home? (own : Option Octets) (name : Octets) : Option Octets :=
  if name = [] then own else (homes.lookup (String.ofList name)).map (·.toList)

/-- What a tilde would stand for at the place that has been reached in a word. -/
structure HomeSpot where
  /-- May a tilde stand for a home directory here? -/
  isOpen : Bool
  /-- May it behind the next equals sign? -/
  opensAtEquals : Bool
  /-- May it behind colons? -/
  opensAtColons : Bool
  deriving DecidableEq, Repr

namespace HomeSpot

def word : HomeSpot := ⟨true, false, false⟩

def assignment : HomeSpot := ⟨false, true, true⟩

def after (spot : HomeSpot) (c : Char) : HomeSpot :=
  if c = '=' && spot.opensAtEquals then ⟨true, false, true⟩
  else ⟨c = ':' && spot.opensAtColons, spot.opensAtEquals, spot.opensAtColons⟩

def closed (spot : HomeSpot) : HomeSpot :=
  { spot with isOpen := false }

def endsName (spot : HomeSpot) (c : Char) : Bool :=
  c = '/' || (c = ':' && spot.opensAtColons)

end HomeSpot

namespace Word

/-- The name of the user at the head of a word, if it is nothing but a name. -/
def userName? (spot : HomeSpot) : Word → Option Octets
  | [] => some []
  | .char c :: rest => if spot.endsName c then some [] else (userName? spot rest).map (c :: ·)
  | _ => none

def withHomesAfter (own : Option Octets) : (skipped : Nat) → (isQuoted : Bool) → HomeSpot → Word →
    Word
  | _, _, _, [] => []
  | skipped + 1, isQuoted, spot, _ :: rest => withHomesAfter own skipped isQuoted spot rest
  | 0, isQuoted, spot, .char c :: rest =>
      let home :=
        if c = '~' && spot.isOpen && !isQuoted then
          (userName? spot rest).bind fun name => (home? own name).map fun home => (name, home)
        else none
      match home with
      | some (name, home) =>
          home.map .fixed ++ withHomesAfter own name.length isQuoted spot.closed rest
      | none =>
          .char c :: withHomesAfter own 0 isQuoted (if isQuoted then spot.closed else spot.after c) rest
  | 0, isQuoted, spot, .mark :: rest =>
      .mark :: withHomesAfter own 0 (!isQuoted) spot.closed rest
  | 0, isQuoted, spot, piece :: rest =>
      piece :: withHomesAfter own 0 isQuoted spot.closed rest

def withHomes (own : Option Octets) (isQuoted : Bool) (spot : HomeSpot) (word : Word) : Word :=
  withHomesAfter own 0 isQuoted spot word

end Word

end ModeSwitch.Host.Shell
