import ModeSwitch.Host.Shell.Octets

/-! Names in complaints.

A program that complains about a name writes it in such a way that a shell would read it as that name
again.  A text that is no name of a file is written between quotes, with backslashes in front of what
is not plain.
-/

namespace ModeSwitch.Host.Shell.Tools

def isPrinted (c : Char) : Bool :=
  0x20 ≤ c.toNat && c.toNat < 0x7F

/-- What stands behind a backslash for a byte that cannot be printed: a letter, or three digits. -/
def escapedByte (c : Char) : Octets :=
  let letters : List (Char × Char) :=
    [('\x07', 'a'), ('\x08', 'b'), ('\x0c', 'f'), ('\n', 'n'), ('\r', 'r'), ('\t', 't'), ('\x0b', 'v')]
  match letters.lookup c with
  | some letter => [letter]
  | none =>
      let n := c.toNat
      [Nat.digitChar (n / 64), Nat.digitChar (n / 8 % 8), Nat.digitChar (n % 8)]

def named (text : Octets) : String :=
  let inner := text.flatMap fun c =>
    if c = '\'' || c = '\\' then ['\\', c]
    else if isPrinted c then [c]
    else '\\' :: escapedByte c
  String.ofList ('\'' :: inner ++ ['\''])

/-- Has a character of a name a sense of its own for a shell?  Some have one only at the head of a
name, others only by themselves. -/
def isSpecialInName (isFirst isOnly : Bool) (c : Char) : Bool :=
  if !isPrinted c then true
  else if c = '\x7b' || c = '\x7d' then isOnly
  else if c = '#' || c = '~' then isFirst
  else " ?\\'!\"$&()*;<=>[^\x60|".contains c

/-- Has a character the same sense between either kind of quotes? -/
def isPlainBetweenQuotes (isFirst isOnly : Bool) (c : Char) : Bool :=
  c = '\'' || c = ' '
    || if "#~".contains c then isFirst
      else if "\x7b\x7d".contains c then isOnly
      else !isSpecialInName true true c

/-- Does a test hold for a character of a name?  It is told whether the character is the first, and
whether it is the only one. -/
def anyInName (test : (isFirst isOnly : Bool) → Char → Bool) (name : Octets) : Bool :=
  match name with
  | [] => false
  | [c] => test true true c
  | c :: rest => test true false c || rest.any (test false false)

/-- The inside of a name between simple quotes.  Bytes that cannot be printed stand between quotes of
their own, with a dollar sign in front; `isApart` tells whether such quotes are open. -/
def insideQuotes (isApart : Bool) : Octets → Octets
  | [] => []
  | c :: rest =>
      if c = '\'' then "'\\''".toList ++ insideQuotes false rest
      else if isPrinted c then (if isApart then ['\'', '\''] else []) ++ c :: insideQuotes false rest
      else (if isApart then [] else "'$'".toList) ++ '\\' :: escapedByte c ++ insideQuotes true rest

def quotedName (name : Octets) : String :=
  let hasQuote := name.contains '\''
  if hasQuote && !anyInName (fun isFirst isOnly c => !isPlainBetweenQuotes isFirst isOnly c) name then
    String.ofList ('"' :: name ++ ['"'])
  else
    let isApart := hasQuote && name.getLast?.any (!isPrinted ·)
    String.ofList ('\'' :: insideQuotes isApart name ++ ['\''])

/-- A name as it is, or between quotes if it needs them. -/
def shownName (name : Octets) : String :=
  if name = [] || anyInName isSpecialInName name then quotedName name else String.ofList name

end ModeSwitch.Host.Shell.Tools
