import ModeSwitch.Text.Unseen

/-! Quoted texts.

A text is quoted character by character: quotes, backslashes and the common controls get a letter
behind a backslash, unseen characters are written by their number in hexadecimal, and every other
character stands for itself.  So a quoted text never holds a line break, and no two texts share a
quoted form.
-/

namespace ModeSwitch.Text

def hexDigits (n : Nat) : List Char :=
  Nat.toDigits 16 n

/-- The written form of one character inside quotes. -/
def escapeChar (c : Char) : List Char :=
  if c = '"' then ['\\', '"']
  else if c = '\\' then ['\\', '\\']
  else if c = '\n' then ['\\', 'n']
  else if c = '\r' then ['\\', 'r']
  else if c = '\t' then ['\\', 't']
  else if c = '\x00' then ['\\', '0']
  else if isUnseen c then ['\\', 'u', '\x7b'] ++ hexDigits c.toNat ++ ['\x7d']
  else [c]

def quote (text : String) : String :=
  String.ofList ('"' :: text.toList.flatMap escapeChar ++ ['"'])

def quoteStrictly (text : String) : String :=
  let escape (c : Char) := if c = '\'' then ['\\', '\''] else escapeChar c
  String.ofList ('"' :: text.toList.flatMap escape ++ ['"'])

def quoteList (texts : List String) : String :=
  "[" ++ ", ".intercalate (texts.map quote) ++ "]"

end ModeSwitch.Text
