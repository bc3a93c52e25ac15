import ModeSwitch.Text.Utf8

/-! Texts of bytes.

A shell knows no characters beyond bytes: it counts, splits and matches bytes.  A text of bytes is
written with one character for each byte, so that it can be compared with other texts.
-/

namespace ModeSwitch.Host.Shell

abbrev Octets := List Char

namespace Octets

def ofBytes (bytes : List UInt8) : Octets :=
  bytes.map fun byte => Char.ofNat byte.toNat

def ofText (text : String) : Octets :=
  ofBytes (Text.Utf8.encode text)

def bytes (octets : Octets) : List UInt8 :=
  octets.map fun c => c.toNat.toUInt8

def text (octets : Octets) : String :=
  Text.Utf8.decodeLenient octets.bytes

def joined (separator : Octets) : List Octets → Octets
  | [] => []
  | [part] => part
  | part :: rest => part ++ separator ++ joined separator rest

end Octets

def beginsName (c : Char) : Bool :=
  c.isAlpha || c = '_'

def isNameChar (c : Char) : Bool :=
  c.isAlphanum || c = '_'

def isName (octets : Octets) : Bool :=
  octets.head?.any beginsName && octets.all isNameChar

end ModeSwitch.Host.Shell
