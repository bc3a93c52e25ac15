/-! Reading bytes as UTF-8.

Bytes fall into pieces: each piece is a character, or a longest run of bytes that begins the
encoding of some character and then breaks off, or a single byte that begins none.  Strict reading
accepts only characters; lenient reading puts the replacement character for every other piece.
-/

namespace ModeSwitch.Text.Utf8

/-- A character whose first bytes have been read. -/
structure Pending where
  /-- The value of the bits read so far. -/
  bits : Nat
  /-- How many bytes are still to come, at least one. -/
  missing : Nat
  /-- The least next byte that continues the character. -/
  low : Nat
  /-- The greatest next byte that continues the character. -/
  high : Nat

/-- What a byte begins: a character of one byte, a longer one, or nothing.  The bounds on the
second byte leave out overlong forms, surrogates, and numbers beyond the last code point. -/
def start (b : Nat) : Except (Option Char) Pending :=
  if b < 0x80 then .error (some (Char.ofNat b))
  else if 0xC2 ≤ b && b ≤ 0xDF then .ok ⟨b - 0xC0, 1, 0x80, 0xBF⟩
  else if b = 0xE0 then .ok ⟨0, 2, 0xA0, 0xBF⟩
  else if b = 0xED then .ok ⟨0xD, 2, 0x80, 0x9F⟩
  else if 0xE1 ≤ b && b ≤ 0xEF then .ok ⟨b - 0xE0, 2, 0x80, 0xBF⟩
  else if b = 0xF0 then .ok ⟨0, 3, 0x90, 0xBF⟩
  else if 0xF1 ≤ b && b ≤ 0xF3 then .ok ⟨b - 0xF0, 3, 0x80, 0xBF⟩
  else if b = 0xF4 then .ok ⟨4, 3, 0x80, 0x8F⟩
  else .error none

/-- The pieces of the bytes after an optional unfinished character; `none` stands for a piece that
is no character. -/
def piecesAfter : Option Pending → List UInt8 → List (Option Char)
  | none, [] => []
  | some _, [] => [none]
  | pending, byte :: rest =>
      let b := byte.toNat
      let fresh :=
        match start b with
        | .error piece => piece :: piecesAfter none rest
        | .ok begun => piecesAfter (some begun) rest
      match pending with
      | none => fresh
      | some p =>
          if p.low ≤ b && b ≤ p.high then
            let bits := p.bits * 64 + (b - 0x80)
            if p.missing ≤ 1 then some (Char.ofNat bits) :: piecesAfter none rest
            else piecesAfter (some ⟨bits, p.missing - 1, 0x80, 0xBF⟩) rest
          else none :: fresh

def pieces (bytes : List UInt8) : List (Option Char) :=
  piecesAfter none bytes

/-- The text of the bytes, if every piece is a character. -/
def decode? (bytes : List UInt8) : Option String :=
  ((pieces bytes).mapM id).map String.ofList

/-- The text of the bytes, with the replacement character for every piece that is no character. -/
def decodeLenient (bytes : List UInt8) : String :=
  String.ofList ((pieces bytes).map (·.getD '\ufffd'))

def encode (text : String) : List UInt8 :=
  text.toUTF8.toList

end ModeSwitch.Text.Utf8
