import ModeSwitch.Text.Utf8
import ModeSwitch.Yaml.Source
import ModeSwitch.Yaml.Token

/-! Anchors, aliases, tags and directives.

A tag is a handle, which a directive lets stand for a stem, and a suffix; or it is written out in
full between brackets, and then its handle is empty.
-/

namespace ModeSwitch.Yaml

/-- What a tag or a directive is read for: a fault in a directive is told in other words. -/
inductive TagUse where
  | property
  | declaration
  deriving DecidableEq, Repr

/-- Ends a step of reading with a fault at the cursor, unless `expected` holds. -/
def Cursor.require (cursor : Cursor) (expected : Bool) (fault : Fault) (activity : Activity)
    (begun : Position) : Except Problem Unit :=
  if expected then .ok () else .error (cursor.problem fault activity begun)

/-! ## Names -/

def endsName : List Char → Bool
  | [] => true
  | c :: _ => isGap c || "?:,]\x7d%@\x60".contains c

/-- Reads an anchor or an alias; the cursor is at its mark. -/
def readName (activity : Activity) (kind : String → TokenKind) (cursor : Cursor) :
    Except Problem (Token × Cursor) := do
  let begun := cursor.position
  let (name, cursor) := cursor.next.takeWhile isNameChar
  cursor.require (name ≠ [] && endsName cursor.rest) .nameMissing activity begun
  return (⟨kind (String.ofList name), begun, cursor.position⟩, cursor)

/-! ## Tags -/

def octetCount? (octet : Nat) : Option Nat :=
  if octet < 0x80 then some 1
  else if 0xC0 ≤ octet && octet < 0xE0 then some 2
  else if 0xE0 ≤ octet && octet < 0xF0 then some 3
  else if 0xF0 ≤ octet && octet < 0xF8 then some 4
  else none

def charOfOctets? (octets : List Nat) : Option Char :=
  match (Text.Utf8.decode? (octets.map UInt8.ofNat)).map String.toList with
  | some [c] => some c
  | _ => none

/-- Reads `count` more octets of a character behind those in `octets`, latest first.  Each is a
percent sign and two digits. -/
def readOctets (activity : Activity) (begun : Position) (cursor : Cursor) (octets : List Nat) :
    Nat → Except Problem (Option Char × Cursor)
  | 0 => .ok (charOfOctets? octets.reverse, cursor)
  | count + 1 =>
      match cursor.rest with
      | '%' :: a :: b :: _ =>
          match hexValue? a, hexValue? b with
          | some high, some low =>
              let octet := high * 16 + low
              if octet / 64 = 2 then
                readOctets activity begun (cursor.skip 3) (octet :: octets) count
              else .error (cursor.problem .trailingOctet activity begun)
          | _, _ => .error (cursor.problem .octetMissing activity begun)
      | _ => .error (cursor.problem .octetMissing activity begun)

/-- Reads a character that is written by its octets.  Only their form is checked, so that there may
be no such character. -/
def readEscapedChar (activity : Activity) (begun : Position) (cursor : Cursor) :
    Except Problem (Option Char × Cursor) :=
  match cursor.rest with
  | '%' :: a :: b :: _ =>
      match hexValue? a, hexValue? b with
      | some high, some low =>
          let octet := high * 16 + low
          match octetCount? octet with
          | some count =>
              readOctets activity begun (cursor.skip 3) [octet] (count - 1)
          | none => .error (cursor.problem .leadingOctet activity begun)
      | _, _ => .error (cursor.problem .octetMissing activity begun)
  | _ => .error (cursor.problem .octetMissing activity begun)

/-- May the character be part of a tag?  A comma and brackets only where `inFull` says that the tag
is written in full or declared. -/
def isTagChar (inFull : Bool) (c : Char) : Bool :=
  isNameChar c || ";/?:@&=+$.%!~*'()".contains c || (inFull && ",[]".contains c)

def TagUse.uriActivity : TagUse → Activity
  | .property => .tagUri
  | .declaration => .declaredTag

/-- Reads the parts of a tag, behind those in `done`, latest first; at most `fuel` of them. -/
def readTagParts (use : TagUse) (inFull : Bool) (begun : Position) :
    (fuel : Nat) → List (Option Char) → Cursor → Except Problem (List (Option Char) × Cursor)
  | 0, done, cursor => .ok (done.reverse, cursor)
  | fuel + 1, done, cursor =>
      match cursor.rest with
      | [] => .ok (done.reverse, cursor)
      | c :: _ =>
          if !isTagChar inFull c then .ok (done.reverse, cursor)
          else if c = '%' then do
            let (part, cursor) ← readEscapedChar use.uriActivity begun cursor
            readTagParts use inFull begun fuel (part :: done) cursor
          else readTagParts use inFull begun fuel (some c :: done) cursor.next

/-- Reads the part of a tag after `head`; together they must not be empty.  A character with the
number zero ends the text, and what follows it is lost. -/
def readTagUri (use : TagUse) (inFull : Bool) (begun : Position) (head : List Char)
    (cursor : Cursor) : Except Problem (TagText × Cursor) := do
  let (parts, after) ← readTagParts use inFull begun cursor.rest.length [] cursor
  after.require (head ≠ [] || parts ≠ []) .tagUriMissing use.uriActivity begun
  return (⟨((head.drop 1).map some ++ parts).takeWhile (· ≠ some '\x00')⟩, after)

/-- Reads a handle: a mark, and perhaps a name and a second mark. -/
def readHandle (use : TagUse) (begun : Position) (cursor : Cursor) :
    Except Problem (List Char × Cursor) := do
  let activity := match use with
    | .property => Activity.tag
    | .declaration => .declaredHandle
  cursor.require (cursor.rest.head? = some '!') .tagMarkMissing activity begun
  let (name, cursor) := cursor.next.takeWhile isNameChar
  match cursor.rest with
  | '!' :: _ => return ('!' :: name ++ ['!'], cursor.next)
  | _ =>
      cursor.require (use = .property || name = []) .tagMarkMissing .longHandle begun
      return ('!' :: name, cursor)

/-- Reads a tag written in full; the cursor is after its opening bracket. -/
def readFullTag (begun : Position) (cursor : Cursor) :
    Except Problem ((String × TagText) × Cursor) := do
  let (suffix, cursor) ← readTagUri .property true begun [] cursor
  cursor.require (cursor.rest.head? = some '>') .tagNotClosed .tag begun
  return (("", suffix), cursor.next)

/-- Reads a tag with a handle.  A name that no mark follows is the beginning of the suffix; a mark
by itself is a suffix too. -/
def readShortTag (begun : Position) (cursor : Cursor) :
    Except Problem ((String × TagText) × Cursor) := do
  let (handle, cursor) ← readHandle .property begun cursor
  if 1 < handle.length && handle.getLast? = some '!' then
    let (suffix, cursor) ← readTagUri .property false begun [] cursor
    return ((String.ofList handle, suffix), cursor)
  else
    let (suffix, cursor) ← readTagUri .property false begun handle cursor
    return (if suffix.parts = [] then ("", .ofString "!") else ("!", suffix), cursor)

/-- Reads a tag; the cursor is at its mark. -/
def readTag (inFlow : Bool) (cursor : Cursor) : Except Problem (Token × Cursor) := do
  let begun := cursor.position
  let ((handle, suffix), cursor) ← match cursor.rest with
    | _ :: '<' :: _ => readFullTag begun (cursor.skip 2)
    | _ => readShortTag begun cursor
  let isEnded := endsWord cursor.rest || (inFlow && cursor.rest.head? = some ',')
  cursor.require isEnded .blankOrBreakMissing .tag begun
  return (⟨.tag handle suffix, begun, cursor.position⟩, cursor)

/-! ## Directives -/

def maxVersionDigits : Nat := 9

def readVersionNumber (begun : Position) (cursor : Cursor) : Except Problem (Nat × Cursor) := do
  let (digits, after) := cursor.takeWhile Char.isDigit
  (cursor.skip maxVersionDigits).require (digits.length ≤ maxVersionDigits) .versionNumberLong
    .versionDirective begun
  after.require (digits ≠ []) .versionNumberMissing .versionDirective begun
  return (digits.foldl (fun n d => n * 10 + (d.toNat - '0'.toNat)) 0, after)

def readVersion (begun : Position) (cursor : Cursor) : Except Problem (TokenKind × Cursor) := do
  let (major, cursor) ← readVersionNumber begun (cursor.dropWhile isBlank)
  cursor.require (cursor.rest.head? = some '.') .versionDotMissing .versionDirective begun
  let (minor, cursor) ← readVersionNumber begun cursor.next
  return (.versionDirective major minor, cursor)

def readTagDirective (begun : Position) (cursor : Cursor) :
    Except Problem (TokenKind × Cursor) := do
  let (handle, cursor) ← readHandle .declaration begun (cursor.dropWhile isBlank)
  cursor.require (cursor.rest.head?.any isBlank) .blankMissing .tagDirective begun
  let (stem, cursor) ← readTagUri .declaration true begun [] (cursor.dropWhile isBlank)
  cursor.require (endsWord cursor.rest) .blankOrBreakMissing .tagDirective begun
  return (.tagDirective (String.ofList handle) stem, cursor)

/-- Reads a directive; the cursor is at its mark. -/
def readDirective (cursor : Cursor) : Except Problem (Token × Cursor) := do
  let begun := cursor.position
  let (name, cursor) := cursor.next.takeWhile isNameChar
  cursor.require (name ≠ []) .directiveNameMissing .directive begun
  cursor.require (endsWord cursor.rest) .directiveNameBroken .directive begun
  let (kind, cursor) ← match String.ofList name with
    | "YAML" => readVersion begun cursor
    | "TAG" => readTagDirective begun cursor
    | _ => .error (cursor.problem .directiveUnknown .directive begun)
  let after ← cursor.endLine .directive begun
  return (⟨kind, begun, cursor.position⟩, after)

end ModeSwitch.Yaml
