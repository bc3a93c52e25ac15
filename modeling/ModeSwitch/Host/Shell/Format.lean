import ModeSwitch.Host.Shell.Fraction

/-! Texts with escapes, and formats.

What a shell prints may hold escapes: a backslash, and a letter or the octal number of a byte.  A
format moreover takes arguments, and is used again as long as arguments are left.
-/

namespace ModeSwitch.Host.Shell

/-! ## Escapes -/

def isOctal (c : Char) : Bool :=
  '0' ≤ c && c ≤ '7'

/-- The value of up to `most` octal digits at the head of a text, and the rest. -/
def octal (most value : Nat) : Octets → Nat × Octets
  | [] => (value, [])
  | c :: rest =>
      if most = 0 || !isOctal c then (value, c :: rest)
      else octal (most - 1) (value * 8 + (c.toNat - '0'.toNat)) rest

def escapedByte? : Char → Option Char
  | 'a' => some '\x07'
  | 'b' => some '\x08'
  | 'f' => some '\x0c'
  | 'n' => some '\n'
  | 'r' => some '\r'
  | 't' => some '\t'
  | 'v' => some '\x0b'
  | 'e' => some '\x1b'
  | '\\' => some '\\'
  | _ => none

/-- The byte that the characters behind a backslash begin with stand for, and the rest. -/
def escape (text : Octets) : Char × Octets :=
  match text with
  | [] => ('\\', [])
  | c :: rest =>
      match escapedByte? c with
      | some byte => (byte, rest)
      | none =>
          if isOctal c then
            let (value, rest) := octal 3 0 (c :: rest)
            (Char.ofNat (value % 256), rest)
          else ('\\', c :: rest)

/-- A text with its escapes replaced. -/
structure Unescaped where
  text : Octets
  /-- Was there an escape that ends all that is printed? -/
  isEnd : Bool
  deriving DecidableEq, Repr

/-- Replaces the escapes of a text, at most `steps` characters into it.  Here the octal number of a
byte may have one more zero in front. -/
def unescape : (steps : Nat) → Octets → Unescaped
  | 0, _ | _, [] => ⟨[], false⟩
  | _ + 1, '\\' :: 'c' :: _ => ⟨[], true⟩
  | steps + 1, '\\' :: rest =>
      let number := match rest with
        | '0' :: c :: rest => if isOctal c then c :: rest else '0' :: c :: rest
        | rest => rest
      let (byte, rest) := escape number
      let later := unescape steps rest
      { later with text := byte :: later.text }
  | steps + 1, c :: rest =>
      let later := unescape steps rest
      { later with text := c :: later.text }

/-- What is written for some arguments: they stand with spaces between them and an end behind them,
unless an escape ends all. -/
def printed (ending : Octets) : List Octets → Octets
  | [] => ending
  | argument :: rest =>
      let unescaped := unescape (argument.length + 1) argument
      if unescaped.isEnd then unescaped.text
      else
        match rest with
        | [] => unescaped.text ++ ending
        | rest => unescaped.text ++ ' ' :: printed ending rest

/-- What `echo` writes: its arguments on a line, which is not ended if the first argument says so. -/
def echo (arguments : List Octets) : Octets :=
  match arguments with
  | ['-', 'n'] :: rest => printed [] rest
  | arguments => printed ['\n'] arguments

/-! ## Directives -/

/-- How a value is laid out. -/
structure Layout where
  isLeft : Bool
  hasPlus : Bool
  hasSpace : Bool
  hasZeros : Bool
  isAlternate : Bool
  width : Nat
  precision : Option Nat
  deriving DecidableEq, Repr

namespace Layout

def pad (layout : Layout) (text : Octets) : Octets :=
  let missing := List.replicate (layout.width - text.length) ' '
  if layout.isLeft then text ++ missing else missing ++ text

/-- The digits of a number behind its sign, padded with zeros between both if that is allowed. -/
def padNumber (layout : Layout) (allowsZeros : Bool) (sign digits : Octets) : Octets :=
  if layout.hasZeros && allowsZeros && !layout.isLeft then
    let missing := layout.width - sign.length - digits.length
    sign ++ List.replicate missing '0' ++ digits
  else layout.pad (sign ++ digits)

def sign (layout : Layout) (isNegative : Bool) : Octets :=
  if isNegative then ['-'] else if layout.hasPlus then ['+'] else if layout.hasSpace then [' '] else []

def string (layout : Layout) (text : Octets) : Octets :=
  layout.pad (match layout.precision with
    | some n => text.take n
    | none => text)

/-- Digits with zeros in front, as the precision asks for; zero may have none. -/
def digits (layout : Layout) (base n : Nat) : Octets :=
  let digits := if n = 0 && layout.precision = some 0 then [] else Nat.toDigits base n
  List.replicate (layout.precision.getD 1 - digits.length) '0' ++ digits

def signed (layout : Layout) (n : Int) : Octets :=
  layout.padNumber layout.precision.isNone (layout.sign (n < 0)) (layout.digits 10 n.natAbs)

def unsigned (layout : Layout) (conversion : Char) (n : Nat) : Octets :=
  match conversion with
  | 'o' =>
      let digits := layout.digits 8 n
      let digits := if layout.isAlternate && digits.head? ≠ some '0' then '0' :: digits else digits
      layout.padNumber layout.precision.isNone [] digits
  | 'x' =>
      let mark := if layout.isAlternate && n ≠ 0 then ['0', 'x'] else []
      layout.padNumber layout.precision.isNone mark (layout.digits 16 n)
  | 'X' =>
      let mark := if layout.isAlternate && n ≠ 0 then ['0', 'X'] else []
      layout.padNumber layout.precision.isNone mark ((layout.digits 16 n).map Char.toUpper)
  | _ => layout.padNumber layout.precision.isNone [] (layout.digits 10 n)

def fraction (layout : Layout) (conversion : Char) (n : Fraction) : Octets :=
  let places := layout.precision.getD 6
  let sign := layout.sign n.isNegative
  let shown := match n.magnitude with
    | .infinite => layout.padNumber false sign "inf".toList
    | .none => layout.padNumber false sign "nan".toList
    | .finite number =>
        layout.padNumber true sign (match conversion.toLower with
          | 'e' => Fraction.scientific places layout.isAlternate number
          | 'g' => Fraction.general places layout.isAlternate number
          | 'a' => Fraction.hexadecimal number
          | _ => Fraction.fixed places layout.isAlternate number)
  if conversion.isUpper then shown.map Char.toUpper else shown

end Layout

/-! ## Formats -/

/-- Why an argument is not fully used as a number. -/
inductive NumeralFault where
  | noNumber
  | notConverted
  | outOfRange
  deriving DecidableEq, Repr

def NumeralFault.message (argument : Octets) : NumeralFault → Octets
  | .noNumber => argument ++ ": expected numeric value".toList
  | .notConverted => argument ++ ": not completely converted".toList
  | .outOfRange => argument ++ ": Numerical result out of range".toList

structure BrokenDirective where
  text : Octets
  /-- Does the format end in it? -/
  isUnfinished : Bool
  deriving DecidableEq, Repr

def BrokenDirective.message (directive : BrokenDirective) : Octets :=
  if directive.isUnfinished then "missing format character".toList
  else directive.text ++ ": invalid directive".toList

/-- What the use of a format has come to. -/
structure Formatted where
  text : Octets
  /-- The arguments that are left. -/
  arguments : List Octets
  /-- What is wrong with arguments that were to be numbers. -/
  faults : List (Octets × NumeralFault)
  /-- Did an escape end all? -/
  isEnd : Bool
  /-- The directive that the format could not be used beyond. -/
  broken : Option BrokenDirective
  deriving DecidableEq, Repr

namespace Formatted

def add (formatted : Formatted) (text : Octets) : Formatted :=
  { formatted with text := formatted.text ++ text }

def next (formatted : Formatted) : Option Octets × Formatted :=
  (formatted.arguments.head?, { formatted with arguments := formatted.arguments.drop 1 })

def complain (formatted : Formatted) (argument : Octets) (fault : Option NumeralFault) : Formatted :=
  match fault with
  | some fault => { formatted with faults := formatted.faults ++ [(argument, fault)] }
  | none => formatted

def faultOf (isRead : Bool) (rest : Octets) (isTooLarge : Bool) : Option NumeralFault :=
  if rest ≠ [] then some (if isRead then .notConverted else .noNumber)
  else if isTooLarge then some .outOfRange
  else none

/-- The value of an argument that stands for the byte behind a quote, if it does. -/
def quoted? (argument : Octets) : Option Nat :=
  match argument with
  | c :: rest => if c = '"' || c = '\'' then some ((rest.head?.map Char.toNat).getD 0) else none
  | [] => none

def integer (formatted : Formatted) : Int × Formatted :=
  match formatted.next with
  | (none, formatted) => (0, formatted)
  | (some argument, formatted) =>
      match quoted? argument with
      | some value => (value, formatted)
      | none =>
          match Number.head? true argument with
          | some head =>
              (head.nearest,
                formatted.complain argument (faultOf true head.rest head.isTooLarge))
          | none => (0, formatted.complain argument (faultOf false argument false))

/-- The next argument as a number without a sign; a negative one counts from the end. -/
def natural (formatted : Formatted) : Nat × Formatted :=
  match formatted.next with
  | (none, formatted) => (0, formatted)
  | (some argument, formatted) =>
      match quoted? argument with
      | some value => (value, formatted)
      | none =>
          match Number.head? true argument with
          | some head =>
              let isTooLarge : Bool := Number.modulus ≤ head.magnitude
              let value :=
                if isTooLarge then Number.modulus - 1
                else (head.value % Number.modulus).toNat
              (value, formatted.complain argument (faultOf true head.rest isTooLarge))
          | none => (0, formatted.complain argument (faultOf false argument false))

def fraction (formatted : Formatted) : Fraction × Formatted :=
  let zero : Fraction := ⟨false, .finite Decimal.Binary.zero⟩
  match formatted.next with
  | (none, formatted) => (zero, formatted)
  | (some argument, formatted) =>
      match quoted? argument with
      | some value => (⟨false, Fraction.nearest 10 value 0⟩, formatted)
      | none =>
          match Fraction.head? argument with
          | some (value, rest) =>
              let isWord := argument.any fun c => c = 'i' || c = 'I'
              (value,
                formatted.complain argument (faultOf true rest
                  (value.magnitude = .infinite && !isWord)))
          | none => (zero, formatted.complain argument (faultOf false argument false))

/-- A width or a precision at the head of a format: its digits, or a star that takes an argument. -/
def count (formatted : Formatted) (format : Octets) : Option Int × Octets × Formatted :=
  match format with
  | '*' :: rest =>
      let (value, formatted) := formatted.integer
      (some value, rest, formatted)
  | format =>
      let digits := format.takeWhile Char.isDigit
      (if digits = [] then none else some (Number.digits 10 0 digits).1,
        format.drop digits.length, formatted)

/-- The layout at the head of a format, behind a percent sign, and the rest. -/
def layout (formatted : Formatted) (format : Octets) : Layout × Octets × Formatted :=
  let flags := format.takeWhile fun c => "#-+ 0".contains c
  let (width, rest, formatted) := formatted.count (format.drop flags.length)
  let (precision, rest, formatted) := match rest with
    | '.' :: rest =>
        let (precision, rest, formatted) := formatted.count rest
        (some (precision.getD 0), rest, formatted)
    | rest => (none, rest, formatted)
  let width := width.getD 0
  (⟨flags.contains '-' || width < 0, flags.contains '+', flags.contains ' ', flags.contains '0',
    flags.contains '#', width.natAbs, (precision.filter (0 ≤ ·)).map Int.toNat⟩, rest, formatted)

def convert (formatted : Formatted) (layout : Layout) (conversion : Char) (directive : Octets) :
    Formatted :=
  if conversion = 'd' || conversion = 'i' then
    let (value, formatted) := formatted.integer
    formatted.add (layout.signed value)
  else if "ouxX".contains conversion then
    let (value, formatted) := formatted.natural
    formatted.add (layout.unsigned conversion value)
  else if "aAeEfFgG".contains conversion then
    let (value, formatted) := formatted.fraction
    formatted.add (layout.fraction conversion value)
  else if conversion = 'c' then
    let (argument, formatted) := formatted.next
    let byte := ((argument.getD []).head?).getD '\x00'
    formatted.add (layout.pad [byte])
  else if conversion = 's' then
    let (argument, formatted) := formatted.next
    formatted.add (layout.string (argument.getD []))
  else if conversion = 'b' then
    let (argument, formatted) := formatted.next
    let argument := argument.getD []
    let unescaped := unescape (argument.length + 1) argument
    { formatted.add (layout.string unescaped.text) with isEnd := unescaped.isEnd }
  else { formatted with broken := some ⟨directive, false⟩ }

/-- Uses a format, at most `steps` characters into it. -/
def useOnce : (steps : Nat) → Formatted → Octets → Formatted
  | 0, formatted, _ | _, formatted, [] => formatted
  | steps + 1, formatted, '\\' :: rest =>
      let (byte, rest) := escape rest
      useOnce steps (formatted.add [byte]) rest
  | steps + 1, formatted, '%' :: '%' :: rest => useOnce steps (formatted.add ['%']) rest
  | steps + 1, formatted, '%' :: rest =>
      let (layout, behind, formatted) := formatted.layout rest
      match behind with
      | [] => { formatted with broken := some ⟨'%' :: rest, true⟩ }
      | conversion :: later =>
          let directive := '%' :: rest.take (rest.length - later.length)
          let formatted := formatted.convert layout conversion directive
          if formatted.isEnd || formatted.broken.isSome then formatted
          else useOnce steps formatted later
  | steps + 1, formatted, c :: rest => useOnce steps (formatted.add [c]) rest

/-- Uses a format until no argument is left, or it takes none; at most `times` times. -/
def useAll (format : Octets) : (times : Nat) → Formatted → Formatted
  | 0, formatted => formatted
  | times + 1, formatted =>
      let used := useOnce (format.length + 1) formatted format
      if used.isEnd || used.broken.isSome || used.arguments = []
          || used.arguments.length = formatted.arguments.length then used
      else useAll format times used

end Formatted

def format (format : Octets) (arguments : List Octets) : Formatted :=
  Formatted.useAll format (arguments.length + 1) ⟨[], arguments, [], false, none⟩

end ModeSwitch.Host.Shell
