import ModeSwitch.Host.Shell.Octets

/-! Numbers of a shell.

A number has sixty-four bits, of which the first is the sign.  It is written in base ten, or, where
that is allowed, with a zero in front in base eight, and with a zero and an x in base sixteen.
-/

namespace ModeSwitch.Host.Shell

namespace Number

def modulus : Nat := Nat.pow 2 64

def greatest : Int := Int.pow 2 63 - 1

def least : Int := -Int.pow 2 63

/-- The number that a result stands for, if it is none itself. -/
def wrap (n : Int) : Int :=
  Int.bmod n modulus

/-- Is the character a blank in front of a number, or behind one? -/
def isBlank (c : Char) : Bool :=
  c = ' ' || (0x09 ≤ c.toNat && c.toNat ≤ 0x0D)

def digit? (base : Nat) (c : Char) : Option Nat :=
  let value :=
    if c.isDigit then c.toNat - '0'.toNat
    else if 'a' ≤ c && c ≤ 'z' then c.toNat - 'a'.toNat + 10
    else if 'A' ≤ c && c ≤ 'Z' then c.toNat - 'A'.toNat + 10
    else base
  if value < base then some value else none

/-- The value of the digits at the head of a text behind a value, and the rest. -/
def digits (base value : Nat) : Octets → Nat × Octets
  | [] => (value, [])
  | c :: rest =>
      match digit? base c with
      | some digit => digits base (value * base + digit) rest
      | none => (value, c :: rest)

/-- The base of a number that is written without blanks and sign, and its digits. -/
def baseOf : Octets → Nat × Octets
  | '0' :: x :: c :: rest =>
      if (x = 'x' || x = 'X') && (digit? 16 c).isSome then (16, c :: rest)
      else (8, '0' :: x :: c :: rest)
  | '0' :: rest => (8, '0' :: rest)
  | text => (10, text)

/-- What stands at the head of a text. -/
structure Head where
  isNegative : Bool
  magnitude : Nat
  /-- What follows the number. -/
  rest : Octets
  deriving DecidableEq, Repr

/-- Reads the number at the head of a text, if there is one. -/
def head? (anyBase : Bool) (text : Octets) : Option Head :=
  let trimmed := text.dropWhile isBlank
  let (isNegative, unsigned) := match trimmed with
    | '-' :: rest => (true, rest)
    | '+' :: rest => (false, rest)
    | rest => (false, rest)
  let (base, numeral) := if anyBase then baseOf unsigned else (10, unsigned)
  if numeral.head?.any fun c => (digit? base c).isSome then
    let (magnitude, rest) := digits base 0 numeral
    some ⟨isNegative, magnitude, rest⟩
  else none

namespace Head

def value (head : Head) : Int :=
  if head.isNegative then -head.magnitude else head.magnitude

def isTooLarge (head : Head) : Bool :=
  head.value < least || greatest < head.value

/-- The number, or the nearest one that there is. -/
def nearest (head : Head) : Int :=
  max least (min greatest head.value)

end Head

/-- The number that a text writes, perhaps with blanks around it. -/
def ofText? (text : Octets) : Option Int :=
  match head? false text with
  | some head =>
      if head.isTooLarge || !head.rest.all isBlank then none else some head.value
  | none => none

/-- The number that the value of a variable writes in any base; blanks stand for zero. -/
def ofValue? (text : Octets) : Option Int :=
  match head? true text with
  | some head =>
      if head.isTooLarge || !head.rest.all isBlank then none else some head.value
  | none => if text.all isBlank then some 0 else none

def greatestCount : Int := Int.pow 2 31 - 1

def count? (text : Octets) : Option Nat :=
  match ofText? text with
  | some n => if 0 ≤ n && n ≤ greatestCount then some n.toNat else none
  | none => none

def text (n : Int) : Octets :=
  (toString n).toList

end Number

end ModeSwitch.Host.Shell
