import ModeSwitch.Host.Shell.Octets

/-! Forms of texts.

A form is a text in which a star stands for any text, a question mark for any byte, and brackets for
one of several bytes.  A byte of a form may be fixed, and then stands for itself.
-/

namespace ModeSwitch.Host.Shell

structure FormChar where
  char : Char
  /-- Does the byte stand for itself? -/
  isFixed : Bool
  deriving DecidableEq, Repr

abbrev Form := List FormChar

namespace Form

def isSpecial (c : Char) (byte : FormChar) : Bool :=
  byte.char = c && !byte.isFixed

def kinds : List (String × (Char → Bool)) :=
  [("alnum", Char.isAlphanum), ("alpha", Char.isAlpha), ("blank", fun c => c = ' ' || c = '\t'),
    ("cntrl", fun c => c.toNat < 0x20 || c.toNat = 0x7F), ("digit", Char.isDigit),
    ("graph", fun c => 0x20 < c.toNat && c.toNat < 0x7F), ("lower", Char.isLower),
    ("print", fun c => 0x20 ≤ c.toNat && c.toNat < 0x7F),
    ("punct", fun c => 0x20 < c.toNat && c.toNat < 0x7F && !c.isAlphanum),
    ("space", fun c => c = ' ' || (0x09 ≤ c.toNat && c.toNat ≤ 0x0D)), ("upper", Char.isUpper),
    ("xdigit", fun c => c.isDigit || ('a' ≤ c && c ≤ 'f') || ('A' ≤ c && c ≤ 'F'))]

/-- The kind that is named at the head of a form, behind a bracket, and the rest. -/
def kind? (form : Form) : Option ((Char → Bool) × Form) :=
  match form with
  | colon :: rest =>
      let name := rest.takeWhile fun byte => byte.char ≠ ':'
      match rest.drop name.length with
      | _ :: closing :: rest =>
          if isSpecial ':' colon && isSpecial ']' closing then
            (kinds.lookup (String.ofList (name.map (·.char)))).map fun kind => (kind, rest)
          else none
      | _ => none
  | [] => none

/-- Is a byte among those between brackets, and the form behind them; the brackets are not closed if
there is none.  At most `steps` members are read. -/
def members? (c : Char) (found : Bool) : (steps : Nat) → (isFirst : Bool) → Form →
    Option (Bool × Form)
  | 0, _, _ | _, _, [] => none
  | steps + 1, isFirst, byte :: rest =>
      if isSpecial ']' byte && !isFirst then some (found, rest)
      else
        let kind := if isSpecial '[' byte then kind? rest else none
        match kind with
        | some (kind, rest) => members? c (found || kind c) steps false rest
        | none =>
            match rest with
            | dash :: last :: rest =>
                if isSpecial '-' dash && !isSpecial ']' last then
                  members? c (found || (byte.char ≤ c && c ≤ last.char)) steps false rest
                else members? c (found || byte.char = c) steps false (dash :: last :: rest)
            | rest => members? c (found || byte.char = c) steps false rest

/-- Is a byte one of those that brackets stand for, and the form behind them. -/
def brackets? (c : Char) (form : Form) : Option (Bool × Form) :=
  match form with
  | byte :: rest =>
      if isSpecial '!' byte then
        (members? c false (rest.length + 1) true rest).map fun (found, rest) => (!found, rest)
      else members? c false (form.length + 1) true form
  | [] => none

def matchesWithin : (steps : Nat) → Form → Octets → Bool
  | 0, _, _ => false
  | _, [], text => text = []
  | steps + 1, byte :: rest, text =>
      if isSpecial '*' byte then
        matchesWithin steps rest text
          || match text with
            | [] => false
            | _ :: text => matchesWithin steps (byte :: rest) text
      else
        match text with
        | [] => false
        | c :: text =>
            if isSpecial '?' byte then matchesWithin steps rest text
            else if isSpecial '[' byte then
              match brackets? c rest with
              | some (found, rest) => found && matchesWithin steps rest text
              | none => c = '[' && matchesWithin steps rest text
            else c = byte.char && matchesWithin steps rest text

def hasForm (form : Form) (text : Octets) : Bool :=
  matchesWithin (form.length + text.length + 1) form text

def isOpen (form : Form) : Bool :=
  form.any fun byte => isSpecial '*' byte || isSpecial '?' byte || isSpecial '[' byte

def text (form : Form) : Octets :=
  form.map (·.char)

/-- The form with backslashes left out: they fix the byte behind them. -/
def withoutBackslashes : Form → Form
  | first :: next :: rest =>
      if isSpecial '\\' first then { next with isFixed := true } :: withoutBackslashes rest
      else first :: withoutBackslashes (next :: rest)
  | form => form

/-- The numbers from zero to a greatest one, from either end. -/
def upTo (isDescending : Bool) (greatest : Nat) : List Nat :=
  let all := List.range (greatest + 1)
  if isDescending then all.reverse else all

/-- A text up to the first byte that is zero: no form stands for more. -/
def beforeZero (text : Octets) : Octets :=
  text.takeWhile (· ≠ '\x00')

/-- A text without a shortest or longest beginning of the form. -/
def dropHead (isLongest : Bool) (form : Form) (text : Octets) : Octets :=
  let ends := upTo isLongest (if isLongest then text else beforeZero text).length
  match ends.find? fun n => hasForm form (beforeZero (text.take n)) with
  | some n => text.drop n
  | none => text

/-- A text without a shortest or longest end of the form. -/
def dropTail (isLongest : Bool) (form : Form) (text : Octets) : Octets :=
  let starts := upTo (!isLongest) (if isLongest then beforeZero text else text).length
  match starts.find? fun n => hasForm form (beforeZero (text.drop n)) with
  | some n => text.take n
  | none => text

end Form

end ModeSwitch.Host.Shell
