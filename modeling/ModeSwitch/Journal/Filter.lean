import ModeSwitch.Journal
import ModeSwitch.Journal.Pattern.Reader
import ModeSwitch.Text.Blank
import ModeSwitch.Text.Letter

/-! Which events are shown.

A filter is a list of rules.  A rule sets the least severity that is shown, for all origins or for
those whose name begins with a target, and perhaps under a condition.  Of the rules that concern an
event the most specific one decides: the one with the longest target, then one with a condition,
then the last.  A filter is written as rules with commas between them.
-/

namespace ModeSwitch

def Origin.name : Origin → String
  | .commandLine => "aries_parts"
  | .config => "aries_parts::config"
  | .settings => "aries_parts::settings"
  | .toggle => "aries_parts::toggle"
  | .notifier => "aries_parts::notifier"
  | .attribute => "aries_parts::attribute"
  | .watch => "aries_parts::watch"

/-! ## Lines -/

def labelWidth : Nat := 5

/-- A character as it is shown in a line.  The controls that a terminal takes for commands are
written by their number. -/
def shownChar (c : Char) : List Char :=
  let n := c.toNat
  if n = 0x07 || n = 0x08 || n = 0x0C then ['\\', 'x', '0'] ++ Text.hexDigits n
  else if n = 0x1B || n = 0x7F then ['\\', 'x'] ++ Text.hexDigits n
  else if 0x80 ≤ n && n ≤ 0x9F then ['\\', 'u', '\x7b'] ++ Text.hexDigits n ++ ['\x7d']
  else [c]

/-- An event as a line of the journal: its severity, its origin, and what happened. -/
def Event.line (event : Event) : String :=
  Text.padLeft labelWidth event.level.label ++ " " ++ event.origin.name ++ ": "
    ++ String.ofList (event.message.toList.flatMap shownChar)

/-! ## Rules -/

/-- What an event must have to be concerned by a rule. -/
inductive FilterCondition where
  | nothing
  /-- A field of a name. -/
  | field (name : String)
  /-- Something that no event has: a field with a value, or a surrounding activity. -/
  | impossible
  deriving DecidableEq, Repr

namespace FilterCondition

/-- The only field that events have. -/
def onlyField : String := "message"

/-- Does every event satisfy the condition?  If not, none does. -/
def isMet : FilterCondition → Bool
  | .nothing => true
  | .field name => name == onlyField
  | .impossible => false

/-- Do the characters write the exponent of a number, or none? -/
def isExponent (chars : List Char) : Bool :=
  match chars with
  | [] => true
  | mark :: rest =>
      let digits := match rest with
        | '+' :: digits | '-' :: digits => digits
        | digits => digits
      (mark = 'e' || mark = 'E') && digits ≠ [] && digits.all Char.isDigit

def isNumber (chars : List Char) : Bool :=
  let unsigned := match chars with
    | '+' :: rest | '-' :: rest => rest
    | chars => chars
  let whole := unsigned.takeWhile Char.isDigit
  let rest := unsigned.drop whole.length
  let fraction := match rest with
    | '.' :: rest => rest.takeWhile Char.isDigit
    | _ => []
  let exponent := if rest.head? = some '.' then rest.drop (fraction.length + 1) else rest
  ["inf", "infinity", "nan"].contains (String.ofList unsigned).toLower
    || (whole ≠ [] || fraction ≠ []) && isExponent exponent

/-- May the value of a field be compared with the characters?  They write a number, or a pattern. -/
def isValue (chars : List Char) : Bool :=
  isNumber chars || (Pattern.ofText? chars).any Pattern.isUsable

/-- The condition that a field written between braces makes.  Behind an equals sign stands a value;
what follows a second one is left out. -/
def ofField? (field : List Char) : Option FilterCondition :=
  match field.dropWhile (· ≠ '=') with
  | [] => some (.field (String.ofList field))
  | _ :: value =>
      if isValue (value.takeWhile (· ≠ '=')) then some .impossible else none

end FilterCondition

structure FilterRule where
  /-- What the name of an origin begins with; nothing stands for all origins. -/
  target : Option String
  condition : FilterCondition
  /-- The least serious events that are shown, if any are. -/
  least : Option Level
  deriving DecidableEq, Repr

namespace FilterRule

/-- The severity with a number; there is nothing less serious than debugging that could be shown. -/
def leastOfNumber? : Nat → Option (Option Level)
  | 0 => some none
  | 1 => some (some .error)
  | 2 => some (some .warning)
  | 3 => some (some .info)
  | 4 | 5 => some (some .debug)
  | _ => none

/-- The severity with a name, in letters of either case. -/
def leastOfName? (name : String) : Option (Option Level) :=
  match name.toLower with
  | "off" => some none
  | "error" => some (some .error)
  | "warn" => some (some .warning)
  | "info" => some (some .info)
  | "debug" | "trace" => some (some .debug)
  | _ => none

/-- The severity that a text names or numbers; a number may have a plus sign. -/
def least? (text : List Char) : Option (Option Level) :=
  let digits := match text with
    | '+' :: rest => rest
    | text => text
  if digits ≠ [] && digits.all Char.isDigit then
    leastOfNumber? (digits.foldl (fun n c => n * 10 + (c.toNat - '0'.toNat)) 0)
  else leastOfName? (String.ofList text)

def beginsTarget (c : Char) : Bool :=
  Text.isLetterOrDigit c || c == '_' || c == ':' || c == '-'

/-- What a rule consists of, told by where its parts stand. -/
structure Layout where
  /-- The length of the target. -/
  target : Nat
  /-- Does the rule ask for a surrounding activity? -/
  hasActivity : Bool
  /-- Where the field begins, and its length. -/
  field : Option (Nat × Nat)
  /-- Where the level begins. -/
  level : Option Nat

/-- The place of the level behind the `count` characters of a rule up to `rest`: behind an equals
sign, unless nothing is left. -/
def levelAfter? (count : Nat) (rest : List Char) : Option (Option Nat) :=
  match rest with
  | [] => some none
  | '=' :: _ => some (some (count + 1))
  | _ => none

/-- The parts of a rule behind a target of `target` characters and an opening bracket. -/
def layoutInside? (target : Nat) (chars : List Char) : Option Layout :=
  let begun := target + 1
  let name := chars.takeWhile fun c => c ≠ ']' && c ≠ '\x7b'
  match chars.drop name.length with
  | ']' :: rest =>
      (levelAfter? (begun + name.length + 1) rest).map (⟨target, true, none, ·⟩)
  | '\x7b' :: rest =>
      let first := begun + name.length + 1
      let field := rest.takeWhile (· ≠ '\x7d')
      match rest.drop field.length with
      | '\x7d' :: ']' :: rest =>
          if field = [] then none
          else
            (levelAfter? (first + field.length + 2) rest).map
              (⟨target, name ≠ [], some (first, field.length), ·⟩)
      | _ => none
  | _ => none

/-- The parts of a rule that begins with a target, a bracket, or a level. -/
def layout? (chars : List Char) : Option Layout :=
  let target := chars.takeWhile fun c => c ≠ '=' && c ≠ '['
  if !target.head?.all beginsTarget then none
  else
    match chars.drop target.length with
    | [] => if target = [] then none else some ⟨target.length, false, none, none⟩
    | '[' :: rest => layoutInside? target.length rest
    | _ :: _ =>
        if target = [] then none
        else some ⟨target.length, false, none, some (target.length + 1)⟩

def leastOf? (level : List Char) : Option (Option Level) :=
  if level = [] then some (some .debug) else least? level

/-- Reads a rule.  Blanks at its ends do not count for the places of its parts, but are not taken
off before the parts are cut out.  A target by itself shows everything. -/
def parse? (text : String) : Option FilterRule := do
  let written := text.toList
  let layout ← layout? (Text.trim text).toList
  let target := if layout.target = 0 then none else some (String.ofList (written.take layout.target))
  let field ← match layout.field with
    | some (first, length) => FilterCondition.ofField? ((written.drop first).take length)
    | none => some .nothing
  let condition := if layout.hasActivity then .impossible else field
  match layout.level with
  | some first => return ⟨target, condition, ← leastOf? (written.drop first)⟩
  | none =>
      if layout.hasActivity || layout.field.isSome then return ⟨target, condition, some .debug⟩
      else
        match least? written with
        | some least => return ⟨none, condition, least⟩
        | none => return ⟨some text, condition, some .debug⟩

/-- Does the rule concern the events of an origin? -/
def concerns (origin : Origin) (rule : FilterRule) : Bool :=
  rule.condition.isMet && rule.target.all fun target =>
    target.toList.isPrefixOf origin.name.toList

/-- How specific the rule is: by its target first, by its condition then. -/
def rank (rule : FilterRule) : Nat :=
  let target := match rule.target with
    | some target => target.length + 1
    | none => 0
  2 * target + if rule.condition = .nothing then 0 else 1

end FilterRule

/-! ## Filters -/

abbrev Filter := List FilterRule

namespace Filter

def errorsOnly : Filter := [⟨none, .nothing, some .error⟩]

/-- The filter that is used if none is given, or one that cannot be read. -/
def default : Filter := [⟨none, .nothing, some .info⟩]

/-- Reads a filter.  One without rules shows errors only. -/
def parse? (text : String) : Option Filter :=
  let parts := (text.splitOn ",").filter (· ≠ "")
  if parts = [] then some errorsOnly else parts.mapM FilterRule.parse?

/-- The filter that a setting asks for. -/
def ofSetting (setting : Option String) : Filter :=
  (setting.bind parse?).getD default

/-- The better of a rule and the one found before it: the one that is more specific. -/
def better (found : Option FilterRule) (rule : FilterRule) : Option FilterRule :=
  match found with
  | some other => if rule.rank < other.rank then some other else some rule
  | none => some rule

def ruleFor? (filter : Filter) (origin : Origin) : Option FilterRule :=
  (filter.filter (·.concerns origin)).foldl better none

def shows (filter : Filter) (event : Event) : Bool :=
  match (filter.ruleFor? event.origin).bind (·.least) with
  | some least => event.isAtLeast least
  | none => false

def lines (filter : Filter) (events : List Event) : List String :=
  (events.filter filter.shows).map Event.line

end Filter

end ModeSwitch
