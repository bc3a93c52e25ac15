import ModeSwitch.Host.Shell.Arithmetic
import ModeSwitch.Host.Shell.Field
import ModeSwitch.Host.Shell.Home
import ModeSwitch.Host.Shell.State

/-! What words come to.

Values are put in the place of parameters, of commands, and of expressions.  Outside quotes they are
then split into fields, and a field that is a form stands for the files whose names have it.
-/

namespace ModeSwitch.Host.Shell

/-! ## Parameters -/

namespace Parameter

def text : Parameter → Octets
  | .position n => (toString n).toList
  | .all => ['@']
  | .joined => ['*']
  | .count => ['#']
  | .status => ['?']
  | .process => ['$']
  | .job => ['!']
  | .options => ['-']
  | .variable name => name

end Parameter

/-- How the pieces of a word are used. -/
structure Manner where
  /-- Is the word split into fields? -/
  isSplit : Bool
  /-- Does the word stand between quotes? -/
  isQuoted : Bool
  /-- Is the word part of the use of a parameter? -/
  isInner : Bool
  deriving DecidableEq, Repr

namespace Manner

def fields : Manner := ⟨true, false, false⟩

def whole : Manner := ⟨false, false, false⟩

def quoted : Manner := ⟨false, true, false⟩

end Manner

def optionLetters : Octets := "puba".toList ++ "CEVvxsnmiIfe".toList

def joinedMarks (isFixed : Bool) (between : List Mark) : List Octets → List Mark
  | [] => []
  | [argument] => Mark.ofText isFixed argument
  | argument :: rest =>
      Mark.ofText isFixed argument ++ between ++ joinedMarks isFixed between rest

def betweenArguments (state : State) (which : Parameter) (isSplit isQuoted : Bool) : List Mark :=
  let separators := state.value? "IFS".toList
  if isSplit && isQuoted && which = .all then [.border]
  else if isSplit && !isQuoted && separators.isSome then [.border]
  else Mark.ofText isQuoted ((separators.getD [' ']).take 1)

/-- The marks of the value of a parameter, if it has one. -/
def marksOf (state : State) (which : Parameter) (isSplit isQuoted : Bool) : Option (List Mark) :=
  let ofNumber (n : Nat) : Option (List Mark) := some (Mark.ofText isQuoted (Number.text n))
  match which with
  | .position 0 => some (Mark.ofText isQuoted state.name)
  | .position (n + 1) => state.arguments[n]?.map (Mark.ofText isQuoted)
  | .all | .joined =>
      some (joinedMarks isQuoted (betweenArguments state which isSplit isQuoted) state.arguments)
  | .count => ofNumber state.arguments.length
  | .status => ofNumber state.status
  | .process => ofNumber state.root
  | .job => state.lastJob.bind ofNumber
  | .options => some (Mark.ofText isQuoted (optionLetters.filter state.hasOption))
  | .variable name => (state.value? name).map (Mark.ofText isQuoted)

/-- Marks without a beginning or an end of a form. -/
def trimmed (isHead isLongest : Bool) (form : Form) (marks : List Mark) : List Mark :=
  let text := marks.map fun mark => mark.char?.getD '\x00'
  if isHead then marks.drop (marks.length - (Form.dropHead isLongest form text).length)
  else marks.take (Form.dropTail isLongest form text).length

/-- What the value of a parameter comes to: a stretch that is split, unless it stands in quotes. -/
def stretchOf (which : Parameter) (hasArguments isSplit isQuoted : Bool) (marks : List Mark) :
    Stretch :=
  if !isQuoted then ⟨.atSeparators, marks⟩
  else if isSplit && which = .all && hasArguments then ⟨.atBorders, marks⟩
  else ⟨.whole, marks⟩

/-! ## Words -/

abbrev Runner := Option Command → Act Octets

/-- What an output comes to: the text without the line ends behind it. -/
def withoutLastLines (output : Octets) : Octets :=
  ((output.filter (· ≠ '\x00')).reverse.dropWhile (· = '\n')).reverse

def failNotSet {α : Type} (which : Parameter) (orNull : Bool) : Act α :=
  failAbout which.text (if orNull then "parameter not set or null" else "parameter not set")

def valueText (expression : Octets) : Act Octets := do
  let state ← get
  match Arithmetic.evaluate state.value? expression with
  | .error fault => fail (fault.message expression)
  | .ok (value, assigned) =>
      for (name, value) in assigned do
        assign name (Number.text value) false
      return Number.text value

def homed (isQuoted : Bool) (spot : HomeSpot) (word : Word) : Act Word := do
  return Word.withHomes ((← get).value? "HOME".toList) isQuoted spot word

def literalHead : Word → List Mark
  | .char c :: rest => .byte c false :: literalHead rest
  | _ => []

/-- The characters without a special sense at the head of a word. -/
def fixedHead : Word → List Mark
  | .fixed c :: rest => .byte c true :: fixedHead rest
  | _ => []

def literalStretch (manner : Manner) (isQuoted : Bool) (marks : List Mark) : Stretch :=
  if isQuoted then ⟨.whole, Mark.ofText true (Mark.text marks)⟩
  else if manner.isInner then ⟨.atSeparators, marks⟩
  else ⟨.whole, marks⟩

mutual

def stretches (run : Runner) : (fuel : Nat) → Manner → (inQuotes : Bool) → Word → Act (List Stretch)
  | 0, _, _, _ | _, _, _, [] => return []
  | fuel + 1, manner, inQuotes, piece :: rest => do
      let isQuoted := manner.isQuoted || inQuotes
      match piece with
      | .char _ =>
          let marks := literalHead (piece :: rest)
          let later ← stretches run fuel manner inQuotes ((piece :: rest).drop marks.length)
          return literalStretch manner isQuoted marks :: later
      | .fixed _ =>
          let marks := fixedHead (piece :: rest)
          let later ← stretches run fuel manner inQuotes ((piece :: rest).drop marks.length)
          return ⟨.whole, marks⟩ :: later
      | .mark =>
          match inQuotes, rest with
          | false, .parameter .all .plain :: .mark :: behind =>
              let arguments ← parameter run fuel manner true .all .plain
              return arguments ++ (← stretches run fuel manner inQuotes behind)
          | _, _ => return ⟨.whole, [.quote]⟩ :: (← stretches run fuel manner (!inQuotes) rest)
      | .parameter which use =>
          let here ← parameter run fuel manner isQuoted which use
          return here ++ (← stretches run fuel manner inQuotes rest)
      | .output command =>
          let output ← run command
          let marks := Mark.ofText isQuoted (withoutLastLines output)
          let stretch : Stretch := ⟨if isQuoted then .whole else .atSeparators, marks⟩
          return stretch :: (← stretches run fuel manner inQuotes rest)
      | .value expression =>
          let text := Stretch.text (← stretches run fuel .quoted false expression)
          let marks := Mark.ofText isQuoted (← valueText text)
          let stretch : Stretch := ⟨if isQuoted then .whole else .atSeparators, marks⟩
          return stretch :: (← stretches run fuel manner inQuotes rest)

def parameter (run : Runner) : (fuel : Nat) → Manner → (isQuoted : Bool) → Parameter →
    ParameterUse → Act (List Stretch)
  | 0, _, _, _, _ => return []
  | fuel + 1, manner, isQuoted, which, use => do
      let state ← get
      let found := marksOf state which manner.isSplit isQuoted
      let isNull := found.all (·.isEmpty)
      let show? (marks : List Mark) : List Stretch :=
        [stretchOf which (!state.arguments.isEmpty) manner.isSplit isQuoted marks]
      let isMissing (orEmpty : Bool) : Bool := found.isNone || (orEmpty && isNull)
      let inner : Manner := ⟨manner.isSplit, isQuoted, true⟩
      let required : Act (List Mark) :=
        match found with
        | some marks => return marks
        | none => if state.hasOption 'u' then failNotSet which false else return []
      match use with
      | .plain => return show? (← required)
      | .length =>
          let marks ← required
          let length := Number.text marks.length
          return [⟨if isQuoted then .whole else .atSeparators, Mark.ofText isQuoted length⟩]
      | .orElse orEmpty word =>
          if isMissing orEmpty then
            stretches run fuel inner false (← homed isQuoted .word word)
          else return show? (found.getD [])
      | .ifSet orEmpty word =>
          if isMissing orEmpty then return []
          else
            stretches run fuel inner false (← homed isQuoted .word word)
      | .orAssigned orEmpty word =>
          if isMissing orEmpty then
            let value ← innerText run fuel isQuoted word
            match which with
            | .variable name => assign name value false
            | which => failAbout which.text "bad variable name"
            parameter run fuel manner isQuoted which .plain
          else return show? (found.getD [])
      | .orFailing orEmpty word =>
          if isMissing orEmpty then
            if word.isEmpty then failNotSet which orEmpty
            else
              let message ← innerText run fuel isQuoted word
              fail (which.text ++ ": ".toList ++ message)
          else return show? (found.getD [])
      | .withoutHead isLongest form =>
          let marks ← required
          if found.isNone then return show? []
          return show? (trimmed true isLongest (← formOf run fuel form) marks)
      | .withoutTail isLongest form =>
          let marks ← required
          if found.isNone then return show? []
          return show? (trimmed false isLongest (← formOf run fuel form) marks)
      | .unknown _ => fail "Bad substitution".toList

def innerText (run : Runner) : (fuel : Nat) → (isQuoted : Bool) → Word → Act Octets
  | 0, _, _ => return []
  | fuel + 1, isQuoted, word => do
      return Stretch.text (← stretches run fuel .whole false (← homed isQuoted .word word))

def formOf (run : Runner) : (fuel : Nat) → Word → Act Form
  | 0, _ => return []
  | fuel + 1, word => do
      let found ← stretches run fuel .whole false (← homed false .word word)
      return (Stretch.form found).withoutBackslashes

end

/-! ## Names of files -/

def Form.parts : Form → List Form
  | [] => [[]]
  | byte :: rest =>
      if byte.char = '/' then [] :: parts rest
      else
        match parts rest with
        | [] => [[byte]]
        | part :: later => (byte :: part) :: later

/-- The names in a directory that have a form.  Those that begin with a dot are only meant if the form
does. -/
def namesWith (state : State) (path : Octets) (form : Form) : List Octets :=
  let path := if path = [] then ['.'] else path
  match state.tree.locate state.directory (Octets.text path) with
  | .ok (place, some .directory) =>
      let names := [".", ".."] ++ state.tree.namesIn place
      let hasDot := form.head?.any (·.char = '.')
      (names.map Octets.ofText).filter fun name =>
        (name.head? ≠ some '.' || hasDot) && form.hasForm name
  | _ => []

/-- The paths that begin with one of some paths and go on with parts of a form. -/
def pathsWith (state : State) : List Octets → List Form → List Octets
  | paths, [] => paths
  | paths, part :: rest =>
      let further := paths.flatMap fun path =>
        if part.isOpen then (namesWith state path part).map (path ++ ·) else [path ++ part.text]
      pathsWith state (if rest.isEmpty then further else further.map (· ++ ['/'])) rest

/-- The files whose names have a form, in order, or the text of the form if there are none. -/
def filesWith (state : State) (form : Form) : List Octets :=
  let plain := form.text
  if state.hasOption 'f' || !form.isOpen then [plain]
  else
    let paths := (pathsWith state [[]] form.withoutBackslashes.parts).filter fun path =>
      match state.tree.locate state.directory (Octets.text path) with
      | .ok (_, some _) => true
      | _ => false
    if paths.isEmpty then [plain] else paths.mergeSort fun a b => !(b < a)

/-! ## What words are used for -/

def fieldsOf (run : Runner) (fuel : Nat) (word : Word) : Act (List Octets) := do
  let found ← stretches run fuel .fields false (← homed false .word word)
  let state ← get
  let fields := Stretch.fields state.separators none found
  return fields.flatMap fun marks => filesWith state (Mark.form marks)

def textOf (run : Runner) (fuel : Nat) (word : Word) : Act Octets := do
  return Stretch.text (← stretches run fuel .whole false (← homed false .word word))

def assignmentText (run : Runner) (fuel : Nat) (word : Word) : Act Octets := do
  return Stretch.text (← stretches run fuel .whole false (← homed false .assignment word))

def documentText (run : Runner) (fuel : Nat) (document : Word) : Act Octets := do
  return Stretch.text (← stretches run fuel .quoted false document)

end ModeSwitch.Host.Shell
