import ModeSwitch.Host.Shell.Builtin
import ModeSwitch.Host.Shell.Field

/-! The builtins that set variables, arguments and options.

Each takes its arguments and gives an exit code; what it has for the standard output is kept until it
ends.
-/

namespace ModeSwitch.Host.Shell.Builtin

/-! ## Names -/

/-- A text between single quotes; single quotes in it stand between double ones. -/
def quotedAfter : (steps : Nat) → Octets → Octets
  | 0, _ => []
  | steps + 1, text =>
      let plain := text.takeWhile (· ≠ '\'')
      let rest := text.drop plain.length
      let quotes := rest.takeWhile (· = '\'')
      let head := '\'' :: plain ++ ['\'']
      if quotes = [] then head
      else
        let rest := rest.drop quotes.length
        let here := head ++ '"' :: quotes ++ ['"']
        if rest = [] then here else here ++ quotedAfter steps rest

def quoted (text : Octets) : Octets :=
  quotedAfter (text.length + 1) text

/-- An argument cut at its first equals sign, if it has one. -/
def nameAndValue (argument : Octets) : Octets × Option Octets :=
  let name := argument.takeWhile (· ≠ '=')
  (name, if name.length < argument.length then some (argument.drop (name.length + 1)) else none)

/-- Tells the variables with a property, in the order of their names, in words that would set them. -/
def tellVariables (before : Octets) (property : Variable → Bool) : Act Unit := do
  let found := (← get).bindings.filter fun (_, entry) => property entry
  for (name, entry) in found.mergeSort fun a b => !(b.1 < a.1) do
    let value := match entry.value with
      | some value => '=' :: quoted value
      | none => []
    put (before ++ name ++ value ++ ['\n'])

def mark (verb : String) (property : Variable → Bool) (edit : Variable → Variable)
    (arguments : List Octets) : Act Nat := do
  let options ← optionsOf "p" arguments
  if options.has 'p' || options.rest.isEmpty then
    tellVariables (verb ++ " ").toList property
  else
    for argument in options.rest do
      let (name, value) := nameAndValue argument
      if !isName name then failAbout name "bad variable name"
      else
        match value with
        | some value => change name fun old => edit { old with value := some value }
        | none =>
            modify fun state =>
              state.setVariable name
                (some (edit ((state.entry? name).getD ⟨none, false, false⟩)))
  return 0

def exportNames (arguments : List Octets) : Act Nat :=
  mark "export" (·.isExported) (fun old => { old with isExported := true }) arguments

def protect (arguments : List Octets) : Act Nat :=
  mark "readonly" (·.isReadOnly) (fun old => { old with isReadOnly := true }) arguments

/-- Hides variables until the function ends, and sets those for which a value is given. -/
def localNames (arguments : List Octets) : Act Nat := do
  if (← get).callDepth = 0 then fail "not in a function".toList
  else
    for argument in arguments do
      let (name, value) := nameAndValue argument
      if !isName name then failAbout name "bad variable name"
      else
        hide name
        match value with
        | some value => assign name value false
        | none => pure ()
    return 0

def unset (arguments : List Octets) : Act Nat := do
  let options ← optionsOf "vf" arguments
  let meansFunctions := (options.given.getLast?.map (·.1)) = some 'f'
  for name in options.rest do
    let state ← get
    if meansFunctions then
      set { state with functions := state.functions.filter (·.1 ≠ name) }
    else if !isName name then failAbout name "bad variable name"
    else
      change name fun old => { old with value := none }
      modify fun state => state.setVariable name none
  return 0

/-! ## Arguments and options -/

def shift (arguments : List Octets) : Act Nat := do
  let count ← match arguments with
    | argument :: _ => numberOf argument
    | [] => pure 1
  let state ← get
  if state.arguments.length < count then fail "can't shift that many".toList
  else
    set { state.withoutOptionsRead with arguments := state.arguments.drop count }
    return 0

/-- The names of options, and their letters if they have one. -/
def optionNames : List (String × Option Char) :=
  [("errexit", some 'e'), ("noglob", some 'f'), ("ignoreeof", some 'I'), ("interactive", some 'i'),
    ("monitor", some 'm'), ("noexec", some 'n'), ("stdin", some 's'), ("xtrace", some 'x'),
    ("verbose", some 'v'), ("vi", some 'V'), ("emacs", some 'E'), ("noclobber", some 'C'),
    ("allexport", some 'a'), ("notify", some 'b'), ("nounset", some 'u'),
    ("privileged", some 'p'), ("nolog", none), ("debug", none)]

def setOption (letter : Char) (isOn : Bool) : Act Unit := do
  if !optionNames.any (·.2 = some letter) then fail ("Illegal option -".toList ++ [letter])
  else
    modify fun state =>
      let others := state.options.filter (· ≠ letter)
      { state with options := if isOn then letter :: others else others }

def tellOptions (isOn : Bool) : Act Unit := do
  let state ← get
  if isOn then put "Current option settings\n".toList
  for (name, letter) in optionNames do
    let holds := letter.any state.hasOption
    if isOn then
      put (name ++ String.ofList (List.replicate (16 - name.length) ' ')
        ++ (if holds then "on\n" else "off\n")).toList
    else put ("set " ++ (if holds then "-" else "+") ++ "o " ++ name ++ "\n").toList

def setOptionNamed (name : Octets) (isOn : Bool) : Act Unit :=
  match optionNames.lookup (String.ofList name) with
  | some (some letter) => setOption letter isOn
  | some none => return
  | none => fail ("Illegal option -o ".toList ++ name)

/-- Sets the options of a word by their letters; what follows the word is given back, without the names
that belong to it. -/
def setLetters (isOn : Bool) : (letters : Octets) → (arguments : List Octets) → Act (List Octets)
  | [], arguments => return arguments
  | letter :: later, arguments =>
      if letter = 'o' then
        match arguments with
        | [] => do
            tellOptions isOn
            setLetters isOn later []
        | name :: rest => do
            setOptionNamed name isOn
            setLetters isOn later rest
      else do
        setOption letter isOn
        setLetters isOn later arguments

def setArguments (arguments : List Octets) : Act Unit :=
  modify fun state => { state.withoutOptionsRead with arguments }

/-- Sets the options at the head of arguments, and then what follows them; at most `words` words are
options. -/
def setAll : (words : Nat) → (arguments : List Octets) → Act Unit
  | 0, arguments => if arguments.isEmpty then return else setArguments arguments
  | words + 1, arguments =>
      match arguments with
      | [] => return
      | ['-', '-'] :: rest => setArguments rest
      | ['-'] :: rest => do
          modify fun state =>
            { state with options := state.options.filter fun c => c ≠ 'x' && c ≠ 'v' }
          if rest.isEmpty then return else setArguments rest
      | ('-' :: letters) :: rest => do setAll words (← setLetters true letters rest)
      | ('+' :: letters) :: rest => do setAll words (← setLetters false letters rest)
      | arguments => setArguments arguments

/-- Sets options and arguments; without any, tells all variables. -/
def setCommand (arguments : List Octets) : Act Nat := do
  if arguments.isEmpty then tellVariables [] (·.value.isSome)
  else setAll (arguments.length + 1) arguments
  return 0

/-! ## Options of a script -/

def optionArgumentName : Octets := "OPTARG".toList

/-- What is found when the next option is looked for. -/
structure FoundOption where
  letter : Char
  /-- The number of the argument that is looked at next, from one on. -/
  index : Nat
  /-- How many letters of the argument before it have been read; at zero it is done. -/
  lettersRead : Nat
  argument : Option Octets
  complaint : Option Octets
  isEnd : Bool
  deriving DecidableEq, Repr

def nextOption (letters : Octets) (arguments : List Octets) (index lettersRead : Nat) :
    FoundOption :=
  let ending (index : Nat) : FoundOption := ⟨'?', index, 0, none, none, true⟩
  let unfinished :=
    if 1 < index && lettersRead ≠ 0 then ((arguments[index - 2]?).getD []).drop lettersRead else []
  let start : Option (Octets × Nat × Nat) :=
    if unfinished ≠ [] then some (unfinished, index, lettersRead)
    else
      match arguments[index - 1]? with
      | some ('-' :: c :: rest) => if c = '-' && rest = [] then none else some (c :: rest, index + 1, 1)
      | _ => none
  match start with
  | none => ending (if arguments[index - 1]? = some ['-', '-'] then index + 1 else index)
  | some ([], index, _) => ending index
  | some (letter :: later, index, read) =>
      let isQuiet := letters.head? = some ':'
      let lettersRead := if later = [] then 0 else read + 1
      match takesArgument letters letter with
      | none =>
          if isQuiet then ⟨'?', index, lettersRead, some [letter], none, false⟩
          else
            ⟨'?', index, lettersRead, none, some ("Illegal option -".toList ++ [letter, '\n']), false⟩
      | some false => ⟨letter, index, lettersRead, some [], none, false⟩
      | some true =>
          if later ≠ [] then ⟨letter, index, 0, some later, none, false⟩
          else
            match arguments[index - 1]? with
            | some argument => ⟨letter, index + 1, 0, some argument, none, false⟩
            | none =>
                if isQuiet then ⟨':', index, 0, some [letter], none, false⟩
                else
                  ⟨'?', index, 0, none,
                    some ("No arg for -".toList ++ letter :: " option\n".toList), false⟩

/-- Reads the next option of the script, or of the arguments that are given. -/
def getOption (arguments : List Octets) : Act Nat := do
  let options ← optionsOf "" arguments
  match options.rest with
  | letters :: name :: given =>
      let state ← get
      let all := if given.isEmpty then state.arguments else given
      let index := if all.length + 1 < state.optionIndex then 1 else state.optionIndex
      let found := nextOption letters all index state.lettersRead
      match found.argument with
      | some argument => assign optionArgumentName argument false
      | none =>
          if found.complaint.isSome then
            modify fun state => state.setVariable optionArgumentName none
      tell (found.complaint.getD [])
      assign optionIndexName (Number.text found.index) false
      assign name [found.letter] false
      modify fun state => { state with lettersRead := found.lettersRead }
      return if found.isEnd then 1 else 0
  | _ => fail "Usage: getopts optstring var [arg...]".toList

/-! ## Lines -/

/-- A line that has been read. -/
structure Line where
  stretches : List Stretch
  /-- The bytes that follow it. -/
  rest : Octets
  /-- Does a line end stand behind it? -/
  isEnded : Bool

def Line.withByte (c : Char) (line : Line) : Line :=
  { line with
    stretches := match line.stretches with
      | ⟨.atSeparators, marks⟩ :: later => ⟨.atSeparators, .byte c true :: marks⟩ :: later
      | later => ⟨.atSeparators, [.byte c true]⟩ :: later }

/-- Reads a line; unless it is raw, a backslash fixes the byte behind it, and continues the line. -/
def readLine (isRaw : Bool) : (text : Octets) → Line
  | [] => ⟨[], [], false⟩
  | '\n' :: rest => ⟨[], rest, true⟩
  | '\\' :: c :: rest =>
      if isRaw then (readLine isRaw (c :: rest)).withByte '\\'
      else
        let line := readLine isRaw rest
        if c = '\n' then line
        else { line with stretches := ⟨.whole, [.byte c true]⟩ :: line.stretches }
  | c :: rest =>
      let line := readLine isRaw rest
      if c = '\x00' || (c = '\\' && !isRaw) then line else line.withByte c

/-- Sets variables to fields; those for which there is none are empty. -/
def setFields : (names : List Octets) → (fields : List (List Mark)) → Act Unit
  | [], _ => return
  | name :: names, fields => do
      assign name (Mark.text (fields.head?.getD [])) false
      setFields names fields.tail

def read (arguments : List Octets) : Act Nat := do
  let options ← optionsOf "p:r" arguments
  if options.rest.isEmpty then fail "arg count".toList
  else
    match (← get).read standardInput with
    | .error _ =>
        setFields options.rest []
        return 1
    | .ok (text, state) =>
        let line := readLine (options.has 'r') text
        set (state.unread standardInput line.rest)
        let fields :=
          Stretch.fields state.separators (some options.rest.length) line.stretches
        setFields options.rest fields
        return if line.isEnded then 0 else 1

end ModeSwitch.Host.Shell.Builtin
