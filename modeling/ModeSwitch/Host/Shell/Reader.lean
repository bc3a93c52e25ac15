import ModeSwitch.Host.Shell.Builtin
import ModeSwitch.Host.Shell.Token

/-! Reading scripts.

A script is read one command list at a time, each up to the end of its last line, because a command can
only be misunderstood once those on the lines before it have been run.  A document that a redirection
announces follows the line and is kept apart from the command, by a number.
-/

namespace ModeSwitch.Host.Shell

/-- A document that a redirection has announced. -/
structure Announced where
  number : Nat
  dropsTabs : Bool
  /-- The line that ends the document. -/
  delimiter : Octets
  /-- Are values put into the document? -/
  isExpanded : Bool

/-- Where the reader of a script is, and what it knows. -/
structure ReaderState where
  rest : Octets
  line : Nat
  /-- A token that has been read and is still to be used. -/
  pushed : Option Token
  /-- The documents that follow the line, the first one first. -/
  announced : List Announced
  /-- The number of the next document. -/
  nextDocument : Nat
  /-- The documents so far, by their numbers. -/
  documents : List (Nat × Word)
  aliases : List (Octets × Octets)
  /-- The names that have been replaced, and how much was left to read behind each. -/
  replaced : List (Octets × Nat)
  /-- How much is left to read behind texts of names that end with a blank: the word behind may be a
  name, too. -/
  opened : List Nat

abbrev Reader := StateT ReaderState (Except ScriptFault)

namespace Reader

def refuse {α : Type} (problem : ScriptProblem) : Reader α := do
  throw ⟨problem, (← get).line⟩

def unexpected {α : Type} (token : Token) (expected : Option Token) : Reader α :=
  refuse (.unexpected token expected)

/-! ## Characters -/

def afterContinued (count : Nat) : Octets → Octets × Nat
  | '\\' :: '\n' :: rest => afterContinued (count + 1) rest
  | rest => (rest, count)

def peek : Reader (Option Char) := do
  let state ← get
  let (rest, count) := afterContinued 0 state.rest
  set { state with rest, line := state.line + count }
  return rest.head?

/-- The next character, even if it only continues a line. -/
def peekRaw : Reader (Option Char) :=
  return (← get).rest.head?

def skip : Reader Unit :=
  modify fun state =>
    match state.rest with
    | '\n' :: rest => { state with rest, line := state.line + 1 }
    | rest => { state with rest := rest.drop 1 }

def skipIf (c : Char) : Reader Bool := do
  if (← peek) = some c then
    skip
    return true
  else return false

/-- Reads characters as long as they have a property; at most `count`. -/
def takeWhile (property : Char → Bool) : (count : Nat) → Reader Octets
  | 0 => return []
  | count + 1 => do
      match ← peek with
      | some c =>
          if property c then
            skip
            return c :: (← takeWhile property count)
          else return []
      | none => return []

def remaining : Reader Nat :=
  return (← get).rest.length

/-! ## Documents -/

/-- The lines before a delimiter, the rest behind it, and the number of lines that were read. -/
def linesBefore (announced : Announced) : (steps : Nat) → Octets → Octets × Octets × Nat
  | 0, rest => ([], rest, 0)
  | _, [] => ([], [], 0)
  | steps + 1, text =>
      let whole := text.takeWhile (· ≠ '\n')
      let rest := text.drop whole.length
      let line := if announced.dropsTabs then whole.dropWhile (· = '\t') else whole
      if line = announced.delimiter then ([], rest.drop 1, if rest = [] then 0 else 1)
      else
        match rest with
        | [] => (line, [], 0)
        | _ :: rest =>
            let (lines, rest, count) := linesBefore announced steps rest
            (line ++ '\n' :: lines, rest, count + 1)

/-! ## Tokens -/

/-- What the reader of a word is in. -/
inductive Quoting where
  | plain
  | quoted
  /-- An expression. -/
  | expression
  /-- A document. -/
  | document
  deriving DecidableEq, Repr

/-- What a stretch of a word ends with. -/
inductive Ending where
  | word
  | quote
  | brace
  | parentheses
  | document
  deriving DecidableEq, Repr

/-- How a stretch of a word is read. -/
structure Context where
  quoting : Quoting
  ending : Ending
  /-- Does it stand between braces, directly or in quotes? -/
  inBraces : Bool
  /-- Is it part of a document, where quotes between braces vanish? -/
  inDocument : Bool
  /-- Is it the delimiter of a document, which takes nothing but quotes for special? -/
  isDelimiter : Bool
  /-- How many parentheses of an expression are open. -/
  depth : Nat
  deriving DecidableEq, Repr

namespace Context

def word : Context := ⟨.plain, .word, false, false, false, 0⟩

def delimiter : Context := { word with isDelimiter := true }

def document : Context := ⟨.document, .document, false, true, false, 0⟩

def expression (context : Context) : Context :=
  { context with quoting := .expression, ending := .parentheses, inBraces := false, depth := 0 }

/-- The word behind an operator in a stretch of a word, or the form. -/
def braces (context : Context) (isForm : Bool) : Context :=
  { context with
    quoting := if isForm || context.quoting = .plain then .plain else .quoted
    ending := .brace
    inBraces := true }

end Context

/-- The name of the thing that is not closed at the end of the script. -/
def Context.problem (context : Context) : ScriptProblem :=
  if context.quoting = .expression then .expressionNotClosed
  else if context.quoting = .plain || context.inDocument then .braceNotClosed
  else .quoteNotClosed

def endsWord (c : Char) : Bool :=
  " \t\n;&|()<>".contains c

def backquote : Char := '\x60'

def specialParameter? : Char → Option Parameter
  | '@' => some .all
  | '*' => some .joined
  | '#' => some .count
  | '?' => some .status
  | '$' => some .process
  | '!' => some .job
  | '-' => some .options
  | _ => none

def digitsValue (digits : Octets) : Nat :=
  digits.foldl (fun n c => n * 10 + (c.toNat - '0'.toNat)) 0

/-- What stands behind a backslash: the character without its sense or, between quotes, mostly both as
they are. -/
def escaped (context : Context) : Option Char → Word
  | none => [.fixed '\\']
  | some c =>
      let isEscape :=
        context.quoting = .plain || c = '\\' || c = backquote || c = '$'
          || (c = '"' && !(context.inDocument && !context.inBraces))
          || (c = '\x7d' && context.inBraces)
      if isEscape then [.fixed c] else [.fixed '\\', .fixed c]

/-- Reads a text between single quotes; the first one has been read. -/
def singleQuotes : Reader Word := do
  let state ← get
  let text := state.rest.takeWhile (· ≠ '\'')
  let line := state.line + text.count '\n'
  match state.rest.drop text.length with
  | [] => throw ⟨.quoteNotClosed, line⟩
  | _ :: rest =>
      set { state with rest, line }
      return .mark :: text.map .fixed ++ [.mark]

def useOf (operator : Octets) (word : Word) : ParameterUse :=
  match operator with
  | ['-'] => .orElse false word
  | [':', '-'] => .orElse true word
  | ['+'] => .ifSet false word
  | [':', '+'] => .ifSet true word
  | ['='] => .orAssigned false word
  | [':', '='] => .orAssigned true word
  | ['?'] => .orFailing false word
  | [':', '?'] => .orFailing true word
  | ['#'] => .withoutHead false word
  | ['#', '#'] => .withoutHead true word
  | ['%'] => .withoutTail false word
  | ['%', '%'] => .withoutTail true word
  | _ => .unknown word

/-- Does the operator take a form, which is read as if outside quotes? -/
def takesForm (operator : Octets) : Bool :=
  operator.head? = some '#' || operator.head? = some '%'

def useOperator : Reader Octets := do
  match ← peek with
  | some ':' =>
      skip
      match ← peek with
      | some c =>
          if "\x7d-+?=".contains c then
            skip
            return [':', c]
          else return [':']
      | none => return [':']
  | some c =>
      if c = '#' || c = '%' then
        skip
        if ← skipIf c then return [c, c] else return [c]
      else if "-+?=".contains c then
        skip
        return [c]
      else return []
  | none => return []

/-- Reads the name of a parameter between braces, and whether its length is meant; what stands there
may be none. -/
def parameterName : Reader (Option (Parameter × Bool)) := do
  let count ← remaining
  match ← peek with
  | none => return none
  | some c =>
      if beginsName c then return some (.variable (← takeWhile isNameChar count), false)
      else if c.isDigit then
        return some (.position (digitsValue (← takeWhile Char.isDigit count)), false)
      else
        match specialParameter? c with
        | none =>
            if c ≠ '\x7d' then skip
            return none
        | some special =>
            skip
            if c ≠ '#' then return some (special, false)
            else
              match ← peek with
              | none => return some (.count, false)
              | some d =>
                  if beginsName d then
                    return some (.variable (← takeWhile isNameChar count), true)
                  else if d.isDigit then
                    return some (.position (digitsValue (← takeWhile Char.isDigit count)), true)
                  else
                    let before ← get
                    skip
                    if (← peek) = some '\x7d' && d ≠ '\x7d' then
                      return (specialParameter? d).map (·, true)
                    else
                      set before
                      return some (.count, false)

/-- What a token is wanted for. -/
structure Wanted where
  /-- Are line ends left out before it? -/
  skipsLines : Bool
  /-- May it be a keyword? -/
  asKeyword : Bool
  /-- May it be a name that stands for a text? -/
  asAlias : Bool

namespace Wanted

def word : Wanted := ⟨false, false, false⟩

def command : Wanted := ⟨false, true, true⟩

def commandOnLaterLine : Wanted := ⟨true, true, true⟩

end Wanted

def skipBlanks : (count : Nat) → Reader Unit
  | 0 => return
  | count + 1 => do
      match ← peek with
      | some ' ' | some '\t' =>
          skip
          skipBlanks count
      | some '#' => modify fun state => { state with rest := state.rest.dropWhile (· ≠ '\n') }
      | _ => return

def operator? : Reader (Option Token) := do
  match ← peek with
  | none => return some .endOfScript
  | some '\n' =>
      skip
      return some .newline
  | some '&' =>
      skip
      return some (if ← skipIf '&' then .andThen else .background)
  | some '|' =>
      skip
      return some (if ← skipIf '|' then .orElse else .pipe)
  | some ';' =>
      skip
      return some (if ← skipIf ';' then .endOfCase else .semicolon)
  | some '(' =>
      skip
      return some .opening
  | some ')' =>
      skip
      return some .closing
  | _ => return none

/-- Reads the operator of a redirection, which comes next, behind an optional number. -/
def redirectionOperator (number : Option Nat) : Reader Token := do
  if ← skipIf '>' then
    let leading ←
      if ← skipIf '>' then pure (Leading.file .append)
      else if ← skipIf '|' then pure (Leading.file .overwrite)
      else if ← skipIf '&' then pure Leading.duplicate
      else pure (Leading.file .write)
    return .redirection (number.getD 1) leading
  else
    skip
    let leading ←
      if ← skipIf '<' then pure (Leading.document (← skipIf '-'))
      else if ← skipIf '&' then pure Leading.duplicate
      else if ← skipIf '>' then pure (Leading.file .readWrite)
      else pure (Leading.file .read)
    return .redirection (number.getD 0) leading

/-- The text of a command between backquotes, and what follows it.  A backslash before some
characters is left out. -/
def betweenBackquotes (isQuoted : Bool) : Octets → Option (Octets × Octets)
  | [] => none
  | '\\' :: '\n' :: rest => betweenBackquotes isQuoted rest
  | '\\' :: c :: rest =>
      let isEscape := c = '\\' || c = backquote || c = '$' || (isQuoted && c = '"')
      (betweenBackquotes isQuoted rest).map fun (text, rest) =>
        (if isEscape then (c :: text, rest) else ('\\' :: c :: text, rest))
  | c :: rest =>
      if c = backquote then some ([], rest)
      else (betweenBackquotes isQuoted rest).map fun (text, rest) => (c :: text, rest)

/-- How a list of commands ends. -/
inductive ListKind where
  /-- With the line. -/
  | line
  /-- With a token that ends lists; the list may not be empty. -/
  | inner
  /-- With a token that ends lists; the list may be empty. -/
  | optional
  deriving DecidableEq, Repr

def after (before : Option Command) (command : Command) : Command :=
  match before with
  | none => command
  | some before => .sequence before command

def inBackground (line : Nat) : Command → Command
  | .pipeline _ stages => .pipeline true stages
  | .redirected line command redirections => .background line command redirections
  | command => .background line (some command) []

def documentText (announced : Announced) : Reader Octets := do
  let state ← get
  let (text, rest, count) := linesBefore announced (state.rest.length + 1) state.rest
  set { state with rest, line := state.line + count }
  return text

def keepDocument (number : Nat) (word : Word) : Reader Unit :=
  modify fun state => { state with documents := (number, word) :: state.documents }

def announce (dropsTabs : Bool) (delimiter : Word) : Reader Nat := do
  let state ← get
  let number := state.nextDocument
  let announced : Announced :=
    ⟨number, dropsTabs, delimiter.unquoted, !delimiter.isQuoted⟩
  set { state with announced := state.announced ++ [announced], nextDocument := number + 1 }
  return number

def push (token : Token) : Reader Unit :=
  modify fun state => { state with pushed := some token }

def isBlank (c : Char) : Bool :=
  c = ' ' || c = '\t'

/-- Has a token been read that stands behind the text of a name that ends with a blank? -/
def isOpened (leftBefore : Nat) : Reader Bool := do
  let state ← get
  return state.opened.any fun left => left < leftBefore && state.rest.length ≤ left

/-- The text that a name stands for.  A name in its own text stands for itself. -/
def aliasText? (name : Octets) : Reader (Option Octets) := do
  let state ← get
  let isReplaced := state.replaced.any fun (other, left) => other = name && left ≤ state.rest.length
  return if isReplaced then none else state.aliases.lookup name

def replaceName (name text : Octets) : Reader Unit :=
  modify fun state =>
    { state with
      rest := text ++ state.rest
      replaced := (name, state.rest.length) :: state.replaced
      opened :=
        if text.getLast?.any isBlank then state.rest.length :: state.opened else state.opened }

/-- Sets the text to be read apart from what follows, reads it, and goes back. -/
def readApart {α : Type} (text : Octets) (line : Nat) (reader : Reader α) : Reader α := do
  let before ← get
  set { before with rest := text, line, pushed := none, announced := [] }
  let result ← reader
  modify fun state =>
    { state with rest := before.rest, line := before.line, pushed := none,
                 announced := before.announced }
  return result

mutual

def pieces : (fuel : Nat) → Context → Reader Word
  | 0, _ => return []
  | fuel + 1, context => do
      match ← peek with
      | none =>
          if context.ending = .word || context.ending = .document then return []
          else refuse context.problem
      | some c =>
          if c = '\\' then
            skip
            let next ← peekRaw
            if next.isSome then skip
            return escaped context next ++ (← pieces fuel context)
          else if c = '$' then
            skip
            if context.isDelimiter then return .char '$' :: (← pieces fuel context)
            else
              let piece ← dollar fuel context
              return piece :: (← pieces fuel context)
          else if c = backquote then
            skip
            if context.isDelimiter then return .fixed c :: (← pieces fuel context)
            else
              let piece ← oldOutput fuel context
              return piece :: (← pieces fuel context)
          else
            match context.quoting with
            | .plain =>
                if c = '\'' then
                  skip
                  let quoted ← singleQuotes
                  return quoted ++ (← pieces fuel context)
                else if c = '"' then
                  skip
                  let inner ← pieces fuel { context with quoting := .quoted, ending := .quote }
                  return .mark :: inner ++ .mark :: (← pieces fuel context)
                else if c = '\x7d' && context.ending = .brace then
                  skip
                  return []
                else if context.ending = .word && endsWord c then return []
                else
                  skip
                  return .char c :: (← pieces fuel context)
            | .quoted =>
                skip
                if c = '"' then
                  if context.ending = .quote then return []
                  else
                    let inner ← pieces fuel { context with ending := .quote }
                    let quote : Word := if context.inDocument then [] else [.mark]
                    return quote ++ inner ++ quote ++ (← pieces fuel context)
                else if c = '\x7d' && context.ending = .brace then return []
                else return .char c :: (← pieces fuel context)
            | .document =>
                skip
                return .char c :: (← pieces fuel context)
            | .expression =>
                skip
                if c = '(' then
                  return .char c :: (← pieces fuel { context with depth := context.depth + 1 })
                else if c = ')' then
                  if context.depth ≠ 0 then
                    return .char c :: (← pieces fuel { context with depth := context.depth - 1 })
                  else if ← skipIf ')' then return []
                  else return .char c :: (← pieces fuel context)
                else return .char c :: (← pieces fuel context)

/-- Reads what a dollar sign begins; the sign has been read. -/
def dollar : (fuel : Nat) → Context → Reader Piece
  | 0, _ => return .char '$'
  | fuel + 1, context => do
      match ← peek with
      | none => return .char '$'
      | some c =>
          if c = '(' then
            skip
            if ← skipIf '(' then return .value (← pieces fuel context.expression)
            else return .output (← outputCommand fuel)
          else if c = '\x7b' then
            skip
            braced fuel context
          else if beginsName c then
            return .parameter (.variable (← takeWhile isNameChar (← remaining))) .plain
          else if c.isDigit then
            skip
            return .parameter (.position (digitsValue [c])) .plain
          else
            match specialParameter? c with
            | some special =>
                skip
                return .parameter special .plain
            | none => return .char '$'

/-- Reads the use of a parameter between braces; the opening one has been read. -/
def braced : (fuel : Nat) → Context → Reader Piece
  | 0, _ => return .char '$'
  | fuel + 1, context => do
      match ← parameterName with
      | none => return .parameter .count (.unknown (← pieces fuel (context.braces false)))
      | some (which, true) =>
          if ← skipIf '\x7d' then return .parameter which .length
          else return .parameter which (.unknown (← pieces fuel (context.braces false)))
      | some (which, false) =>
          if ← skipIf '\x7d' then return .parameter which .plain
          else
            let operator ← useOperator
            if operator = [] && (← peek).isSome then skip
            let word ← pieces fuel (context.braces (takesForm operator))
            return .parameter which (useOf operator word)

def outputCommand : (fuel : Nat) → Reader (Option Command)
  | 0 => return none
  | fuel + 1 => do
      let announced := (← get).announced
      modify fun state => { state with announced := [] }
      let command ← list fuel .optional none true
      match ← readToken fuel .word with
      | .closing =>
          for pending in (← get).announced do
            keepDocument pending.number []
          modify fun state => { state with announced }
          return command
      | token => unexpected token (some .closing)

/-- Reads a command between backquotes; the first one has been read. -/
def oldOutput : (fuel : Nat) → Context → Reader Piece
  | 0, _ => return .output none
  | fuel + 1, context => do
      let state ← get
      match betweenBackquotes (context.quoting ≠ .plain) state.rest with
      | none => throw ⟨.outputNotClosed, state.line + state.rest.count '\n'⟩
      | some (text, rest) =>
          let lines := (state.rest.take (state.rest.length - rest.length)).count '\n'
          let command ← readApart text 1 (list fuel .optional none true)
          modify fun state => { state with rest, line := state.line + lines }
          return .output command

def rawToken : (fuel : Nat) → Context → Reader Token
  | 0, _ => return .endOfScript
  | fuel + 1, context => do
      match (← get).pushed with
      | some token =>
          modify fun state => { state with pushed := none }
          return token
      | none =>
          skipBlanks ((← remaining) + 1)
          match ← operator? with
          | some token => return token
          | none =>
              let word ← pieces fuel context
              let next ← peek
              if next = some '<' || next = some '>' then
                match word.bare? with
                | some [] => redirectionOperator none
                | some [c] =>
                    if c.isDigit then redirectionOperator (some (digitsValue [c]))
                    else return .word word
                | _ => return .word word
              else return .word word

def readDocuments : (fuel : Nat) → Reader Unit
  | 0 => return
  | fuel + 1 => do
      let announced := (← get).announced
      modify fun state => { state with announced := [] }
      for pending in announced do
        let line := (← get).line
        let text ← documentText pending
        let word ←
          if pending.isExpanded then readApart text line (pieces fuel .document)
          else pure (text.map .fixed)
        keepDocument pending.number word

def readToken : (fuel : Nat) → Wanted → Reader Token
  | 0, _ => return .endOfScript
  | fuel + 1, wanted => do
      let left ← remaining
      let token ← rawToken fuel .word
      let asAlias := wanted.asAlias || (← isOpened left)
      match token with
      | .newline =>
          if wanted.skipsLines then
            readDocuments fuel
            readToken fuel wanted
          else return .newline
      | .word word =>
          match word.bare? with
          | none => return token
          | some text =>
              match if wanted.asKeyword then Keyword.ofText? text else none with
              | some keyword => return .keyword keyword
              | none =>
                  match ← aliasText? text with
                  | some replacement =>
                      if asAlias then
                        replaceName text replacement
                        readToken fuel wanted
                      else return token
                  | none => return token
      | token => return token

/-- Reads a token, which must be a certain keyword. -/
def expect : (fuel : Nat) → Keyword → Reader Unit
  | 0, _ => return
  | fuel + 1, keyword => do
      match ← readToken fuel .word with
      | .keyword found =>
          if found = keyword then return else unexpected (.keyword found) (some (.keyword keyword))
      | token => unexpected token (some (.keyword keyword))

def list : (fuel : Nat) → ListKind → (before : Option Command) → (isFirst : Bool) →
    Reader (Option Command)
  | 0, _, before, _ => return before
  | fuel + 1, kind, before, isFirst => do
      let token ← readToken fuel (if kind = .line then .command else .commandOnLaterLine)
      match token with
      | .newline =>
          readDocuments fuel
          return before
      | .endOfScript =>
          readDocuments fuel
          push token
          return before
      | token =>
          push token
          if token.endsList && (kind = .optional || (kind = .inner && !isFirst)) then return before
          else
            let line := (← get).line
            let command ← conditional fuel
            match ← readToken fuel .word with
            | .background => list fuel kind (some (after before (inBackground line command))) false
            | .semicolon => list fuel kind (some (after before command)) false
            | .newline =>
                push .newline
                list fuel kind (some (after before command)) false
            | .endOfScript =>
                readDocuments fuel
                push .endOfScript
                return some (after before command)
            | token =>
                if kind = .line then unexpected token none
                else
                  push token
                  return some (after before command)

def conditional : (fuel : Nat) → Reader Command
  | 0 => refuse .outputNotClosed
  | fuel + 1 => do
      let first ← pipeline fuel
      laterConditions fuel first

def laterConditions : (fuel : Nat) → Command → Reader Command
  | 0, command => return command
  | fuel + 1, command => do
      match ← readToken fuel .word with
      | .andThen =>
          let token ← readToken fuel .commandOnLaterLine
          push token
          laterConditions fuel (.both command (← pipeline fuel))
      | .orElse =>
          let token ← readToken fuel .commandOnLaterLine
          push token
          laterConditions fuel (.either command (← pipeline fuel))
      | token =>
          push token
          return command

def pipeline : (fuel : Nat) → Reader Command
  | 0 => refuse .outputNotClosed
  | fuel + 1 => do
      let token ← readToken fuel .word
      let isNegated := match token with
        | .keyword .not => true
        | _ => false
      if isNegated then push (← readToken fuel ⟨false, true, true⟩) else push token
      let first ← command fuel
      let rest ← laterStages fuel
      let whole := if rest.isEmpty then first else .pipeline false (first :: rest)
      return if isNegated then .negation whole else whole

def laterStages : (fuel : Nat) → Reader (List Command)
  | 0 => return []
  | fuel + 1 => do
      match ← readToken fuel .word with
      | .pipe =>
          push (← readToken fuel .commandOnLaterLine)
          let stage ← command fuel
          return stage :: (← laterStages fuel)
      | token =>
          push token
          return []

def command : (fuel : Nat) → Reader Command
  | 0 => refuse .outputNotClosed
  | fuel + 1 => do
      let line := (← get).line
      match ← readToken fuel .word with
      | .keyword .if => withRedirections fuel line (← choice fuel)
      | .keyword .while => withRedirections fuel line (← loop fuel false)
      | .keyword .until => withRedirections fuel line (← loop fuel true)
      | .keyword .for => withRedirections fuel line (← each fuel line)
      | .keyword .case => withRedirections fuel line (← select fuel line)
      | .opening =>
          let body ← list fuel .inner none true
          match ← readToken fuel .word with
          | .closing =>
              let redirections ← redirections fuel ⟨false, true, true⟩
              return .apart line body redirections
          | token => unexpected token (some .closing)
      | .keyword .opening =>
          let body ← list fuel .inner none true
          expect fuel .closing
          let redirections ← redirections fuel ⟨false, true, true⟩
          match redirections, body with
          | [], some body => return body
          | redirections, body => return .redirected line body redirections
      | .word word =>
          push (.word word)
          simple fuel (← get).line [] [] []
      | .redirection source leading =>
          push (.redirection source leading)
          simple fuel (← get).line [] [] []
      | token => unexpected token none

/-- Reads redirections behind a command, if there are any. -/
def withRedirections : (fuel : Nat) → (line : Nat) → Command → Reader Command
  | 0, _, command => return command
  | fuel + 1, line, command => do
      match ← redirections fuel ⟨false, true, true⟩ with
      | [] => return command
      | redirections => return .redirected line (some command) redirections

def redirections : (fuel : Nat) → Wanted → Reader (List Redirection)
  | 0, _ => return []
  | fuel + 1, wanted => do
      match ← readToken fuel wanted with
      | .redirection source leading =>
          let redirection ← redirectionWord fuel source leading
          return redirection :: (← redirections fuel .word)
      | token =>
          push token
          return []

def redirectionWord : (fuel : Nat) → (source : Nat) → Leading → Reader Redirection
  | 0, source, _ => return .duplicate source none
  | fuel + 1, source, leading => do
      let context : Context := match leading with
        | .document _ => .delimiter
        | .file _ | .duplicate => .word
      match ← rawToken fuel context with
      | .word word =>
          match leading with
          | .file opening => return .file source opening word
          | .document dropsTabs => return .document source (← announce dropsTabs word)
          | .duplicate =>
              match word.bare? with
              | some ['-'] => return .duplicate source none
              | some [c] =>
                  if c.isDigit then return .duplicate source (some (digitsValue [c]))
                  else return .duplicateNamed source word
              | _ => return .duplicateNamed source word
      | token => unexpected token none

/-- Reads a simple command behind parts of it, which stand in reverse; a single word in front of
parentheses is the name of a function. -/
def simple : (fuel : Nat) → (line : Nat) → (assignments words : List Word) →
    List Redirection → Reader Command
  | 0, _, _, _, _ => refuse .outputNotClosed
  | fuel + 1, line, assignments, words, redirections => do
      match ← readToken fuel ⟨false, false, words.isEmpty⟩ with
      | .word word =>
          if words.isEmpty && word.isAssignment then
            simple fuel line (word :: assignments) words redirections
          else simple fuel line assignments (word :: words) redirections
      | .redirection source leading =>
          let redirection ← redirectionWord fuel source leading
          simple fuel line assignments words (redirection :: redirections)
      | token =>
          let done : Command :=
            .simple line assignments.reverse words.reverse redirections.reverse
          match token, words, assignments, redirections with
          | .opening, [word], [], [] => definition fuel word
          | token, _, _, _ =>
              push token
              return done

def definition : (fuel : Nat) → Word → Reader Command
  | 0, _ => refuse .badFunctionName
  | fuel + 1, word => do
      match ← readToken fuel .word with
      | .closing =>
          match word.bare? with
          | some name =>
              if isName name && !isSpecialBuiltin name then
                push (← readToken fuel .commandOnLaterLine)
                return .definition name (← command fuel)
              else refuse .badFunctionName
          | none => refuse .badFunctionName
      | token => unexpected token (some .closing)

def choice : (fuel : Nat) → Reader Command
  | 0 => refuse .outputNotClosed
  | fuel + 1 => do
      let condition ← list fuel .inner none true
      expect fuel .then
      let positive ← list fuel .inner none true
      match ← readToken fuel .word with
      | .keyword .elif => return .choice condition positive (some (← choice fuel))
      | .keyword .else =>
          let negative ← list fuel .inner none true
          expect fuel .fi
          return .choice condition positive negative
      | token =>
          push token
          expect fuel .fi
          return .choice condition positive none

def loop : (fuel : Nat) → (endsOnSuccess : Bool) → Reader Command
  | 0, _ => refuse .outputNotClosed
  | fuel + 1, endsOnSuccess => do
      let condition ← list fuel .inner none true
      expect fuel .do
      let body ← list fuel .inner none true
      expect fuel .done
      return .loop endsOnSuccess condition body

def each : (fuel : Nat) → (line : Nat) → Reader Command
  | 0, _ => refuse .outputNotClosed
  | fuel + 1, line => do
      let name ← match ← readToken fuel .word with
        | .word word =>
            match word.bare? with
            | some name => if isName name then pure name else refuse .badLoopVariable
            | none => refuse .badLoopVariable
        | _ => refuse .badLoopVariable
      let words ← match ← readToken fuel .commandOnLaterLine with
        | .keyword .in => loopWords fuel
        | .semicolon => pure [[.mark, .parameter .all .plain, .mark]]
        | token =>
            push token
            pure [[.mark, .parameter .all .plain, .mark]]
      match ← readToken fuel .commandOnLaterLine with
      | .keyword .do =>
          let body ← list fuel .inner none true
          expect fuel .done
          return .each line name words body
      | token => unexpected token (some (.keyword .do))

/-- Reads the words of a loop up to the end of the line, or a semicolon. -/
def loopWords : (fuel : Nat) → Reader (List Word)
  | 0 => return []
  | fuel + 1 => do
      match ← readToken fuel .word with
      | .word word => return word :: (← loopWords fuel)
      | .newline | .semicolon => return []
      | token => unexpected token none

def select : (fuel : Nat) → (line : Nat) → Reader Command
  | 0, _ => refuse .outputNotClosed
  | fuel + 1, line => do
      match ← readToken fuel .word with
      | .word word =>
          match ← readToken fuel .commandOnLaterLine with
          | .keyword .in => return .select line word (← cases fuel)
          | token => unexpected token (some (.keyword .in))
      | token => unexpected token (some (.word []))

def cases : (fuel : Nat) → Reader (List Case)
  | 0 => return []
  | fuel + 1 => do
      match ← readToken fuel ⟨true, true, false⟩ with
      | .keyword .esac => return []
      | token =>
          let first ← match token with
            | .opening => readToken fuel .word
            | token => pure token
          let forms ← caseForms fuel first
          let body ← list fuel .optional none true
          match ← readToken fuel ⟨true, true, false⟩ with
          | .keyword .esac => return [.case forms body]
          | .endOfCase => return .case forms body :: (← cases fuel)
          | token => unexpected token (some .endOfCase)

/-- Reads the forms of a case, of which the first is given, up to a closing parenthesis. -/
def caseForms : (fuel : Nat) → Token → Reader (List Word)
  | 0, _ => return []
  | fuel + 1, first => do
      let form : Word := match first with
        | .word word => word
        | .keyword keyword => keyword.text.toList.map .char
        | _ => []
      match ← readToken fuel .word with
      | .pipe =>
          let next ← readToken fuel .word
          return form :: (← caseForms fuel next)
      | .closing => return [form]
      | token => unexpected token (some .closing)

end

end Reader

/-- Reads the commands of the next lines of a script: nothing at its end. -/
def nextCommands (fuel : Nat) : Reader (Option (Option Command)) := do
  match ← Reader.readToken fuel ⟨false, false, false⟩ with
  | .endOfScript => return none
  | token =>
      Reader.push token
      return some (← Reader.list fuel .line none true)

namespace ReaderState

def start (script : Octets) (line nextDocument : Nat) (aliases : List (Octets × Octets)) :
    ReaderState :=
  ⟨script, line, none, [], nextDocument, [], aliases, [], []⟩

end ReaderState

end ModeSwitch.Host.Shell
