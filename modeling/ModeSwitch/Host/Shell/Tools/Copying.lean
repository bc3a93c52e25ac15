import ModeSwitch.Host.Shell.Tools.Given

/-! Programs that copy texts, perhaps with something added. -/

namespace ModeSwitch.Host.Shell.Tools

/-! ## Showing -/

/-- A byte in characters that can be printed: a caret stands for a control, and a pair of characters
in front for a byte beyond seven bits. -/
def visibleByte (c : Char) : Octets :=
  let low (n : Nat) : Octets :=
    if n < 0x20 then ['^', Char.ofNat (n + 0x40)]
    else if n = 0x7F then ['^', '?']
    else [Char.ofNat n]
  if c.toNat < 0x80 then low c.toNat else ['M', '-'] ++ low (c.toNat - 0x80)

structure Showing where
  numbersAll : Bool
  /-- Are lines numbered that are not empty? -/
  numbersSome : Bool
  /-- Are empty lines behind an empty line left out? -/
  isSqueezed : Bool
  showsEnds : Bool
  showsTabs : Bool
  showsOthers : Bool
  deriving DecidableEq, Repr

namespace Showing

def isPlain (showing : Showing) : Bool :=
  showing = ⟨false, false, false, false, false, false⟩

def line (showing : Showing) (line : Octets) : Octets :=
  line.flatMap fun c =>
    if c = '\n' then (if showing.showsEnds then ['$', '\n'] else ['\n'])
    else if c = '\t' then (if showing.showsTabs then ['^', 'I'] else ['\t'])
    else if showing.showsOthers then visibleByte c
    else [c]

def lines (showing : Showing) : (number : Nat) → (afterEmpty : Bool) → List Octets → Octets
  | _, _, [] => []
  | number, afterEmpty, line :: rest =>
      let isEmpty := line = ['\n']
      if showing.isSqueezed && isEmpty && afterEmpty then showing.lines number true rest
      else if showing.numbersSome && !isEmpty || showing.numbersAll && !showing.numbersSome then
        rightward 6 (number + 1) ++ '\t' :: showing.line line
          ++ showing.lines (number + 1) isEmpty rest
      else showing.line line ++ showing.lines number isEmpty rest

end Showing

def cat : Tool :=
  withOptions ⟨"AbeEnstTuv", [("show-all", 'A'), ("number-nonblank", 'b'), ("show-ends", 'E'),
    ("number", 'n'), ("squeeze-blank", 's'), ("show-tabs", 'T'), ("show-nonprinting", 'v')], 1⟩
    fun name given => do
    if ((← get).descriptors.lookup standardOutput).isNone then
      complainAs name ("standard output: " ++ SystemError.notOpen.words)
    else
      let has (letters : String) : Bool := letters.toList.any given.has
      let showing : Showing :=
        ⟨has "n", has "b", has "s", has "AeE", has "AtT", has "Aetv"⟩
      let hasInput := ((← get).descriptors.lookup standardInput).isSome
      let operands := orInput given.operands
      let mut status := 0
      let mut texts : List Octets := []
      for operand in operands do
        match ← readOperand operand with
        | .ok text =>
            if showing.isPlain then status := max status (← writeOut name text)
            else texts := text :: texts
        | .error cause => status ← complainAs name (unreadable operand cause)
      let shown := showing.lines 0 false (linesOf texts.reverse.flatten)
      status := max status (← writeOut name shown)
      if operands.any isInput && !hasInput then
        complainAs name ("closing standard input: " ++ SystemError.notOpen.words)
      else return status

def tac : Tool :=
  withOptions ⟨"brs:", [("before", 'b'), ("regex", 'r'), ("separator", 's')], 1⟩ fun name given =>
    let problem (operand : Octets) (cause : SystemError) : String :=
      if cause = .isDirectory then shownName operand ++ ": read error: Invalid argument"
      else "failed to open " ++ quotedName operand ++ " for reading: " ++ cause.words
    readOperands name problem (fun _ text => writeOut name (linesOf text).reverse.flatten)
      (orInput given.operands)

def tee : Tool :=
  withOptions ⟨"aip", [("append", 'a'), ("ignore-interrupts", 'i')], 1⟩ fun name given => do
    let mut status := 0
    let mut numbers : List Nat := []
    for operand in given.operands do
      match openPath (← get) (if given.has 'a' then .append else .write) operand with
      | .ok (state, number) =>
          set state
          numbers := number :: numbers
      | .error cause =>
          status ← complainAs name (unreadable operand cause)
    match ← readOperand ['-'] with
    | .error cause => complainAs name ("read error: " ++ cause.words)
    | .ok text =>
        for number in numbers do
          modify fun state => (state.writeChannel number text).toOption.getD state
        return max status (← writeOut name text)

end ModeSwitch.Host.Shell.Tools
