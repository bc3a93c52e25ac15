import ModeSwitch.Yaml.Node
import ModeSwitch.Yaml.Tokens

/-! Documents.

A document is read from tokens by descent: every kind of collection has a function for its entries,
and each ends where its tokens do.  When a token does not fit, or none is left, what was read so far
is kept, the failure is noted, and nothing more is read.
-/

namespace ModeSwitch.Yaml

inductive Failure where
  | problem (problem : Problem)
  /-- An alias for a name that no node before it has. -/
  | unknownAnchor (position : Position)
  deriving DecidableEq, Repr

/-- The first document of a text. -/
structure Document where
  root : Node
  failure : Option Failure
  /-- Does the text end with the document? -/
  isLast : Bool
  deriving Repr

structure Build where
  rest : List Token
  /-- What made the reading of tokens stop. -/
  problem : Option Problem
  failure : Option Failure
  /-- The anchors so far with their numbers, latest first. -/
  anchors : List (String × Nat)
  /-- What handles stand for. -/
  stems : List (String × TagText)

/-- A step of reading; it has no result if the reading has failed. -/
abbrev Builder := OptionT (StateM Build)

namespace Builder

variable {α : Type}

/-- Notes a failure, unless there is one. -/
def fail (failure : Failure) : Builder α := do
  modify fun build => { build with failure := build.failure.or (some failure) }
  OptionT.fail

def refuse (fault : Fault) (position : Position) (during : Option (Activity × Position)) :
    Builder α :=
  fail (.problem ⟨fault, position, during⟩)

/-- The next token, which stays. -/
def peek : Builder Token := do
  let build ← get
  match build.failure, build.rest, build.problem with
  | some failure, _, _ => fail failure
  | none, token :: _, _ => return token
  | none, [], some problem => fail (.problem problem)
  | none, [], none => OptionT.fail

def skip : Builder Unit :=
  modify fun build => { build with rest := build.rest.drop 1 }

def next : Builder Token := do
  skip
  peek

def orMissing (step : Builder Node) : Builder Node :=
  step <|> pure .missing

end Builder

open Builder

/-! ## Properties -/

/-- The properties in front of a node as they are written, and where the node starts. -/
structure WrittenProperties where
  start : Position
  anchor : Option String
  tag : Option (String × TagText × Position)

/-- Reads an anchor and a tag, in either order. -/
def readProperties : Builder WrittenProperties := do
  let first ← peek
  match first.kind with
  | .anchor name =>
      let second ← next
      match second.kind with
      | .tag handle suffix => do
          skip
          return ⟨first.start, some name, some (handle, suffix, second.start)⟩
      | _ => return ⟨first.start, some name, none⟩
  | .tag handle suffix =>
      let tag := some (handle, suffix, first.start)
      let second ← next
      match second.kind with
      | .anchor name => do
          skip
          return ⟨first.start, some name, tag⟩
      | _ => return ⟨first.start, none, tag⟩
  | _ => return ⟨first.start, none, none⟩

def resolveTag (written : WrittenProperties) : Builder (Option TagText) := do
  match written.tag with
  | none => return none
  | some (handle, suffix, position) =>
      if handle = "" then return some suffix
      else
        match (← get).stems.lookup handle with
        | some stem => return some (stem ++ suffix)
        | none => refuse .handleUndefined position (some (.node, written.start))

/-- Gives an anchor its number: how many other names there were before it. -/
def numberAnchor (name : Option String) : Builder (Option Nat) := do
  match name with
  | none => return none
  | some name =>
      let anchors := (← get).anchors
      let number := anchors.length
      modify fun build =>
        { build with anchors := (name, number) :: anchors.filter (·.1 ≠ name) }
      return some number

def readAlias (token : Token) (name : String) : Builder Node := do
  skip
  match (← get).anchors.lookup name with
  | some number => return .alias token.start number
  | none => fail (.unknownAnchor token.start)

/-! ## Collections -/

def cutItems : Builder (List Node) := pure [.missing]

def cutEntries : Builder (List (Node × Node)) := pure [(.missing, .missing)]

def endsBlockPart : TokenKind → Bool
  | .key | .value | .blockEnd => true
  | _ => false

/-- Does an entry of a flow collection with this end come to its own end before the token? -/
def endsFlowPart (closing : TokenKind) (kind : TokenKind) : Bool :=
  kind == .comma || kind == closing

mutual

/-- Reads a node.  Outside of flow collections it may be a block; as a key or a value of a block
mapping it may also be a sequence that is indented no further. -/
def readNode (inBlock allowsLevel : Bool) : (fuel : Nat) → Builder Node
  | 0 => OptionT.fail
  | fuel + 1 => do
      let first ← peek
      match first.kind with
      | .alias name => readAlias first name
      | _ =>
          let written ← readProperties
          let token ← peek
          let tag ← resolveTag written
          let start := written.start
          match token.kind with
          | .scalar text style => do
              skip
              let anchor ← numberAnchor written.anchor
              return .scalar start ⟨anchor, tag⟩ style text
          | .sequenceStart => do
              skip
              let anchor ← numberAnchor written.anchor
              return .sequence start ⟨anchor, tag⟩ (← readFlowItems token.start true fuel)
          | .mappingStart => do
              skip
              let anchor ← numberAnchor written.anchor
              return .mapping start ⟨anchor, tag⟩ (← readFlowEntries token.start true fuel)
          | kind =>
              if inBlock && kind = .blockSequenceStart then do
                skip
                let anchor ← numberAnchor written.anchor
                return .sequence start ⟨anchor, tag⟩ (← readBlockItems token.start fuel)
              else if inBlock && kind = .blockMappingStart then do
                skip
                let anchor ← numberAnchor written.anchor
                return .mapping start ⟨anchor, tag⟩ (← readBlockEntries token.start fuel)
              else if allowsLevel && kind = .entry then do
                let anchor ← numberAnchor written.anchor
                return .sequence start ⟨anchor, tag⟩ (← readLevelItems fuel)
              else if written.anchor.isSome || tag.isSome then do
                let anchor ← numberAnchor written.anchor
                return .scalar start ⟨anchor, tag⟩ .plain ""
              else
                let activity := if inBlock then Activity.blockNode else .flowNode
                refuse .contentMissing token.start (some (activity, start))

def readBlockItems (begun : Position) : (fuel : Nat) → Builder (List Node)
  | 0 => cutItems
  | fuel + 1 =>
      (do
        let token ← peek
        match token.kind with
        | .entry => do
            let following ← next
            let item ←
              if following.kind = .entry || following.kind = .blockEnd then
                pure (.empty token.stop)
              else orMissing (readNode true false fuel)
            return item :: (← readBlockItems begun fuel)
        | .blockEnd => do
            skip
            return []
        | _ => refuse .dashMissing token.start (some (.blockSequence, begun)))
      <|> cutItems

/-- Reads the items of a sequence that is indented no further than the mapping around it. -/
def readLevelItems : (fuel : Nat) → Builder (List Node)
  | 0 => cutItems
  | fuel + 1 =>
      (do
        let token ← peek
        match token.kind with
        | .entry => do
            let following ← next
            let item ←
              if following.kind = .entry || endsBlockPart following.kind then
                pure (.empty token.stop)
              else orMissing (readNode true false fuel)
            return item :: (← readLevelItems fuel)
        | _ => return [])
      <|> cutItems

def readBlockPart (token : Token) (fuel : Nat) : Builder Node :=
  match fuel with
  | 0 => OptionT.fail
  | fuel + 1 => do
      let following ← next
      if endsBlockPart following.kind then return .empty token.stop
      else readNode true true fuel

def readBlockEntries (begun : Position) : (fuel : Nat) → Builder (List (Node × Node))
  | 0 => cutEntries
  | fuel + 1 =>
      (do
        let token ← peek
        match token.kind with
        | .key => do
            let key ← readBlockPart token fuel
            let value ← orMissing (do
              let token ← peek
              if token.kind = .value then readBlockPart token fuel
              else return .empty token.start)
            return (key, value) :: (← readBlockEntries begun fuel)
        | .blockEnd => do
            skip
            return []
        | _ => refuse .keyMissing token.start (some (.blockMapping, begun)))
      <|> cutEntries

def readFlowValue (closing : TokenKind) : (fuel : Nat) → Builder Node
  | 0 => OptionT.fail
  | fuel + 1 => do
      let token ← peek
      if token.kind = .value then
        let following ← next
        if endsFlowPart closing following.kind then return .empty following.start
        else readNode false false fuel
      else return .empty token.start

/-- Reads a mapping of one entry in a flow sequence; its key token has been seen.  A key that is
left out takes the token after it along. -/
def readSingleEntry (start : Position) : (fuel : Nat) → Builder Node
  | 0 => OptionT.fail
  | fuel + 1 => do
      skip
      let entries ← (do
          let token ← peek
          let key ←
            if token.kind = .value || endsFlowPart .sequenceEnd token.kind then do
              skip
              pure (.empty token.stop)
            else readNode false false fuel
          let value ← orMissing (readFlowValue .sequenceEnd fuel)
          let more ← (do
              discard peek
              pure []) <|> cutEntries
          return (key, value) :: more)
        <|> cutEntries
      return .mapping start .none entries

def readFlowItems (begun : Position) (isFirst : Bool) : (fuel : Nat) → Builder (List Node)
  | 0 => cutItems
  | fuel + 1 =>
      (do
        let token ← peek
        let token ←
          if isFirst || token.kind = .sequenceEnd then pure token
          else if token.kind = .comma then next
          else refuse .sequenceNotContinued token.start (some (.flowSequence, begun))
        match token.kind with
        | .sequenceEnd => do
            skip
            return []
        | .key => do
            let item ← orMissing (readSingleEntry token.start fuel)
            return item :: (← readFlowItems begun false fuel)
        | _ => do
            let item ← orMissing (readNode false false fuel)
            return item :: (← readFlowItems begun false fuel))
      <|> cutItems

def readFlowEntries (begun : Position) (isFirst : Bool) :
    (fuel : Nat) → Builder (List (Node × Node))
  | 0 => cutEntries
  | fuel + 1 =>
      (do
        let token ← peek
        let token ←
          if isFirst || token.kind = .mappingEnd then pure token
          else if token.kind = .comma then next
          else refuse .mappingNotContinued token.start (some (.flowMapping, begun))
        match token.kind with
        | .mappingEnd => do
            skip
            return []
        | .key => do
            let following ← next
            let key ←
              if following.kind = .value || endsFlowPart .mappingEnd following.kind then
                pure (.empty following.start)
              else readNode false false fuel
            let value ← orMissing (readFlowValue .mappingEnd fuel)
            return (key, value) :: (← readFlowEntries begun false fuel)
        | _ => do
            let key ← readNode false false fuel
            let value ← orMissing (do return .empty (← peek).start)
            return (key, value) :: (← readFlowEntries begun false fuel))
      <|> cutEntries

end

/-! ## Whole documents -/

def readDirectives (hasVersion : Bool) : (fuel : Nat) → Builder Unit
  | 0 => OptionT.fail
  | fuel + 1 => do
      let token ← peek
      match token.kind with
      | .versionDirective major minor =>
          if hasVersion then refuse .versionRepeated token.start none
          else if major ≠ 1 || (minor ≠ 1 && minor ≠ 2) then
            refuse .versionUnsupported token.start none
          else do
            skip
            readDirectives true fuel
      | .tagDirective handle stem =>
          let stems := (← get).stems
          if (stems.lookup handle).isSome then refuse .tagDirectiveRepeated token.start none
          else do
            modify fun build => { build with stems := stems ++ [(handle, stem)] }
            skip
            readDirectives hasVersion fuel
      | _ => return

/-- What handles stand for unless a directive says otherwise. -/
def defaultStems : List (String × TagText) :=
  [("!", .ofString "!"), ("!!", .common "")]

/-- Makes the handles that are always known known. -/
def addDefaultStems : Builder Unit :=
  modify fun build => { build with stems := build.stems ++ defaultStems }

def readMarkedContent (fuel : Nat) : Builder Node := do
  let token ← next
  match token.kind with
  | .versionDirective .. | .tagDirective .. | .documentStart | .documentEnd | .streamEnd =>
      return .empty token.start
  | _ => readNode true false fuel

def readRoot (fuel : Nat) : Builder Node := do
  let token ← peek
  match token.kind with
  | .streamEnd => return .void token.start
  | .versionDirective .. | .tagDirective .. | .documentStart => do
      readDirectives false fuel
      addDefaultStems
      let token ← peek
      if token.kind = .documentStart then readMarkedContent fuel
      else refuse .documentStartMissing token.start none
  | _ => do
      addDefaultStems
      readNode true false fuel

/-- Leaves the mark that ends the document behind, if there is one. -/
def readDocumentEnd : Builder Unit := do
  let token ← peek
  if token.kind = .documentEnd then skip

def endsText (build : Build) : Bool :=
  match build.rest.dropWhile (·.kind = .documentEnd) with
  | token :: _ => token.kind = .streamEnd
  | [] => false

def Document.ofTokens (tokens : Tokens) : Document :=
  let fuel := 2 * tokens.tokens.length + 8
  let start : Build := ⟨tokens.tokens, tokens.problem, none, [], []⟩
  let (root, build) := (orMissing (readRoot fuel)).run start
  let (_, build) := readDocumentEnd.run build
  ⟨root.getD .missing, build.failure, endsText build⟩

def Document.ofText (text : String) : Document :=
  .ofTokens (.ofText text)

end ModeSwitch.Yaml
