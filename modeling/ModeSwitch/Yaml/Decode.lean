import ModeSwitch.Yaml.Document
import ModeSwitch.Yaml.Scalar

/-! Decoding nodes.

A decoder turns a node into a value or says why it cannot.  An error is told with the path to the
node where it arose and the position of that node, set by the innermost decoder that knows them.
Aliases are followed as they are met, but not without end: their number is counted over the whole
document.
-/

namespace ModeSwitch.Yaml

/-! ## Errors -/

inductive PathPart where
  | field (name : String)
  | index (n : Nat)
  /-- The value of a key that has no name of its own. -/
  | unnamed
  deriving DecidableEq, Repr

abbrev Path := List PathPart

namespace Path

/-- The path in words; the root is a point. -/
def text : Path → String
  | [] => "."
  | .index n :: parent => text parent ++ "[" ++ toString n ++ "]"
  | .field name :: parent => (if parent = [] then "" else text parent ++ ".") ++ name
  | .unnamed :: parent => (if parent = [] then "" else text parent ++ ".") ++ "?"

end Path

inductive Found where
  | scalar (meaning : Meaning)
  | sequence
  | mapping
  /-- A node with a tag of its own. -/
  | variant
  deriving DecidableEq, Repr

def Fraction.words : Fraction → String
  | .finite isNegative number => (if isNegative then "-" else "") ++ number.shortest.digits
  | .infinite isNegative => if isNegative then "-inf" else "inf"
  | .undefined => "NaN"

def widthWords (isNegative : Bool) (magnitude : Nat) : String :=
  if isNegative then if magnitude ≤ Nat.pow 2 63 then "" else " as i128"
  else if magnitude < Nat.pow 2 64 then "" else " as u128"

def Found.words : Found → String
  | .scalar .null => "unit value"
  | .scalar (.truth value) => "boolean `" ++ toString value ++ "`"
  | .scalar (.whole isNegative magnitude) =>
      "integer `" ++ (if isNegative && magnitude ≠ 0 then "-" else "") ++ toString magnitude ++ "`"
        ++ widthWords isNegative magnitude
  | .scalar (.fraction value) => "floating point `" ++ value.words ++ "`"
  | .scalar (.text value) => "string " ++ Text.quote value
  | .sequence => "sequence"
  | .mapping => "map"
  | .variant => "enum"

inductive Mismatch where
  | wrongType (found : Found) (expected : String)
  | wrongValue (found : Found) (expected : String)
  | wrongLength (length : Nat) (expected : String)
  | missingField (name : String)
  | repeatedField (name : String)
  | unknownVariant (name : String) (known : List String)
  /-- A node with a tag of its own where tags mean nothing. -/
  | uselessTag
  deriving DecidableEq, Repr

def Mismatch.message : Mismatch → String
  | .wrongType found expected => "invalid type: " ++ found.words ++ ", expected " ++ expected
  | .wrongValue found expected => "invalid value: " ++ found.words ++ ", expected " ++ expected
  | .wrongLength length expected =>
      "invalid length " ++ toString length ++ ", expected " ++ expected
  | .missingField name => "missing field `" ++ name ++ "`"
  | .repeatedField name => "duplicate field `" ++ name ++ "`"
  | .unknownVariant name known =>
      "unknown variant `" ++ name ++ "`, expected "
        ++ " or ".intercalate (known.map fun n => "`" ++ n ++ "`")
  | .uselessTag => "untagged and internally tagged enums do not support enum input"

structure Location where
  path : Path
  position : Position
  deriving DecidableEq, Repr

/-- Why a text could not be decoded. -/
inductive DecodeError where
  | mismatch (cause : Mismatch) (location : Option Location)
  /-- Collections are nested too deep; the innermost starts here. -/
  | tooDeep (position : Position)
  | tooManyAliases
  | unreadable (failure : Failure)
  /-- The document ends where a node is expected. -/
  | ended
  | severalDocuments
  deriving DecidableEq, Repr

namespace DecodeError

/-- The error with a location, unless it has one. -/
def locate (path : Path) (position : Position) : DecodeError → DecodeError
  | .mismatch cause none => .mismatch cause (some ⟨path, position⟩)
  | error => error

def message : DecodeError → String
  | .mismatch cause none => cause.message
  | .mismatch cause (some location) =>
      (if location.path = [] then "" else location.path.text ++ ": ")
        ++ cause.message ++ location.position.phrase
  | .tooDeep position => "recursion limit exceeded" ++ position.phrase
  | .tooManyAliases => "repetition limit exceeded"
  | .unreadable (.problem problem) => problem.message
  | .unreadable (.unknownAnchor position) => "unknown anchor" ++ position.phrase
  | .ended => "EOF while parsing a value"
  | .severalDocuments =>
      "deserializing from YAML containing more than one document is not supported"

end DecodeError

/-! ## Decoders -/

/-- A step of decoding.  It is told the number of aliases followed before it. -/
abbrev Decode := StateT Nat (Except DecodeError)

/-- What decoders need to know of a document. -/
structure Surroundings where
  /-- The nodes with an anchor, the last one first. -/
  anchored : List (Nat × Node)
  /-- The greatest number of aliases that are followed. -/
  maxAliases : Nat
  /-- Why nodes are missing. -/
  failure : Option Failure

/-- How often the starts and ends of a document may be repeated by aliases. -/
def maxRepetition : Nat := 100

def Document.surroundings (document : Document) : Surroundings where
  anchored := document.root.anchored.reverse
  maxAliases := document.root.weight * maxRepetition
  failure := document.failure

namespace Decode

variable {α ρ : Type}

/-- Ends in a mismatch, to be located by a decoder around this one. -/
def refuse (cause : Mismatch) : Decode α :=
  throw (.mismatch cause none)

def ofCheck (check : Except Mismatch α) : Decode α :=
  match check with
  | .ok value => pure value
  | .error cause => refuse cause

/-- Locates the mismatch of a step, if it has no location yet. -/
def located (path : Path) (position : Position) (step : Decode α) : Decode α :=
  fun count => (step.run count).mapError (·.locate path position)

/-- Ends because a node is missing. -/
def cut (around : Surroundings) : Decode α :=
  throw (match around.failure with
    | some failure => .unreadable failure
    | none => .ended)

def follow (around : Surroundings) : Node → Decode Node
  | .missing => cut around
  | .alias _ anchor => do
      let count := (← get) + 1
      set count
      if around.maxAliases < count then throw .tooManyAliases
      match around.anchored.lookup anchor with
      | some node => return node
      | none => cut around
  | node => return node

end Decode

namespace Node

def start : Node → Position
  | .scalar start .. | .sequence start .. | .mapping start .. | .alias start _ | .void start =>
      start
  | .missing => .start

def tag? : Node → Option TagText
  | .scalar _ properties .. | .sequence _ properties _ | .mapping _ properties _ => properties.tag
  | .alias .. | .void _ | .missing => none

/-- Has the node a tag that belongs to the document alone, and can be read? -/
def isVariant (node : Node) : Bool :=
  node.tag?.any fun tag => tag.isOwn && tag.isReadable

end Node

/-! ## Scalars -/

/-- The meaning of a scalar.  A tag that every document knows says what the text has to spell; a
text that is not plain is a text, whatever other tag it has. -/
def scalarMeaning (properties : Properties) (style : Style) (text : String) :
    Except Mismatch Meaning :=
  let known (meaning : Option Meaning) (expected : String) : Except Mismatch Meaning :=
    match meaning with
    | some meaning => .ok meaning
    | none => .error (.wrongValue (.scalar (.text text)) expected)
  let spelled : Meaning := if style = .plain then .ofPlain text else .text text
  match properties.tag with
  | none => .ok spelled
  | some tag =>
      if tag = .common "bool" then known ((truth? text).map .truth) "a boolean"
      else if tag = .common "int" then
        known ((whole? text).map fun (isNegative, n) => .whole isNegative n) "an integer"
      else if tag = .common "float" then
        known ((fraction? text).map .fraction) "a float"
      else if tag = .common "null" then
        known (if isNull text then some .null else none) "null"
      else if tag.isOwn then .ok spelled
      else .ok (.text text)

def Node.found : Node → Except Mismatch Found
  | .scalar _ properties style text => (scalarMeaning properties style text).map .scalar
  | .mapping .. => .ok .mapping
  | .sequence .. | .alias .. | .void _ | .missing => .ok .sequence

namespace Decode

variable {α ρ : Type}

def unexpected (node : Node) (expected : String) : Decode α := do
  refuse (.wrongType (← ofCheck node.found) expected)

def text (around : Surroundings) (expected : String) (path : Path) (node : Node) :
    Decode String := do
  let node ← follow around node
  located path node.start (match node with
    | .scalar _ _ _ text => return text
    | node => unexpected node expected)

/-- May the node be read as a whole number?  So may one that is plain, and a literal one if its tag
says so. -/
def isNumeric (properties : Properties) (style : Style) : Bool :=
  style == .plain || (style == .literal && properties.tag == some (.common "int"))

/-- A whole number of 32 bits without a sign. -/
def number (around : Surroundings) (path : Path) (node : Node) : Decode UInt32 := do
  let expected := "u32"
  let node ← follow around node
  located path node.start (match node with
    | .scalar _ properties style text =>
        match if isNumeric properties style then natural? text else none with
        | some n =>
            if n < UInt32.size then return n.toUInt32
            else refuse (.wrongValue (.scalar (.whole false n)) expected)
        | none => unexpected node expected
    | node => unexpected node expected)

/-! ## Sequences -/

/-- The values of items, of which the first has an index. -/
def eachFrom (item : Path → Node → Decode α) (path : Path) :
    (index : Nat) → List Node → Decode (List α)
  | _, [] => return []
  | index, node :: rest => do
      let value ← item (.index index :: path) node
      return value :: (← eachFrom item path (index + 1) rest)

/-- The values of the items of a sequence.  A scalar that was left out is an empty sequence. -/
def list (around : Surroundings) (item : Path → Node → Decode α) (path : Path) (node : Node) :
    Decode (List α) := do
  let node ← follow around node
  located path node.start (match node with
    | .sequence _ _ items => eachFrom item path 0 items
    | .void _ => return []
    | node => if node.isEmpty then return [] else unexpected node "a sequence")

/-! ## Records -/

/-- A field of a record, given how the fields read so far are kept. -/
structure Field (ν ρ : Type) where
  name : String
  /-- Has the field been read? -/
  isSet : ρ → Bool
  read : ν → ρ → Decode ρ

/-- Reads the entries of a record in their order.  Entries that are no field are left out; a field
may occur once. -/
def fields {κ ν : Type} (nameOf : κ → Decode (Option String)) (known : List (Field ν ρ)) :
    List (κ × ν) → ρ → Decode ρ
  | [], record => return record
  | (key, value) :: rest, record => do
      let name ← nameOf key
      match known.find? (some ·.name = name) with
      | none => fields nameOf known rest record
      | some field =>
          if field.isSet record then refuse (.repeatedField field.name)
          else fields nameOf known rest (← field.read value record)

def partOf : Node → PathPart
  | .scalar _ _ _ text => .field text
  | _ => .unnamed

/-- A record: a mapping with known fields, or a scalar that was left out.  What has been read is
completed at the end. -/
def record (around : Surroundings) (name : String) (known : List (Field (Path × Node) ρ))
    (nothing : ρ) (complete : ρ → Except Mismatch α) (path : Path) (node : Node) : Decode α := do
  let node ← follow around node
  let entries (entries : List (Node × Node)) : Decode α := do
    let nameOf (key : Node) : Decode (Option String) := do
      return some (← text around "field identifier" path key)
    let placed := entries.map fun (key, value) => (key, partOf key :: path, value)
    let record ← fields nameOf known placed nothing
    ofCheck (complete record)
  located path node.start (match node with
    | .mapping _ _ content => entries content
    | .void _ => entries []
    | node => if node.isEmpty then entries [] else unexpected node ("struct " ++ name))

/-- The value of a field that must not be missing. -/
def required (name : String) (value : Option α) : Except Mismatch α :=
  match value with
  | some value => .ok value
  | none => .error (.missingField name)

/-- A value, or nothing if a plain scalar says so. -/
def optional (around : Surroundings) (value : Path → Node → Decode α) (path : Path) (node : Node) :
    Decode (Option α) := do
  let node ← follow around node
  match node with
  | .scalar _ properties .plain text =>
      if properties.tag = some (.common "null") then
        if isNull text then return none
        else refuse (.wrongValue (.scalar (.text text)) "null")
      else if properties.tag.isNone && (text = "" || isNull text) then return none
      else return some (← value path node)
  | .void _ => return none
  | node => return some (← value path node)

end Decode

end ModeSwitch.Yaml
