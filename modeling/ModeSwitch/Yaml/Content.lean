import ModeSwitch.Yaml.Decode

/-! Contents whose type is not known yet.

The type of a tagged record is told by one of its fields, which may stand behind the others.  So
the others are kept as contents until the type is known, and decoded then, when positions are no
longer at hand.
-/

namespace ModeSwitch.Yaml

/-- A node by its meaning alone. -/
inductive Content where
  | scalar (meaning : Meaning)
  | list (items : List Content)
  | map (entries : List (Content × Content))
  deriving Repr

namespace Content

def found : Content → Found
  | .scalar meaning => .scalar meaning
  | .list _ => .sequence
  | .map _ => .mapping

end Content

/-- The greatest depth of collections that are nested. -/
def maxDepth : Nat := 128

namespace Decode

/-- The meaning of a scalar that is kept.  Whole numbers must fit into 64 bits. -/
def keptMeaning (expected : String) (properties : Properties) (style : Style) (text : String) :
    Decode Meaning := do
  let meaning ← ofCheck (scalarMeaning properties style text)
  match meaning with
  | .whole isNegative magnitude =>
      if widthWords isNegative magnitude = "" then return meaning
      else refuse (.wrongType (.scalar meaning) expected)
  | _ => return meaning

def contentEntries (key value : Path → Node → Decode Content) (path : Path) :
    List (Node × Node) → Decode (List (Content × Content))
  | [] => return []
  | (keyNode, valueNode) :: rest => do
      let k ← key path keyNode
      let v ← value (partOf keyNode :: path) valueNode
      return (k, v) :: (← contentEntries key value path rest)

/-- The content of a node, given how the nodes inside it are read, or that they are too deep. -/
def contentStep (around : Surroundings) (expected : String)
    (inside : Option (Path → Node → Decode Content)) (path : Path) (node : Node) :
    Decode Content := do
  let node ← follow around node
  located path node.start (
    if node.isVariant then refuse .uselessTag
    else
      match node, inside with
      | .scalar _ properties style text, _ =>
          return .scalar (← keptMeaning expected properties style text)
      | .sequence _ _ items, some inside => return .list (← eachFrom inside path 0 items)
      | .mapping _ _ entries, some inside =>
          return .map (← contentEntries inside inside path entries)
      | .sequence start _ _, none | .mapping start _ _, none => throw (.tooDeep start)
      | _, _ => cut around)

/-- The content of a node inside of which collections may be nested to a depth. -/
def content (around : Surroundings) : (depth : Nat) → Path → Node → Decode Content
  | 0 => contentStep around "any value" none
  | depth + 1 => contentStep around "any value" (some (content around depth))

/-! ## Tagged records -/

/-- A record with a field that tells its type, and the other contents. -/
structure Tagged (τ : Type) where
  type : τ
  content : Content

structure TaggedKind (τ : Type) where
  /-- How the record is called in reports. -/
  name : String
  /-- The field that tells the type. -/
  field : String
  /-- The names of the types. -/
  types : List (String × τ)

variable {τ : Type}

def typeName (around : Surroundings) (kind : TaggedKind τ) (path : Path) (node : Node) :
    Decode τ := do
  let node ← follow around node
  located path node.start (match node with
    | .scalar _ _ _ text =>
        match kind.types.lookup text with
        | some type => return type
        | none => refuse (.unknownVariant text (kind.types.map (·.1)))
    | node => unexpected node "variant identifier")

def taggedKey (around : Surroundings) (kind : TaggedKind τ) (depth : Nat) (path : Path)
    (node : Node) : Decode Content :=
  let inside := match depth with
    | 0 => none
    | depth + 1 => some (content around depth)
  contentStep around ("a type tag `" ++ kind.field ++ "` or any other value") inside path node

def taggedEntries (around : Surroundings) (kind : TaggedKind τ) (depth : Nat) (path : Path) :
    List (Node × Node) → Option τ → Decode (Option τ × List (Content × Content))
  | [], type => return (type, [])
  | (keyNode, valueNode) :: rest, type => do
      let key ← taggedKey around kind depth path keyNode
      let inner := partOf keyNode :: path
      match key with
      | .scalar (.text text) =>
          if text = kind.field then
            if type.isSome then refuse (.repeatedField kind.field)
            let type ← typeName around kind inner valueNode
            taggedEntries around kind depth path rest (some type)
          else
            let value ← content around depth inner valueNode
            let (type, entries) ← taggedEntries around kind depth path rest type
            return (type, (key, value) :: entries)
      | _ =>
          let value ← content around depth inner valueNode
          let (type, entries) ← taggedEntries around kind depth path rest type
          return (type, (key, value) :: entries)

/-- A tagged record: a mapping, or a sequence that begins with the type.  Collections may be nested
inside it to a depth. -/
def tagged (around : Surroundings) (kind : TaggedKind τ) (depth : Nat) (path : Path)
    (node : Node) : Decode (Tagged τ) := do
  let node ← follow around node
  located path node.start (
    if node.isVariant then refuse (.wrongType .variant kind.name)
    else
      match node with
      | .mapping _ _ entries => do
          match ← taggedEntries around kind depth path entries none with
          | (some type, entries) => return ⟨type, .map entries⟩
          | (none, _) => refuse (.missingField kind.field)
      | .sequence _ _ [] => refuse (.missingField kind.field)
      | .sequence _ _ (first :: rest) => do
          let type ← typeName around kind (.index 0 :: path) first
          return ⟨type, .list (← eachFrom (content around depth) path 1 rest)⟩
      | node => unexpected node kind.name)

/-! ## Contents -/

def contentText : Content → Decode String
  | .scalar (.text text) => return text
  | content => refuse (.wrongType content.found "a string")

def contentTexts : Content → Decode (List String)
  | .list items => items.mapM contentText
  | content => refuse (.wrongType content.found "a sequence")

/-- The field that a key names, or counts from zero. -/
def contentField (names : List String) : Content → Decode (Option String)
  | .scalar (.text text) => return some text
  | .scalar (.whole false n) => return names[n]?
  | content => refuse (.wrongType content.found "field identifier")

end Decode

end ModeSwitch.Yaml
