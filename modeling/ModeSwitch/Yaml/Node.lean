import ModeSwitch.Yaml.Token

/-! Nodes.

A document is a tree of nodes.  Where its text stopped being readable a node is missing: the last
item of a sequence that was cut off, or the last key or value of such a mapping.  So a tree holds
everything that was read before a fault.
-/

namespace ModeSwitch.Yaml

/-- What stands in front of a node. -/
structure Properties where
  /-- The number by which aliases refer to the node. -/
  anchor : Option Nat
  tag : Option TagText
  deriving DecidableEq, Repr

def Properties.none : Properties := ⟨.none, .none⟩

/-- A node of a document, with the position where it starts. -/
inductive Node where
  | scalar (start : Position) (properties : Properties) (style : Style) (text : String)
  | sequence (start : Position) (properties : Properties) (items : List Node)
  | mapping (start : Position) (properties : Properties) (entries : List (Node × Node))
  /-- Stands for the node with an anchor. -/
  | alias (start : Position) (anchor : Nat)
  /-- The content of a text without any document. -/
  | void (start : Position)
  /-- The text stopped being readable here. -/
  | missing
  deriving Repr

namespace Node

/-- The scalar that stands where a node was left out. -/
def empty (start : Position) : Node := .scalar start .none .plain ""

def isEmpty : Node → Bool
  | .scalar _ _ .plain text => text == ""
  | _ => false

mutual

/-- The nodes that have an anchor, in the order in which they start. -/
def anchored : Node → List (Nat × Node)
  | .scalar start properties style text =>
      properties.anchor.toList.map (·, .scalar start properties style text)
  | .sequence start properties items =>
      properties.anchor.toList.map (·, .sequence start properties items) ++ anchoredItems items
  | .mapping start properties entries =>
      properties.anchor.toList.map (·, .mapping start properties entries)
        ++ anchoredEntries entries
  | .alias _ _ | .void _ | .missing => []

def anchoredItems : List Node → List (Nat × Node)
  | [] => []
  | item :: rest => item.anchored ++ anchoredItems rest

def anchoredEntries : List (Node × Node) → List (Nat × Node)
  | [] => []
  | (key, value) :: rest => key.anchored ++ value.anchored ++ anchoredEntries rest

end

mutual

/-- The number of starts and ends in a tree: both of a collection, unless it was cut off, and one of
every other node. -/
def weight : Node → Nat
  | .sequence _ _ items => 1 + itemsWeight items
  | .mapping _ _ entries => 1 + entriesWeight entries
  | .scalar .. | .alias .. | .void _ => 1
  | .missing => 0

def itemsWeight : List Node → Nat
  | [] => 1
  | .missing :: _ => 0
  | item :: rest => item.weight + itemsWeight rest

def entriesWeight : List (Node × Node) → Nat
  | [] => 1
  | (.missing, _) :: _ => 0
  | (key, value) :: rest => key.weight + value.weight + entriesWeight rest

end

end Node

end ModeSwitch.Yaml
