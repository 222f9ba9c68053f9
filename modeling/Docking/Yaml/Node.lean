import Docking.Yaml.Token

/-!
# Nodes

A document is a tree of nodes. An alias stands for a node that was given the same anchor before;
anchors are numbered, so that an alias names a number.

An anchor's number is the number of different names before it, also where a name is used again. Two
anchors can therefore share a number, and then the later one counts.
-/

namespace Docking.Yaml

/-- What can be said of any node. -/
structure Properties where
  tag : Option String
  /-- The number of the node's anchor. -/
  anchor : Option Nat
  deriving DecidableEq, Repr

/-- A node of a document. -/
inductive Node where
  | aliasOf (anchor : Nat)
  | scalar (properties : Properties) (text : String) (style : ScalarStyle)
  | sequence (properties : Properties) (items : List Node)
  | mapping (properties : Properties) (members : List (Node × Node))

namespace Node

/-- A node that is not written at all. -/
def absent (properties : Properties) : Node := scalar properties "" .plain

instance : Inhabited Node := ⟨absent ⟨none, none⟩⟩

/-- The number of a node's anchor. -/
def anchor? : Node → Option Nat
  | aliasOf _ => none
  | scalar p .. => p.anchor
  | sequence p _ => p.anchor
  | mapping p _ => p.anchor

mutual

/-- A node and all nodes below it, in the order in which they begin. -/
def preorder : Node → List Node
  | aliasOf a => [aliasOf a]
  | scalar p t s => [scalar p t s]
  | sequence p items => sequence p items :: preorderAll items
  | mapping p members => mapping p members :: preorderMembers members

/-- Several nodes and all nodes below them. -/
def preorderAll : List Node → List Node
  | [] => []
  | n :: rest => n.preorder ++ preorderAll rest

/-- The keys and values of a mapping and all nodes below them. -/
def preorderMembers : List (Node × Node) → List Node
  | [] => []
  | (k, v) :: rest => k.preorder ++ v.preorder ++ preorderMembers rest

end

/-- Whether a node has a beginning and an end. -/
def isCollection : Node → Bool
  | aliasOf _ | scalar .. => false
  | sequence .. | mapping .. => true

/-- How many parts a document has, of which a collection has two: its beginning and its end. -/
def partCount (n : Node) : Nat := n.preorder.length + n.preorder.countP isCollection

end Node

end Docking.Yaml
