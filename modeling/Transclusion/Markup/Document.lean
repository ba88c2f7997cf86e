import Transclusion.Markup.Forest
/-!
# Documents

A document is a forest with the base URI of the whole.  Every node has a number, its place in
document order: the document itself is node 0, and the nodes of the forest follow, each before
its content and its content before its next sibling.  So the nodes inside node `i` are exactly
the `size` numbers after `i`.

`Document.subtree?` finds the node with a number, together with all that is inside it.
-/

namespace Transclusion

/-- A document: its base URI, if it is known, and its content. -/
structure Document where
  base : Option String
  content : Forest
deriving DecidableEq, Repr, Inhabited

/-- A node with all that is inside it. -/
inductive Subtree where
  | document (document : Document)
  | element (element : Element) (content : Forest)
  | leaf (leaf : Leaf)
deriving DecidableEq, Repr, Inhabited

/-- The node with the number `i` within a forest, counted from 0. -/
def Forest.subtree? : Forest → Nat → Option Subtree
  | nil, _ => none
  | leaf l rest, i => if i = 0 then some (.leaf l) else rest.subtree? (i - 1)
  | element e content rest, i =>
    if i = 0 then some (.element e content)
    else if i - 1 < content.size then content.subtree? (i - 1)
    else rest.subtree? (i - 1 - content.size)

namespace Subtree

/-- What is inside a node. -/
def content : Subtree → Forest
  | document d => d.content
  | element _ content => content
  | leaf _ => .nil

/-- The string value of a node: all text inside it, or the data of a leaf. -/
def stringValue : Subtree → String
  | leaf (.text s) => s
  | leaf (.comment s) => s
  | leaf (.instruction _ data) => data
  | node => node.content.stringValue

/-- A node on its own as a forest; a document stands for its content. -/
def toForest : Subtree → Forest
  | document d => d.content
  | element e content => .element e content .nil
  | leaf l => .consLeaf l .nil

end Subtree

namespace Document

/-- A document that holds a single text, or nothing if the text is empty. -/
def ofText (base : Option String) (text : String) : Document :=
  ⟨base, .consText text .nil⟩

/-- The number of nodes, the document itself included. -/
def size (d : Document) : Nat := d.content.size + 1

/-- The node with the number `i`. -/
def subtree? (d : Document) (i : Nat) : Option Subtree :=
  if i = 0 then some (.document d) else d.content.subtree? (i - 1)

def stringValue (d : Document) : String := d.content.stringValue

end Document

end Transclusion
