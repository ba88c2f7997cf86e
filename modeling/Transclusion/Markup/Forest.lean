import Transclusion.Markup.Element
/-!
# Forests

The content of a document or an element: a sequence of texts, comments, processing instructions
and elements, an element carrying its own content.  A forest is given by its first node and the
forest of the nodes that follow it as siblings.

Content is put together with `consLeaf` and `append`, which drop empty texts and merge texts that
become neighbours, so that no forest made by them holds two texts side by side.
-/

namespace Transclusion

/-- A node without content of its own. -/
inductive Leaf where
  | text (text : String)
  | comment (text : String)
  | instruction (target data : String)
deriving DecidableEq, Repr, Inhabited

/-- A sequence of sibling nodes. -/
inductive Forest where
  | nil
  | leaf (leaf : Leaf) (rest : Forest)
  | element (element : Element) (content rest : Forest)
deriving DecidableEq, Repr, Inhabited

namespace Forest

/-- How many nodes there are, at any depth. -/
def size : Forest → Nat
  | nil => 0
  | leaf _ rest => rest.size + 1
  | element _ content rest => content.size + rest.size + 1

def isEmpty : Forest → Bool
  | nil => true
  | _ => false

/-- Puts a text in front of a forest. -/
def consText (s : String) : Forest → Forest
  | leaf (.text t) rest => leaf (.text (s ++ t)) rest
  | rest => if s = "" then rest else leaf (.text s) rest

/-- Puts a leaf in front of a forest. -/
def consLeaf : Leaf → Forest → Forest
  | .text s, rest => consText s rest
  | l, rest => leaf l rest

/-- One forest after the other. -/
def append : Forest → Forest → Forest
  | nil, after => after
  | leaf l rest, after => consLeaf l (rest.append after)
  | element e content rest, after => element e content (rest.append after)

/-- The siblings in reverse order, before those of `after`; their contents stay as they are. -/
def reverseOnto : Forest → Forest → Forest
  | nil, after => after
  | leaf l rest, after => rest.reverseOnto (leaf l after)
  | element e content rest, after => rest.reverseOnto (element e content after)

/-- The siblings in reverse order. -/
def reverse (f : Forest) : Forest := f.reverseOnto nil

/-- All text in a forest, in document order. -/
def stringValue : Forest → String
  | nil => ""
  | leaf (.text s) rest => s ++ rest.stringValue
  | leaf _ rest => rest.stringValue
  | element _ content rest => content.stringValue ++ rest.stringValue

/-- Changes the elements at the top, not those inside them. -/
def mapTop (change : Element → Element) : Forest → Forest
  | nil => nil
  | leaf l rest => leaf l (rest.mapTop change)
  | element e content rest => element (change e) content (rest.mapTop change)

/-- Whether no text at the top is empty or next to another, and so for all contents. -/
def isMerged : Forest → Bool
  | nil => true
  | leaf (.text s) rest =>
    s ≠ "" && (match rest with
      | leaf (.text _) _ => false
      | _ => true) && rest.isMerged
  | leaf _ rest => rest.isMerged
  | element _ content rest => content.isMerged && rest.isMerged

@[simp] theorem size_mapTop (change : Element → Element) (f : Forest) :
    (f.mapTop change).size = f.size := by
  induction f with
  | nil => rfl
  | leaf l rest ih => simp [mapTop, size, ih]
  | element e content rest _ ih => simp [mapTop, size, ih]

theorem stringValue_consText (s : String) (f : Forest) :
    (consText s f).stringValue = s ++ f.stringValue := by
  unfold consText
  split
  · simp [stringValue, String.append_assoc]
  · split
    · next h => simp [h]
    · simp [stringValue]

end Forest

end Transclusion
