import Transclusion.Markup.Document
/-!
# The nodes of a document by number

`Document.nodes` lists the nodes of a document in document order, each with its kind, its parent
and the number of nodes in its subtree.  Everything that is asked of a node in its surroundings is
read off this list: its children, ancestors and descendants, its base URI and language, and the
element with a given `xml:id`.
-/

namespace Transclusion

/-- What a node is, apart from its content. -/
inductive NodeKind where
  | document (base : Option String)
  | element (element : Element)
  | leaf (leaf : Leaf)
deriving DecidableEq, Repr, Inhabited

/-- A node in the list of a document's nodes. -/
structure Node where
  kind : NodeKind
  parent : Option Nat
  /-- How many nodes there are in the subtree, the node itself included. -/
  extent : Nat
deriving DecidableEq, Repr, Inhabited

/-- The nodes of a forest below the node `parent`, the first one having the number `first`. -/
def Forest.nodes (parent first : Nat) : Forest → List Node
  | nil => []
  | leaf l rest => ⟨.leaf l, some parent, 1⟩ :: rest.nodes parent (first + 1)
  | element e content rest =>
    ⟨.element e, some parent, content.size + 1⟩ :: content.nodes first (first + 1)
      ++ rest.nodes parent (first + content.size + 1)

theorem Forest.length_nodes (parent first : Nat) (f : Forest) :
    (f.nodes parent first).length = f.size := by
  induction f generalizing parent first with
  | nil => rfl
  | leaf l rest ih => simp [nodes, size, ih]
  | element e content rest ihc ihr => simp [nodes, size, ihc, ihr]

/-- The nodes of a document in document order. -/
structure NodeList where
  nodes : Array Node
deriving Repr, Inhabited

def Document.nodes (d : Document) : NodeList :=
  ⟨(⟨.document d.base, none, d.size⟩ :: d.content.nodes 0 1).toArray⟩

namespace NodeList

/-- The number of nodes. -/
def size (ns : NodeList) : Nat := ns.nodes.size

/-- All numbers of nodes. -/
def numbers (ns : NodeList) : List Nat := List.range ns.size

def kind? (ns : NodeList) (i : Nat) : Option NodeKind := (ns.nodes[i]?).map (·.kind)

def parent? (ns : NodeList) (i : Nat) : Option Nat := (ns.nodes[i]?).bind (·.parent)

def extent (ns : NodeList) (i : Nat) : Nat := ((ns.nodes[i]?).map (·.extent)).getD 0

/-- The element with the number `i`. -/
def element? (ns : NodeList) (i : Nat) : Option Element :=
  match ns.kind? i with
  | some (.element e) => some e
  | _ => none

def leaf? (ns : NodeList) (i : Nat) : Option Leaf :=
  match ns.kind? i with
  | some (.leaf l) => some l
  | _ => none

def isElement (ns : NodeList) (i : Nat) : Bool := (ns.element? i).isSome

/-- The children of a node in document order. -/
def children (ns : NodeList) (i : Nat) : List Nat :=
  (List.range' (i + 1) (ns.extent i - 1)).filter fun j => ns.parent? j = some i

def elementChildren (ns : NodeList) (i : Nat) : List Nat := (ns.children i).filter ns.isElement

/-- The nodes inside a node in document order. -/
def descendants (ns : NodeList) (i : Nat) : List Nat := List.range' (i + 1) (ns.extent i - 1)

/-- The nodes that a node is inside of, nearest first. -/
def ancestors (ns : NodeList) (i : Nat) : List Nat :=
  match ns.parent? i with
  | some p => if p < i then p :: ns.ancestors p else []
  | none => []
termination_by i

/-- The text of the nodes with these numbers. -/
def textOf (ns : NodeList) (is : List Nat) : String :=
  is.foldl (fun text i => match ns.leaf? i with
    | some (.text s) => text ++ s
    | _ => text) ""

/-- The string value of a node: all text inside it, or the data of a leaf. -/
def stringValue (ns : NodeList) (i : Nat) : String :=
  match ns.leaf? i with
  | some (.text s) => s
  | some (.comment s) => s
  | some (.instruction _ data) => data
  | none => ns.textOf (ns.descendants i)

/-- The base URI of a document or an element. -/
def ownBase? (ns : NodeList) (i : Nat) : Option String :=
  match ns.kind? i with
  | some (.document base) => base
  | some (.element e) => e.base
  | _ => none

/-- The base URI of a node; a leaf has that of its parent. -/
def base? (ns : NodeList) (i : Nat) : Option String :=
  match ns.leaf? i with
  | some _ => (ns.parent? i).bind ns.ownBase?
  | none => ns.ownBase? i

/-- The language of a node: the `xml:lang` of the nearest element that has one, the node itself
included. -/
def lang? (ns : NodeList) (i : Nat) : Option String :=
  (i :: ns.ancestors i).findSome? fun j => (ns.element? j).bind (·.attribute? (.xml "lang"))

/-- The first element with this `xml:id`. -/
def elementWithId? (ns : NodeList) (id : String) : Option Nat :=
  ns.numbers.find? fun i => (ns.element? i).bind (·.attribute? (.xml "id")) = some id

/-- The first element at the top of the document. -/
def documentElement? (ns : NodeList) : Option Nat := (ns.elementChildren 0).head?

end NodeList

end Transclusion
