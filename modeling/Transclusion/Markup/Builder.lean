import Transclusion.Markup.Document
/-!
# Building documents step by step

A builder holds a document under way: the open elements, innermost first, each with the siblings
before it, and the nodes so far at the place where the next node goes.  Texts that follow each
other are merged and empty ones dropped.

A step fails only if it ends an element where none is open; `finish` fails if some are still open.
-/

namespace Transclusion

/-- Why the steps of building a document do not fit together. -/
inductive TreeError where
  /-- An end without a matching start. -/
  | unbalanced
  /-- Elements were open at the end. -/
  | unclosed (count : Nat)
deriving DecidableEq, Repr

def TreeError.message : TreeError → String
  | unbalanced => "end of element without a matching start"
  | unclosed count => toString count ++ " element(s) still open when the tree was finished"

/-- An element under way, and the siblings before it, latest first. -/
structure OpenElement where
  element : Element
  before : Forest
deriving DecidableEq, Repr

structure Builder where
  base : Option String
  /-- The number of the next node. -/
  next : Nat
  /-- The open elements, innermost first. -/
  opened : List OpenElement
  /-- The nodes so far inside the innermost open element, latest first. -/
  done : Forest
deriving DecidableEq, Repr

namespace Builder

/-- A document with nothing in it. -/
def start (base : Option String) : Builder := ⟨base, 1, [], .nil⟩

/-- The number of open elements. -/
def depth (b : Builder) : Nat := b.opened.length

/-- Opens an element. -/
def openElement (b : Builder) (e : Element) : Builder :=
  { b with next := b.next + 1, opened := ⟨e, b.done⟩ :: b.opened, done := .nil }

/-- Ends the innermost open element. -/
def closeElement (b : Builder) : Except TreeError Builder :=
  match b.opened with
  | [] => .error .unbalanced
  | top :: outer =>
    .ok { b with opened := outer, done := .element top.element b.done.reverse top.before }

/-- Adds a text, to the text before it if there is one. -/
def addText (b : Builder) (s : String) : Builder :=
  if s = "" then b
  else match b.done with
    | .leaf (.text t) rest => { b with done := .leaf (.text (t ++ s)) rest }
    | done => { b with next := b.next + 1, done := .leaf (.text s) done }

/-- Adds a leaf. -/
def addLeaf (b : Builder) : Leaf → Builder
  | .text s => b.addText s
  | l => { b with next := b.next + 1, done := .leaf l b.done }

/-- Adds a copy of the nodes of a forest. -/
def addForest (b : Builder) : Forest → Builder
  | .nil => b
  | .leaf l rest => (b.addLeaf l).addForest rest
  | .element e content rest =>
    let inner := (Builder.mk b.base (b.next + 1) [] .nil).addForest content
    ({ b with next := inner.next, done := .element e inner.done.reverse b.done }).addForest rest

/-- The finished document. -/
def finish (b : Builder) : Except TreeError Document :=
  match b.opened with
  | [] => .ok ⟨b.base, b.done.reverse⟩
  | opened => .error (.unclosed opened.length)

end Builder

end Transclusion
