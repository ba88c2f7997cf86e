import Transclusion.Markup.Nodes
/-!
# Nodes of expressions

Expressions select nodes of a document by number, and attributes by the number of their element
and their index on it.  In document order an element comes before its attributes and these before
its content.  A set of nodes is a strictly ascending list; `canonical` makes one of any list.
-/

namespace Transclusion.XPath

/-- A node of the document, or one attribute of an element. -/
inductive NodeRef where
  | node (id : Nat)
  | attribute_ (owner index : Nat)
deriving DecidableEq, Repr

namespace NodeRef

/-- The node, or the element that has the attribute. -/
def owner : NodeRef → Nat
  | node id => id
  | attribute_ owner _ => owner

def isAttribute : NodeRef → Bool
  | node _ => false
  | attribute_ _ _ => true

/-- The place among the node and its attributes. -/
def place : NodeRef → Nat
  | node _ => 0
  | attribute_ _ index => index + 1

/-- Document order. -/
def before (a b : NodeRef) : Bool :=
  a.owner < b.owner || (a.owner = b.owner && a.place < b.place)

/-- The name and the value of an attribute. -/
def attributeAt? (ns : NodeList) (owner index : Nat) : Option (QName × String) :=
  (ns.element? owner).bind fun e => e.attributes.entries[index]?

/-- The string value of a node, or the value of an attribute. -/
def stringValue (ns : NodeList) : NodeRef → String
  | node id => ns.stringValue id
  | attribute_ owner index => ((attributeAt? ns owner index).map (·.2)).getD ""

/-- The name of an element, an attribute or a processing instruction. -/
def name? (ns : NodeList) : NodeRef → Option QName
  | node id =>
    match ns.kind? id with
    | some (.element e) => some e.name
    | some (.leaf (.instruction target _)) => some (.plain target)
    | _ => none
  | attribute_ owner index => (attributeAt? ns owner index).map (·.1)

/-- Puts a node into an ascending list, unless it is there already. -/
def insert (a : NodeRef) : List NodeRef → List NodeRef
  | [] => [a]
  | b :: rest =>
    if a = b then b :: rest else if a.before b then a :: b :: rest else b :: insert a rest

/-- The set of the nodes of a list, in document order. -/
def canonical (refs : List NodeRef) : List NodeRef := refs.foldr insert []

theorem mem_insert {a b : NodeRef} {refs : List NodeRef} :
    a ∈ insert b refs ↔ a = b ∨ a ∈ refs := by
  induction refs with
  | nil => simp [insert]
  | cons c rest ih =>
    simp only [insert]
    split
    · next same => subst same; simp
    · split
      · simp
      · simp only [List.mem_cons, ih]
        constructor <;> rintro (h | h | h) <;> simp [h]

theorem mem_canonical {a : NodeRef} {refs : List NodeRef} : a ∈ canonical refs ↔ a ∈ refs := by
  induction refs with
  | nil => simp [canonical]
  | cons b rest ih =>
    show a ∈ insert b (canonical rest) ↔ _
    rw [mem_insert, ih, List.mem_cons]

end NodeRef

end Transclusion.XPath
