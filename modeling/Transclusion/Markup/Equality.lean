import Transclusion.Markup.Document
/-!
# Equality of content

Two subtrees are deeply equal when they agree in the names of their elements, in their attributes
whatever their order, and in their texts, comments and processing instructions.  Prefixes, bindings
and base URIs do not count.
-/

namespace Transclusion

/-- Whether two elements have the same name and the same attributes. -/
def Element.agrees (a b : Element) : Bool :=
  a.name.expanded = b.name.expanded && a.attributes.sameEntries b.attributes

/-- Whether two forests are deeply equal. -/
def Forest.deepEqual : Forest → Forest → Bool
  | nil, nil => true
  | leaf l rest, leaf l' rest' => l = l' && rest.deepEqual rest'
  | element e content rest, element e' content' rest' =>
    e.agrees e' && content.deepEqual content' && rest.deepEqual rest'
  | _, _ => false

/-- Whether two nodes are deeply equal. -/
def Subtree.deepEqual : Subtree → Subtree → Bool
  | document d, document d' => d.content.deepEqual d'.content
  | element e content, element e' content' => e.agrees e' && content.deepEqual content'
  | leaf l, leaf l' => l = l'
  | _, _ => false

end Transclusion
