import Transclusion.Markup.Document
/-!
# Writing documents

The text of a document.  A namespace binding is declared on an element where it differs from that
of the element around it, and a default namespace that no longer holds is undeclared.  Attributes
are written in their order, between double quotes; the characters that would be read otherwise are
written as references.
-/

namespace Transclusion

/-- A character of a text as it is written. -/
def escapeTextChar (c : Char) : List Char :=
  if c = '&' then "&amp;".toList
  else if c = '<' then "&lt;".toList
  else if c = '>' then "&gt;".toList
  else if c = '\r' then "&#xD;".toList
  else [c]

/-- A character of an attribute value as it is written. -/
def escapeAttributeChar (c : Char) : List Char :=
  if c = '&' then "&amp;".toList
  else if c = '<' then "&lt;".toList
  else if c = '\x22' then "&quot;".toList
  else if c = '\n' then "&#xA;".toList
  else if c = '\t' then "&#x9;".toList
  else if c = '\r' then "&#xD;".toList
  else [c]

/-- An attribute with a space before it. -/
def writeAttribute (name value : String) : List Char :=
  ' ' :: name.toList ++ '=' :: '\x22' :: value.toList.flatMap escapeAttributeChar ++ ['\x22']

/-- The name of the attribute that declares a prefix. -/
def declarationName (nsPrefix : String) : String :=
  if nsPrefix = "" then "xmlns" else "xmlns:" ++ nsPrefix

/-- The declarations that an element needs where the bindings `outer` are in scope. -/
def Element.declarations (outer : Bindings) (e : Element) : List (String × String) :=
  (e.bindings.entries.filter fun binding =>
      binding.1 ≠ "xml" && outer.get? binding.1 ≠ some binding.2)
    ++ (if outer.contains "" && !e.bindings.contains "" then [("", "")] else [])

/-- The start tag of an element without its end. -/
def Element.writeStart (outer : Bindings) (e : Element) : List Char :=
  '<' :: e.name.lexical.toList
    ++ (e.declarations outer).flatMap (fun binding =>
      writeAttribute (declarationName binding.1) binding.2)
    ++ e.attributes.entries.flatMap fun entry =>
      writeAttribute entry.1.lexical entry.2

def Leaf.write : Leaf → List Char
  | .text s => s.toList.flatMap escapeTextChar
  | .comment s => "<!--".toList ++ s.toList ++ "-->".toList
  | .instruction target data =>
    "<?".toList ++ target.toList ++ (if data = "" then [] else ' ' :: data.toList) ++ "?>".toList

/-- A forest in writing, within an element that has the bindings `outer`. -/
def Forest.write (outer : Bindings) : Forest → List Char
  | nil => []
  | leaf l rest => l.write ++ rest.write outer
  | element e content rest =>
    e.writeStart outer
      ++ (if content.isEmpty then "/>".toList
        else '>' :: content.write e.bindings ++ "</".toList ++ e.name.lexical.toList ++ ['>'])
      ++ rest.write outer

/-- A document in writing. -/
def Document.write (d : Document) : String := String.ofList (d.content.write .empty)

/-- A node in writing, within an element that has the bindings `outer`. -/
def Subtree.write (outer : Bindings) (node : Subtree) : String :=
  String.ofList <| match node with
    | document d => d.content.write outer
    | element e content => (Forest.element e content .nil).write outer
    | leaf l => l.write

end Transclusion
