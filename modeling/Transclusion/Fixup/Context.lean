import Transclusion.Fixup.Options
import Transclusion.Markup.Nodes
/-!
# Fix-up

Content that is moved into another document loses what it inherited where it stood.  Fix-up writes
this down: the base URI as `xml:base` (`FixupContext.withBase`), the language as `xml:lang`
(`FixupContext.withLang`).  The elements at the top of what replaces an `xi:include` are given the
attributes of the include besides (`Element.withCopied`).
-/

namespace Transclusion

/-- The namespace whose attributes are copied without it. -/
def localAttributesNamespace : String := "http://www.w3.org/2001/XInclude/local-attributes"

/-- What included content is compared against: the options, and the base URI and the language at
the place of inclusion. -/
structure FixupContext where
  options : Options
  base : Option String
  lang : Option String
deriving DecidableEq, Repr

namespace FixupContext

/-- The context of the `xi:include` with the number `id`: that of its parent. -/
def ofInclude (options : Options) (ns : NodeList) (id : Nat) : FixupContext :=
  let parent := (ns.parent? id).getD id
  ⟨options, ns.base? parent, ns.lang? parent⟩

/-- Records the base URI of an element where it differs from that of the context. -/
def withBase (context : FixupContext) (e : Element) : Element :=
  if context.options.fixupXmlBase && e.base ≠ context.base then
    match e.base with
    | some base => e.setAttribute (.xml "base") base
    | none => e
  else e

/-- Records the language of an element that has none of its own. An element without any language
is marked so where the context has one. -/
def withLang (context : FixupContext) (lang : Option String) (e : Element) : Element :=
  if context.options.fixupXmlLang && (e.attribute? (.xml "lang")).isNone then
    match lang, context.lang with
    | some lang, _ => e.setAttribute (.xml "lang") lang
    | none, some _ => e.setAttribute (.xml "lang") ""
    | none, none => e
  else e

/-- Records the base URI and the language of an element whose language is `lang`. -/
def apply (context : FixupContext) (lang : Option String) (e : Element) : Element :=
  context.withLang lang (context.withBase e)

/-- The element with the number `id`, fixed up. -/
def element? (context : FixupContext) (ns : NodeList) (id : Nat) : Option Element :=
  (ns.element? id).map (context.apply (ns.lang? id))

end FixupContext

/-! ### The attributes of an include -/

namespace Element

/-- Sets the `xml:id`, or removes it if the new one is empty. -/
def withId (e : Element) : Option String → Element
  | none => e
  | some "" => e.removeAttribute (.xml "id")
  | some id => e.setAttribute (.xml "id") id

/-- The name under which an attribute of an include is copied; attributes in no namespace and those
of the XML namespace are not. -/
def copiedName? (name : QName) : Option QName :=
  match name.nsUri with
  | none => none
  | some uri =>
    if uri = xmlNamespace then none
    else if uri = localAttributesNamespace then some (.plain name.localName)
    else some name

/-- Sets a copied attribute unless the element has it. -/
def withCopiedAttribute (e : Element) (entry : QName × String) : Element :=
  match copiedName? entry.1 with
  | some name => if e.attributes.contains name then e else e.setAttribute name entry.2
  | none => e

/-- Gives an element the attributes of an include. -/
def withCopied (e inclusion : Element) (setId : Option String) : Element :=
  inclusion.attributes.entries.foldl withCopiedAttribute (e.withId setId)

end Element

namespace FixupContext

/-- What fix-up makes of an element at the top of included content, its language being that of its
own `xml:lang` if it has one. -/
def topElement (context : FixupContext) (inclusion : Element) (setId : Option String)
    (e : Element) : Element :=
  let copied := if context.options.copyAttributes then e.withCopied inclusion setId else e
  context.apply (e.attribute? (.xml "lang")) copied

/-- A whole document fixed up: the elements at its top, and nothing else, are changed. -/
def document (context : FixupContext) (inclusion : Element) (setId : Option String) (d : Document) :
    Document :=
  { d with content := d.content.mapTop (context.topElement inclusion setId) }

end FixupContext

end Transclusion
