import Transclusion.Fragment.Identifier
import Transclusion.Inclusion.Error
import Transclusion.Markup.Element
/-!
# The attributes of an include

What an `xi:include` says: the resource it refers to, how it is read, the fragment of it, and what
is to be asked of a server.  A fragment identifier can be given in two attributes; the parse type
decides between them.
-/

namespace Transclusion

open Text

structure IncludeAttributes where
  /-- The reference to the resource; it is empty for the document itself. -/
  href : String
  xpointer : Option String
  fragid : Option String
  setXmlId : Option String
  encoding : String
  accept : Option String
  acceptLanguage : Option String
  /-- A media type, or one of the short names of parse types. -/
  parse : String
deriving DecidableEq, Repr

namespace IncludeAttributes

/-- The value of an attribute whose characters must all be printable ASCII. -/
def printable (e : Element) (name : String) : Except InclusionError (Option String) :=
  match e.plainAttribute? name with
  | some value =>
    if value.toList.all fun c => ' ' ≤ c && c ≤ '~' then .ok (some value)
    else .error (.malformed (.badCharacter name))
  | none => .ok none

/-- Reads the attributes of an include. -/
def ofElement (e : Element) : Except InclusionError IncludeAttributes := do
  let accept ← printable e "accept"
  let acceptLanguage ← printable e "accept-language"
  return {
    href := String.ofList (trim ((e.plainAttribute? "href").getD "").toList)
    xpointer := e.plainAttribute? "xpointer"
    fragid := e.plainAttribute? "fragid"
    setXmlId := e.plainAttribute? "set-xml-id"
    encoding := (e.plainAttribute? "encoding").getD "UTF-8"
    accept, acceptLanguage
    parse := (e.plainAttribute? "parse").getD "xml" }

def parseType (a : IncludeAttributes) : ParseType := .ofMediaType a.parse

/-- The fragment identifier as it is written: of two different ones the `xpointer` for markup and
the `fragid` for all else. -/
def writtenFragment (a : IncludeAttributes) (parseType : ParseType) : Option String :=
  match a.xpointer, a.fragid with
  | some xpointer, some fragid => some (if parseType = .xml then xpointer else fragid)
  | some xpointer, none => some xpointer
  | none, fragid => fragid

/-- A fragment identifier for text as a scheme term, if it is one of the short forms with an equals
sign. -/
def asTerm (fragment : String) : String :=
  let cs := fragment.toList
  let term := fun (name : String) (data : List Char) =>
    name ++ "(" ++ String.ofList (escape (trim data)) ++ ")"
  if (TextUnit.read? cs).isSome then term "text" cs
  else match afterSearch? cs with
    | some data => term "search" data
    | none => fragment

/-- The fragment identifier that counts for content of the parse type. -/
def fragment (a : IncludeAttributes) (parseType : ParseType) : Option String :=
  (a.writtenFragment parseType).map fun written =>
    if parseType = .text then asTerm written else written

end IncludeAttributes

end Transclusion
