import Transclusion.Fragment.Scheme
import Transclusion.Text.Cut
/-!
# The scheme `xmlns`

`xmlns(prefix=uri)` selects nothing and binds a prefix for the schemes that follow.
-/

namespace Transclusion

open Text

structure NamespaceBinding where
  nsPrefix : String
  uri : String
deriving DecidableEq, Repr

namespace NamespaceBinding

/-- Reads a prefix, an equals sign and a URI; the prefix is not empty and holds no white space. -/
def read (data : String) : Except FragmentError NamespaceBinding :=
  match cutAt '=' data.toList with
  | none => .error (.malformedData "xmlns" (.unbound data))
  | some (before, uri) =>
    let nsPrefix := trim before
    if nsPrefix.isEmpty || nsPrefix.any isSpace then
      .error (.malformedData "xmlns" (.badPrefix data))
    else .ok ⟨String.ofList nsPrefix, String.ofList (trimStart uri)⟩

def scheme (b : NamespaceBinding) : Scheme where
  name := "xmlns"
  parseType := .xml
  select _ _ := .ok (.binding b.nsPrefix b.uri)

end NamespaceBinding

end Transclusion
