import Transclusion.Fragment.ElementPointer
import Transclusion.Fragment.Expression
import Transclusion.Fragment.NamespaceBinding
import Transclusion.Fragment.Search
import Transclusion.Fragment.TextRange
/-!
# The standard schemes

How each of the five schemes is read, and the registry that holds them under their names.
-/

namespace Transclusion

namespace SchemeReader

def xmlns : SchemeReader := ⟨.xml, fun data => return (← NamespaceBinding.read data).scheme⟩

def element : SchemeReader := ⟨.xml, fun data => return (← ElementPointer.read data).scheme⟩

def xpath : SchemeReader := ⟨.xml, fun data => return (← ExpressionPointer.read data).scheme⟩

def text : SchemeReader := ⟨.text, fun data => return (← TextRange.read data).scheme⟩

def search : SchemeReader := ⟨.text, fun data => return (← Search.read data).scheme⟩

end SchemeReader

namespace SchemeRegistry

/-- The schemes of markup and of text under their names. -/
def standard : SchemeRegistry :=
  .ofList [("xmlns", .xmlns), ("element", .element), ("xpath", .xpath), ("text", .text),
    ("search", .search)]

end SchemeRegistry

end Transclusion
