import Transclusion.Uri.Reading
/-!
# Resolving references

References and base URIs as texts.  A reference that cannot be resolved, because it is relative
and there is no usable base or because it is malformed, stands for itself.
-/

namespace Transclusion.Uri

/-- Whether a reference is an absolute URI. -/
def isAbsolute (reference : String) : Bool := (read? none reference).isSome

/-- The URI that a reference stands for at a base, in normal form. -/
def resolve (base : Option String) (reference : String) : String :=
  match read? none reference with
  | some uri => uri.text
  | none =>
    match base.bind (read? none) with
    | some base =>
      match read? (some base) reference with
      | some uri => uri.text
      | none => reference
    | none => reference

/-- The part of a URI before its fragment. -/
def stripFragment (uri : String) : String :=
  String.ofList (uri.toList.takeWhile (· ≠ '#'))

end Transclusion.Uri
