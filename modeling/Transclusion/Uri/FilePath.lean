import Transclusion.Uri.Reading
/-!
# Paths of files

The `file` URI of an absolute path, and the path that a `file` URI names.  Paths are sequences of
bytes; those that are written in URIs are texts in UTF-8.
-/

namespace Transclusion.Uri

open Transclusion.Text

/-- The names along an absolute path, without empty ones and those that stay on the spot. -/
def namesOfPath (path : List Char) : List (List Char) :=
  (pieces '/' path).filter fun name => !name.isEmpty && name ≠ ['.']

/-- The URI of the file at an absolute path. -/
def ofPath? (path : String) : Option Uri :=
  match path.toList with
  | '/' :: rest =>
    let names := namesOfPath rest
    let written := names.flatMap fun name => '/' :: escape escapedInFileName name
    let path := if written.isEmpty then ['/'] else written
    some ⟨fileScheme, some ⟨[], [], none⟩, path, none, none⟩
  | _ => none

/-- The path of the file that a URI names, if it is on this host. A path that ends in a drive
letter gets a slash. -/
def toPath? (u : Uri) : Option (List UInt8) :=
  match u.segments with
  | some segments =>
    let host := (u.authority.map (·.host)).getD []
    if host.isEmpty || String.ofList host = "localhost" then
      let bytes := segments.flatMap fun segment => 0x2F :: unescape segment
      match bytes.reverse with
      | mark :: c :: _ :: _ =>
        if (mark = 0x3A || mark = 0x7C) && (Char.ofNat c.toNat).isAlpha then some (bytes ++ [0x2F])
        else some bytes
      | _ => some bytes
    else none
  | none => none

end Transclusion.Uri
