import Transclusion.Files.System
import Transclusion.Text.Encoding
import Transclusion.Uri.FilePath
/-!
# Resources in files

A resolver that reads files: those at `file` URIs, and those at paths where a reference cannot be
resolved to a URI.  What a server would be asked for does not matter to it.
-/

namespace Transclusion

open Text

namespace Resolver

/-- The path of a resource; a text that is no URI is a path itself. -/
def pathOf? (target : String) : Option FilePath :=
  match Uri.read? none target with
  | some uri => if uri.scheme = Uri.fileScheme then uri.toPath? else none
  | none => some (FilePath.ofString target)

/-- The URI of the file that is read for a resource. -/
def uriOf (target : String) : String :=
  match Uri.read? none target with
  | some _ => target
  | none => ((Uri.ofPath? target).map (·.text)).getD target

/-- Bytes as text in the encoding with a name. -/
def decode (uri encoding : String) (bytes : List UInt8) : Except InclusionError String :=
  let name := Encoding.normalName encoding
  match Encoding.ofName? name with
  | none => .error (.unreadable uri (.unsupportedEncoding name))
  | some encoding =>
    match encoding.decode bytes with
    | .ok text => .ok text
    | .error (.utf8 fault) => .error (.unreadable uri (.utf8 fault))
    | .error .notAscii => .error (.unreadable uri .notAscii)

section

variable (system : FileSystem)

/-- The bytes of a resource. -/
def readFile (target : String) : ExceptT InclusionError (Except Halt) (List UInt8) := do
  match pathOf? target with
  | none => throw (.unreadable target .notFile)
  | some path =>
    match ← (system.read path).run with
    | .ok bytes => return bytes
    | .error fault => throw (.unreadable target (.system fault))

def fileXml (r : Request) : ExceptT InclusionError (Except Halt) Document := do
  let bytes ← readFile system r.target
  let uri := uriOf r.target
  parsed uri (← decode uri "utf-8" bytes)

/-- The text of the file at a URI, if it can be read. -/
def reread (uri encoding : String) : Except Halt (Option String) := do
  match pathOf? uri with
  | none => return none
  | some path =>
    match ← (system.read path).run with
    | .ok bytes => return (decode uri encoding bytes).toOption
    | .error _ => return none

def fileText (r : Request) : ExceptT InclusionError (Except Halt) Document := do
  if r.href = "" then
    match r.document.base with
    | some base =>
      let found ← ExceptT.lift (reread system base r.encoding)
      return ownText r.document found
    | none => return ownText r.document none
  else
    let bytes ← readFile system r.target
    let uri := uriOf r.target
    return ofText (some uri) (← decode uri r.encoding bytes)

end

/-- Reads resources from a file system. -/
def files (system : FileSystem) : Resolver where
  readXml r := (fileXml system r).run
  readText r := (fileText system r).run

end Resolver

end Transclusion
