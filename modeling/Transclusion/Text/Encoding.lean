import Transclusion.Text.Blank
import Transclusion.Text.Utf8
/-!
# Character encodings

The text that bytes stand for in one of the supported encodings: UTF-8, of which a byte order mark
at the start is dropped, ISO 8859-1 and US-ASCII.
-/

namespace Transclusion.Text

inductive Encoding where
  | utf8
  | latin1
  | ascii
deriving DecidableEq, Repr

/-- Why bytes are no text in an encoding. -/
inductive DecodingFault where
  | utf8 (fault : Utf8Fault)
  | notAscii
deriving DecidableEq, Repr

namespace Encoding

/-- The encoding with a name, in any case. -/
def ofName? (name : String) : Option Encoding :=
  match name with
  | "utf-8" | "utf8" => some utf8
  | "iso-8859-1" | "iso8859-1" | "latin1" | "latin-1" => some latin1
  | "us-ascii" | "ascii" => some ascii
  | _ => none

/-- The form of a name in which names are compared: lower case, without white space around it. -/
def normalName (name : String) : String :=
  String.ofList ((trim name.toList).map Char.toLower)

/-- Bytes without a byte order mark at their start. -/
def dropMark : List UInt8 → List UInt8
  | 0xEF :: 0xBB :: 0xBF :: rest => rest
  | bytes => bytes

/-- The characters whose numbers are the bytes. -/
def charsOf (bytes : List UInt8) : String :=
  String.ofList (bytes.map fun b => Char.ofNat b.toNat)

/-- The text that bytes stand for. -/
def decode (encoding : Encoding) (bytes : List UInt8) : Except DecodingFault String :=
  match encoding with
  | utf8 => (decodeUtf8 (dropMark bytes)).mapError .utf8
  | latin1 => .ok (charsOf bytes)
  | ascii => if bytes.all (· < 0x80) then .ok (charsOf bytes) else .error .notAscii

end Encoding

end Transclusion.Text
