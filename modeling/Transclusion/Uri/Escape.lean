import Transclusion.Text.Utf8
/-!
# Percent escapes

A character that may not stand for itself in a part of a URI is written as the bytes of its
UTF-8 form, each as `%` and two hexadecimal digits.  Which ASCII characters these are depends on
the part; characters outside ASCII are escaped everywhere.
-/

namespace Transclusion.Uri

open Transclusion.Text

/-- Control characters. -/
def isControl (c : Char) : Bool := c.toNat < 0x20 || c.toNat = 0x7F

/-- What is escaped in a fragment. -/
def escapedInFragment (c : Char) : Bool :=
  isControl c || c = ' ' || c = '\x22' || c = '<' || c = '>' || c = '\x60'

/-- What is escaped in a query. -/
def escapedInQuery (c : Char) : Bool :=
  isControl c || c = ' ' || c = '\x22' || c = '#' || c = '<' || c = '>'

/-- What is escaped in a path. -/
def escapedInPath (c : Char) : Bool :=
  escapedInFragment c || c = '#' || c = '?' || c = '\x7b' || c = '\x7d'

/-- What is escaped in a user name or password. -/
def escapedInUserInfo (c : Char) : Bool :=
  escapedInPath c || c = '/' || c = ':' || c = ';' || c = '=' || c = '@' || c = '[' || c = '\x5c'
    || c = ']' || c = '^' || c = '|'

/-- What is escaped in the name of a file, so that it stays one segment of the path. -/
def escapedInFileName (c : Char) : Bool :=
  escapedInPath c || c = '/' || c = '%' || c = '\x5c'

/-- A hexadecimal digit in upper case. -/
def upperHexDigit (n : Nat) : Char :=
  if n < 10 then Char.ofNat ('0'.toNat + n) else Char.ofNat ('A'.toNat + n - 10)

/-- The escape of one byte. -/
def escapeByte (b : UInt8) : List Char :=
  ['%', upperHexDigit (b.toNat / 16), upperHexDigit (b.toNat % 16)]

/-- Escapes the characters outside ASCII and those that satisfy `escaped`. -/
def escape (escaped : Char → Bool) (cs : List Char) : List Char :=
  cs.flatMap fun c =>
    if c.toNat < 0x80 && !escaped c then [c] else (utf8Bytes c.toString).flatMap escapeByte

/-- The value of a hexadecimal digit. -/
def hexValue? (c : Char) : Option Nat :=
  if '0' ≤ c && c ≤ '9' then some (c.toNat - '0'.toNat)
  else if 'a' ≤ c && c ≤ 'f' then some (c.toNat - 'a'.toNat + 10)
  else if 'A' ≤ c && c ≤ 'F' then some (c.toNat - 'A'.toNat + 10)
  else none

/-- The bytes of a text in which escapes stand for bytes; a `%` that starts no escape stands
for itself. -/
def unescape : List Char → List UInt8
  | [] => []
  | '%' :: high :: low :: rest =>
    match hexValue? high, hexValue? low with
    | some h, some l => UInt8.ofNat (16 * h + l) :: unescape rest
    | _, _ => 0x25 :: unescape (high :: low :: rest)
  | c :: rest => utf8Bytes c.toString ++ unescape rest

end Transclusion.Uri
