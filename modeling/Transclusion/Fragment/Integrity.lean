import Transclusion.Fragment.Error
import Transclusion.Text.Cut
import Transclusion.Text.Digest
import Transclusion.Text.Index
import Transclusion.Text.Utf8
/-!
# Integrity checks

A check of a whole text by its length in characters and by its MD5 digest.  The two are given by
items of the form `length=N` and `md5=H`, perhaps with a comma and the name of a character
encoding; an item for an encoding other than UTF-8 checks nothing.  Of two items of a kind the
later one counts.
-/

namespace Transclusion

open Text

structure IntegrityCheck where
  length : Option Nat
  md5 : Option String
deriving DecidableEq, Repr

namespace IntegrityCheck

/-- A check that every text passes. -/
def none : IntegrityCheck := ⟨.none, .none⟩

/-- Whether an item for this encoding is checked. -/
def isChecked (charset : Option (List Char)) : Bool :=
  match charset with
  | some charset => (trim charset).map Char.toLower = "utf-8".toList
  | .none => true

/-- What follows `name` in an item, if it is not empty and consists of such characters. -/
def valueOf? (name : String) (isValueChar : Char → Bool) (item : List Char) : Option (List Char) :=
  match name.toList.isPrefixOf? item with
  | some value => if value.isEmpty || !value.all isValueChar then .none else some value
  | .none => .none

/-- The check with one more item; nothing if it is no item of a check. A length that is no index
leaves the length unchecked. -/
def withItem? (check : IntegrityCheck) (item : List Char) : Option IntegrityCheck :=
  let (value, charset) := match cutAt ',' item with
    | some (value, charset) => (trim value, some charset)
    | .none => (trim item, .none)
  match valueOf? "length=" Char.isDigit value, valueOf? "md5=" Md5.isHexDigit value with
  | some digits, _ =>
    some (if isChecked charset then { check with length := readIndex? digits } else check)
  | _, some digits =>
    let digest := String.ofList (digits.map Char.toLower)
    some (if isChecked charset then { check with md5 := some digest } else check)
  | _, _ => .none

/-- Checks the length of a text. -/
def verifyLength (check : IntegrityCheck) (text : String) : Except IntegrityFault Unit :=
  match check.length with
  | some expected =>
    if text.length = expected then .ok () else .error (.length text.length expected)
  | .none => .ok ()

/-- Checks the digest of a text. -/
def verifyDigest (check : IntegrityCheck) (text : String) : Except IntegrityFault Unit :=
  match check.md5 with
  | some expected =>
    let found := Md5.digest (utf8Bytes text)
    if found = expected then .ok () else .error (.md5 found expected)
  | .none => .ok ()

/-- Checks a text, its length first. -/
def verify (check : IntegrityCheck) (text : String) : Except IntegrityFault Unit := do
  check.verifyLength text
  check.verifyDigest text

end IntegrityCheck

end Transclusion
