import Transclusion.Fragment.Registry
import Transclusion.Fragment.Term
import Transclusion.Text.Numeral
/-!
# Fragment identifiers

A fragment identifier names a part of a resource.  For markup it is a pointer, a sequence of scheme
terms, or the data of the scheme `element` without more.  For text it may also be one of these:

* a range that starts with `char=` or `line=`, the data of the scheme `text`,
* `search=` and the data of the scheme `search`,
* line numbers counted from 1, as in `L12` or `L12-L20`.

`FragmentId.read` turns it into schemes of a registry.
-/

namespace Transclusion

open Text

/-! ### Short forms for text -/

/-- Reads `search` and an equals sign, with white space around the word. -/
def afterSearch? (cs : List Char) : Option (List Char) := do
  match trimStart (← "search".toList.isPrefixOf? (trimStart cs)) with
  | '=' :: rest => some rest
  | _ => none

/-- A reference to lines: the digits of the first and, if it is given, of the last. -/
structure LineReference where
  first : List Char
  last : Option (List Char)
deriving DecidableEq, Repr

namespace LineReference

/-- Reads `L` and digits, with white space after both. -/
def readLine? (cs : List Char) : Option (List Char × List Char) :=
  match cs with
  | 'L' :: rest =>
    let rest := trimStart rest
    let digits := rest.takeWhile isDigit
    if digits.isEmpty then none else some (digits, trimStart (rest.dropWhile isDigit))
  | _ => none

/-- Reads a reference that is a whole text. -/
def read? (cs : List Char) : Option LineReference := do
  match ← readLine? cs with
  | (first, []) => some ⟨first, none⟩
  | (first, '-' :: rest) =>
    match ← readLine? (trimStart rest) with
    | (last, []) => some ⟨first, some last⟩
    | _ => none
  | _ => none

/-- The numbers of the first and the last line, counted from 1. -/
def bounds (r : LineReference) (fragment : String) : Except FragmentError (Nat × Nat) :=
  let malformed := FragmentError.malformedData "text"
  match readIndex? r.first with
  | none => .error (malformed (.badLine fragment))
  | some 0 => .error (malformed (.lineZero fragment))
  | some first =>
    match r.last with
    | none => .ok (first, first)
    | some digits =>
      match readIndex? digits with
      | none => .error (malformed (.badLine fragment))
      | some last => .ok (first, last)

end LineReference

/-- The range of the lines from `first` to `last` in the notation of the scheme `text`. -/
def lineRange (first last : Nat) : String :=
  "line=" ++ toString (first - 1) ++ "," ++ toString last

/-! ### Reading -/

namespace FragmentId

/-- The schemes of terms, in their order. -/
def ofTerms (registry : SchemeRegistry) (parseType : ParseType) (terms : List Term) :
    Except FragmentError (List Scheme) :=
  terms.mapM fun term =>
    registry.instantiate (String.ofList term.name) parseType (String.ofList term.data)

/-- Reads a sequence of scheme terms. -/
def readTerms (registry : SchemeRegistry) (parseType : ParseType) (fragment : String) :
    Except FragmentError (List Scheme) := do
  let scan := TermScan.of fragment.toList
  let schemes ← ofTerms registry parseType scan.terms
  match scan.fault with
  | none => return schemes
  | some fault => throw fault

/-- The scheme `name` alone. -/
def single (registry : SchemeRegistry) (name : String) (parseType : ParseType) (data : String) :
    Except FragmentError (List Scheme) :=
  return [← registry.instantiate name parseType data]

/-- Reads a fragment identifier for markup. -/
def readXml (registry : SchemeRegistry) (fragment : String) : Except FragmentError (List Scheme) :=
  if fragment.toList.contains '(' then readTerms registry .xml fragment
  else single registry "element" .xml (String.ofList (trim fragment.toList))

/-- Reads a fragment identifier for text. -/
def readText (registry : SchemeRegistry) (fragment : String) :
    Except FragmentError (List Scheme) :=
  let cs := fragment.toList
  if (TextUnit.read? cs).isSome then single registry "text" .text (String.ofList (trim cs))
  else match LineReference.read? cs with
    | some reference => do
      let (first, last) ← reference.bounds fragment
      single registry "text" .text (lineRange first last)
    | none =>
      match afterSearch? cs with
      | some data => single registry "search" .text (String.ofList data)
      | none => readTerms registry .text fragment

/-- Reads a fragment identifier. -/
def read (registry : SchemeRegistry) (parseType : ParseType) (fragment : String) :
    Except FragmentError (List Scheme) :=
  match parseType with
  | .xml => readXml registry fragment
  | .text => readText registry fragment
  | .unsupported => .error .unsupportedType

end FragmentId

end Transclusion
