import Transclusion.Text.Cut
import Transclusion.Uri.DomainMapping
import Transclusion.Uri.Escape
import Transclusion.Uri.Label
/-!
# Hosts

The host of a URI, brought into the one form in which it is written:

* a domain name in ASCII and in lower case, its escapes resolved and its labels well spelled,
* an IPv4 address as four decimal numbers, whichever way its numbers were written,
* an IPv6 address in brackets, its longest run of zeros shortened,
* for schemes without a host syntax of their own, any name, with control characters escaped.
-/

namespace Transclusion.Uri

open Transclusion.Text

/-! ### IPv4 -/

/-- The digits of a number in base `base`, none if there is another character. -/
def numberIn? (base : Nat) (digits : List Char) : Option Nat :=
  digits.foldlM (fun value c => do
    let digit ← hexValue? c
    if digit < base then some (base * value + digit) else none) 0

/-- A number of an IPv4 address: decimal, octal after `0`, or hexadecimal after `0x`. -/
def addressNumber? (cs : List Char) : Option Nat :=
  match cs with
  | [] => none
  | '0' :: 'x' :: digits => numberIn? 16 digits
  | '0' :: 'X' :: digits => numberIn? 16 digits
  | ['0'] => some 0
  | '0' :: digits => numberIn? 8 digits
  | digits => numberIn? 10 digits

/-- Whether a domain name ends in a number, so that it has to be an IPv4 address. -/
def endsInNumber (domain : List Char) : Bool :=
  let numeric := fun (label : List Char) =>
    (!label.isEmpty && label.all Char.isDigit) || (addressNumber? label).isSome
  match (pieces '.' domain).reverse with
  | [] => false
  | [] :: [] => false
  | [] :: label :: _ => numeric label
  | label :: _ => numeric label

/-- The four bytes of an IPv4 address; the last number fills all bytes that are left. -/
def ipv4? (domain : List Char) : Option (List Nat) := do
  let labels := pieces '.' domain
  let labels := if labels.getLast? = some [] then labels.dropLast else labels
  if 4 < labels.length then none
  let numbers ← labels.mapM addressNumber?
  let last ← numbers.getLast?
  let firsts := numbers.dropLast
  if firsts.any (255 < ·) || Nat.pow 256 (4 - firsts.length) ≤ last then none
  let rest := (List.range (4 - firsts.length)).reverse.map fun i => last / Nat.pow 256 i % 256
  some (firsts ++ rest)

/-- An IPv4 address in writing. -/
def ipv4Text (bytes : List Nat) : List Char :=
  List.intercalate ['.'] (bytes.map (Nat.toDigits 10))

/-! ### IPv6 -/

/-- The two words of an IPv4 address at the end of an IPv6 address: four numbers up to 255
without leading zeros. -/
def embeddedIpv4? (cs : List Char) : Option (List Nat) := do
  let bytes ← (pieces '.' cs).mapM fun label =>
    if label.isEmpty || !label.all Char.isDigit || (label.length ≠ 1 && label.head? = some '0') then
      none
    else (numberIn? 10 label).filter (· ≤ 255)
  match bytes with
  | [a, b, c, d] => some [256 * a + b, 256 * c + d]
  | _ => none

/-- The words of one side of an IPv6 address; an IPv4 address may stand at the end of it. -/
def ipv6Words? (cs : List Char) : Option (List Nat) :=
  if cs.isEmpty then some []
  else
    let labels := pieces ':' cs
    let word? := fun (label : List Char) =>
      if label.isEmpty || 4 < label.length then none else numberIn? 16 label
    match labels.getLast? with
    | some last =>
      if last.contains '.' then do
        let words ← labels.dropLast.mapM word?
        let tail ← embeddedIpv4? last
        some (words ++ tail)
      else labels.mapM word?
    | none => none

/-- The eight words of an IPv6 address. -/
def ipv6? (cs : List Char) : Option (List Nat) := do
  match cutAtText [':', ':'] cs with
  | some (before, after) =>
    if before.contains '.' then none
    let left ← ipv6Words? before
    let right ← ipv6Words? after
    let known := left.length + right.length
    if 7 < known then none
    some (left ++ List.replicate (8 - known) 0 ++ right)
  | none =>
    let words ← ipv6Words? cs
    if words.length = 8 then some words else none

/-- Where the longest run of at least two zeros starts, and how long it is. -/
def longestZeros (words : List Nat) : Option (Nat × Nat) :=
  let runs := (List.range words.length).map fun i =>
    (i, ((words.drop i).takeWhile (· = 0)).length)
  runs.foldl (fun best run =>
    if run.2 < 2 then best
    else match best with
      | some (_, length) => if length < run.2 then some run else best
      | none => some run) none

/-- An IPv6 address in writing, without the brackets. -/
def ipv6Text (words : List Nat) : List Char :=
  let written := fun (words : List Nat) => List.intercalate [':'] (words.map (Nat.toDigits 16))
  match longestZeros words with
  | some (start, length) =>
    written (words.take start) ++ [':', ':'] ++ written (words.drop (start + length))
  | none => written words

/-! ### Hosts -/

/-- Characters that a domain name cannot have. -/
def forbiddenInDomain (c : Char) : Bool :=
  isControl c || c = ' ' || c = '%' || c = '#' || c = '/' || c = ':' || c = '<' || c = '>'
    || c = '?' || c = '@' || c = '[' || c = '\x5c' || c = ']' || c = '^' || c = '|'

/-- Characters that no host can have. -/
def forbiddenInHost (c : Char) : Bool :=
  c = '\x00' || c = '\t' || c = '\n' || c = '\r' || c = ' ' || c = '#' || c = '/' || c = ':'
    || c = '<' || c = '>' || c = '?' || c = '@' || c = '[' || c = '\x5c' || c = ']' || c = '^'
    || c = '|'

/-- An address in brackets. -/
def bracketed? (cs : List Char) : Option (List Char) :=
  if cs.getLast? = some ']' then
    (ipv6? cs.dropLast).map fun words => '[' :: ipv6Text words ++ [']']
  else none

/-- A host of a scheme whose hosts are domain names and addresses. -/
def domainHost? (cs : List Char) : Option (List Char) :=
  match cs with
  | '[' :: rest => bracketed? rest
  | _ => do
    let decoded ← (decodeUtf8 (unescape cs)).toOption
    let mapped := mapDomain decoded.toList
    if mapped.isEmpty || mapped.any forbiddenInDomain then none
    let domain ← asciiDomain? mapped
    if endsInNumber domain then (ipv4? domain).map ipv4Text else some domain

/-- A host of any other scheme. -/
def opaqueHost? (cs : List Char) : Option (List Char) :=
  match cs with
  | '[' :: rest => bracketed? rest
  | _ => if cs.any forbiddenInHost then none else some (escape isControl cs)

end Transclusion.Uri
