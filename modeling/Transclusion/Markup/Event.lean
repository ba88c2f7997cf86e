import Transclusion.Markup.Tag
import Transclusion.Text.Cut
/-!
# Events

A document is read as a sequence of events: tags, texts, comments, processing instructions and
what the tree does not keep.  `Event.scan` finds them in a text, each with the byte offset of its
end, and stops at the first markup that is not closed or not in order.  The events before that
place are found all the same, so that an error in one of them comes first.

A tag ends at the first `>` outside of quotes, an instruction at `?>`, a comment at `-->`, a CDATA
section at `]]>`, and a document type declaration at the `>` that its inner brackets leave over.
-/

namespace Transclusion

open Transclusion.Text

/-- A piece of a document. -/
inductive Event where
  /-- A start tag, by what stands between its brackets. -/
  | start (tag : List Char)
  /-- The tag of an element without content. -/
  | empty (tag : List Char)
  | close
  /-- A text with its references. -/
  | text (raw : List Char)
  /-- A text that has no references. -/
  | cdata (text : List Char)
  | comment (text : List Char)
  | instruction (target data : List Char)
  /-- An XML declaration or a document type declaration. -/
  | declaration
deriving DecidableEq, Repr

/-- An event and the byte offset of its end. -/
structure PlacedEvent where
  event : Event
  stop : Nat
deriving DecidableEq, Repr

/-- The events of a text up to its end or the first fault. -/
structure EventScan where
  events : List PlacedEvent
  fault : Option XmlError
deriving DecidableEq, Repr

namespace Event

/-- What is before and after the `>` that ends a tag; `quote` is the quote that is open. -/
def cutTag : Option Char → List Char → Option (List Char × List Char)
  | _, [] => none
  | quote, c :: rest =>
    if quote = none && c = '>' then some ([], rest)
    else
      let quote := match quote with
        | none => if c = '\x22' || c = '\x27' then some c else none
        | some open_ => if c = open_ then none else some open_
      (cutTag quote rest).map fun (tag, after) => (c :: tag, after)

/-- What is before and after the `>` that leaves `depth` inner brackets closed. -/
def cutDoctype : Nat → List Char → Option (List Char × List Char)
  | _, [] => none
  | depth, c :: rest =>
    if c = '>' && depth = 0 then some ([], rest)
    else
      let depth := if c = '<' then depth + 1 else if c = '>' then depth - 1 else depth
      (cutDoctype depth rest).map fun (inside, after) => (c :: inside, after)

/-- The event of an instruction with this content; one named `xml` is a declaration. -/
def ofInstruction (content : List Char) : Event :=
  let target := content.takeWhile (!isMarkupSpace ·)
  if target = ['x', 'm', 'l'] then declaration
  else instruction target (content.drop target.length)

/-- The name in an end tag, with the white space at its end removed unless there is nothing else. -/
def closedName (content : List Char) : List Char :=
  if content.all isMarkupSpace then content else dropEndWhile isMarkupSpace content

/-- Markup that was read: the event, the open elements after it, how many bytes the markup takes,
and what follows it. -/
structure Markup where
  event : Event
  opened : List (List Char)
  length : Nat
  rest : List Char

/-- A fault in the markup and how far it is from the `<`. -/
structure MarkupError where
  fault : MarkupFault
  distance : Nat

/-- Reads markup that starts with `<!`, given what follows these. -/
def readDeclaration (opened : List (List Char)) (input : List Char) :
    Except MarkupError Markup :=
  match input with
  | '[' :: _ =>
    match ['[', 'C', 'D', 'A', 'T', 'A', '['].isPrefixOf? input with
    | some content =>
      match cutAtText [']', ']', '>'] content with
      | some (body, rest) => .ok ⟨.cdata body, opened, utf8Length body + 12, rest⟩
      | none => .error ⟨.openCdata, 0⟩
    | none => .error ⟨.openCdata, 0⟩
  | '-' :: rest =>
    match rest with
    | '-' :: content =>
      match cutAtText ['-', '-', '>'] content with
      | some (body, rest) => .ok ⟨.comment body, opened, utf8Length body + 7, rest⟩
      | none => .error ⟨.openComment, 0⟩
    | _ => .error ⟨.openComment, 0⟩
  | c :: _ =>
    if c = 'D' || c = 'd' then
      match cutDoctype 0 input with
      | some (inside, rest) =>
        if String.ofList ((inside.take 7).map Char.toUpper) ≠ "DOCTYPE" then
          .error ⟨.openDoctype, 0⟩
        else if (inside.drop 7).all isMarkupSpace then
          .error ⟨.namelessDoctype, 2 + utf8Length inside⟩
        else .ok ⟨.declaration, opened, utf8Length inside + 3, rest⟩
      | none => .error ⟨.openDoctype, 0⟩
    else .error ⟨.unknownMarkup, 0⟩
  | [] => .error ⟨.unknownMarkup, 0⟩

/-- Reads an end tag, given what follows `</`. It has to name the innermost open element. -/
def readEnd (opened : List (List Char)) (input : List Char) : Except MarkupError Markup :=
  match cutTag none input with
  | none => .error ⟨.openTag, 0⟩
  | some (content, rest) =>
    let name := closedName content
    match opened with
    | [] => .error ⟨.unmatchedEnd (String.ofList name), 0⟩
    | expected :: outer =>
      if name = expected then .ok ⟨.close, outer, utf8Length content + 3, rest⟩
      else .error ⟨.mismatchedEnd (String.ofList expected) (String.ofList name), 0⟩

/-- Reads an instruction, given what follows `<?`. -/
def readInstruction (opened : List (List Char)) (input : List Char) :
    Except MarkupError Markup :=
  match cutAtText ['?', '>'] input with
  | some (content, rest) =>
    -- `<?>` is not closed: its question mark would serve twice
    if input.head? = some '>' then .error ⟨.openInstruction, 0⟩
    else .ok ⟨ofInstruction content, opened, utf8Length content + 4, rest⟩
  | none => .error ⟨.openInstruction, 0⟩

/-- Reads a start tag, given what follows `<`. -/
def readStart (opened : List (List Char)) (input : List Char) : Except MarkupError Markup :=
  match cutTag none input with
  | none => .error ⟨.openTag, 0⟩
  | some (tag, rest) =>
    let length := utf8Length tag + 2
    if tag.getLast? = some '/' then .ok ⟨.empty tag.dropLast, opened, length, rest⟩
    else .ok ⟨.start tag, tagName tag :: opened, length, rest⟩

/-- Reads the markup that follows a `<`. -/
def readMarkup (opened : List (List Char)) (input : List Char) : Except MarkupError Markup :=
  match input with
  | [] => .error ⟨.openTag, 0⟩
  | '!' :: rest => readDeclaration opened rest
  | '/' :: rest => readEnd opened rest
  | '?' :: rest => readInstruction opened rest
  | _ => readStart opened input

/-- Finds at most `count` events from the offset `offset` on, the elements `opened` being open,
innermost first. -/
def scanUpTo : Nat → List (List Char) → Nat → List Char → EventScan
  | 0, _, _, _ => ⟨[], none⟩
  | _ + 1, _, _, [] => ⟨[], none⟩
  | count + 1, opened, offset, c :: input =>
    if c = '<' then
      match readMarkup opened input with
      | .error e => ⟨[], some (.malformed (.markup e.fault) (offset + e.distance))⟩
      | .ok read =>
        let stop := offset + read.length
        let later := scanUpTo count read.opened stop read.rest
        { later with events := ⟨read.event, stop⟩ :: later.events }
    else
      let raw := (c :: input).takeWhile (· ≠ '<')
      let rest := (c :: input).dropWhile (· ≠ '<')
      let stop := offset + utf8Length raw
      let later := scanUpTo count opened stop rest
      { later with events := ⟨.text raw, stop⟩ :: later.events }

/-- The events of a text. A byte order mark at its start is dropped and does not count. -/
def scan (input : List Char) : EventScan :=
  let input := match input with
    | '\ufeff' :: rest => rest
    | _ => input
  scanUpTo input.length [] 0 input

end Event

end Transclusion
