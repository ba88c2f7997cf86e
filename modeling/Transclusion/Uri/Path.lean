import Transclusion.Uri.Basic
/-!
# Paths

Reading the path of a URI segment by segment onto the part of the path that is there already.
`.` adds nothing, `..` takes the last segment away, and any other segment is added with its
characters escaped.  In a `file` URI a leading drive letter such as `C:` is never taken away.

Tabs and line ends are no part of a path, but one after a leading drive letter ends it.
-/

namespace Transclusion.Uri

/-- Tabs and line ends, which are no part of a URI. -/
def isBreak (c : Char) : Bool := c = '\t' || c = '\n' || c = '\r'

/-- A reference without its tabs and line ends. -/
def dropBreaks (input : List Char) : List Char := input.filter (!isBreak ·)

def isSlash (c : Char) : Bool := c = '/' || c = '\x5c'

/-- A letter and a colon or a bar. -/
def isDriveLetter : List Char → Bool
  | [c, mark] => c.isAlpha && (mark = ':' || mark = '|')
  | _ => false

/-- A letter and a colon. -/
def isNormalDriveLetter : List Char → Bool
  | [c, ':'] => c.isAlpha
  | _ => false

/-- Whether a segment that is a drive letter comes first. -/
def startsWithDrive : List Char → Bool
  | [c, mark] => isDriveLetter [c, mark]
  | c :: mark :: next :: _ =>
    isDriveLetter [c, mark] && (next = '/' || next = '\x5c' || next = '?' || next = '#')
  | _ => false

/-- Whether a segment stands for the current level. -/
def isDot (segment : List Char) : Bool :=
  let s := String.ofList (segment.map Char.toLower)
  s = "." || s = "%2e"

/-- Whether a segment stands for the level above. -/
def isDoubleDot (segment : List Char) : Bool :=
  let s := String.ofList (segment.map Char.toLower)
  s = ".." || s = ".%2e" || s = "%2e." || s = "%2e%2e"

/-- A path split after its last slash. -/
def cutAfterSlash (path : List Char) : List Char × List Char :=
  let name := path.reverse.takeWhile (· ≠ '/')
  (path.take (path.length - name.length), name.reverse)

/-- Takes away what follows the last slash, except for a drive letter. -/
def dropName (kind : SchemeKind) (path : List Char) : List Char :=
  let (folder, name) := cutAfterSlash path
  if kind = .file && isNormalDriveLetter name then path else folder

/-- Takes away a slash at the end unless it is the first one or follows a drive letter. -/
def dropSlash (path : List Char) : List Char :=
  if path.getLast? = some '/' then
    let inner := path.dropLast
    let (folder, name) := cutAfterSlash inner
    if folder.isEmpty || startsWithDrive (name ++ ['/']) then path else inner
  else path

/-- The path one level up from a path that ends in a slash. -/
def parentPath (kind : SchemeKind) (path : List Char) : List Char :=
  dropName kind (dropSlash path)

/-- Adds a slash at the end of a path that has none there. -/
def closePath (path : List Char) : List Char :=
  if path.getLast? = some '/' then path else path ++ ['/']

/-- A path under way, and whether a drive letter has been put in place of the host. -/
structure PathState where
  path : List Char
  dropsHost : Bool := false

/-- Adds the segment `segment`, which a slash follows iff `closed`. -/
def PathState.add (kind : SchemeKind) (s : PathState) (segment : List Char) (closed : Bool) :
    PathState :=
  let slash := if closed then ['/'] else []
  -- a drive letter without a slash was kept from a base
  let path :=
    if kind = .file && !segment.isEmpty && isNormalDriveLetter (s.path.drop 1) then s.path ++ ['/']
    else s.path
  let written := escape escapedInPath segment
  if isDoubleDot written then
    let up := parentPath kind path
    { s with path := if closed then closePath up else up }
  else if isDot written then { s with path := closePath path }
  else if kind = .file && path.length = 1 && isDriveLetter written then
    ⟨path ++ written.take 1 ++ [':'] ++ slash, true⟩
  else { s with path := path ++ written ++ slash }

/-- Whether a segment goes on after a break. -/
def goesOn (input : List Char) : Bool :=
  match input.dropWhile isBreak with
  | c :: _ => !(isSlash c || c = '?' || c = '#')
  | [] => false

/-- The segment `segment`, latest character first, before a break: a leading drive letter is
separated from what comes after the break. -/
def PathState.atBreak (kind : SchemeKind) (s : PathState) (segment rest : List Char) :
    List Char :=
  if kind = .file && s.path = ['/'] && isNormalDriveLetter segment.reverse && goesOn rest then
    '/' :: segment
  else segment

/-- Reads segments up to a query or fragment; `segment` holds the current one, latest character
first. Returns what follows the path. -/
def PathState.read (kind : SchemeKind) (s : PathState) (segment : List Char) :
    List Char → PathState × List Char
  | [] => (s.add kind segment.reverse false, [])
  | c :: rest =>
    if c = '/' || (c = '\x5c' && kind.isSpecial) then
      PathState.read kind (s.add kind segment.reverse true) [] rest
    else if isBreak c then PathState.read kind s (s.atBreak kind segment rest) rest
    else if c = '?' || c = '#' then (s.add kind segment.reverse false, c :: rest)
    else PathState.read kind s (c :: segment) rest

/-- Reads a path onto `path`. The paths of `file` URIs start with exactly one slash. Returns what
follows, and whether the path has put a drive letter in place of the host. -/
def readPath (kind : SchemeKind) (path : List Char) (input : List Char) :
    List Char × Bool × List Char :=
  let (s, rest) := PathState.read kind ⟨path, false⟩ [] input
  let path := if kind = .file then '/' :: s.path.dropWhile (· = '/') else s.path
  (path, s.dropsHost, dropBreaks rest)

/-- Reads the path that follows an authority. -/
def readPathStart (kind : SchemeKind) (input : List Char) : List Char × Bool × List Char :=
  match input with
  | [] => if kind.isSpecial then readPath kind ['/'] [] else ([], false, [])
  | c :: rest =>
    if kind.isSpecial then readPath kind ['/'] (if isSlash c then rest else input)
    else if c = '?' || c = '#' then ([], false, input)
    else if c = '/' then readPath kind [] input
    else readPath kind ['/'] input

end Transclusion.Uri
