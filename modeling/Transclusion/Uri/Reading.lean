import Transclusion.Text.Blank
import Transclusion.Uri.Path
/-!
# Reading URIs

`read?` reads a reference, absolute or relative to a base, into an absolute URI in normal form:
the scheme and domain name in lower case, no default port, no dot segments, and characters that
may not stand for themselves escaped.  White space and control characters around the reference
are dropped, and so are tabs and line ends within it.

A reference is read from the left in stages, each a function on what is left of it: the scheme,
the authority (user name, host and port), the path, and then query and fragment.
-/

namespace Transclusion.Uri

open Transclusion.Text

/-! ### Query and fragment -/

/-- The query and fragment that follow a path. -/
def readTail (kind : SchemeKind) (input : List Char) : Option (List Char) × Option (List Char) :=
  let escaped := fun c => escapedInQuery c || (kind.isSpecial && c = '\x27')
  match input with
  | '?' :: rest =>
    match cutAt '#' rest with
    | some (query, fragment) =>
      (some (escape escaped query), some (escape escapedInFragment fragment))
    | none => (some (escape escaped rest), none)
  | '#' :: rest => (none, some (escape escapedInFragment rest))
  | _ => (none, none)

/-- The URI with this scheme, authority and path, and the query and fragment in `input`. -/
def withTail (scheme : List Char) (authority : Option Authority) (path input : List Char) : Uri :=
  let (query, fragment) := readTail (SchemeKind.of scheme) input
  ⟨scheme, authority, path, query, fragment⟩

/-- The base with another fragment, `input` starting with `#`. -/
def withFragment (base : Uri) (input : List Char) : Uri :=
  { base with fragment := some (escape escapedInFragment (input.drop 1)) }

/-! ### Authority -/

/-- Whether an authority ends before this character. -/
def endsAuthority (kind : SchemeKind) (c : Char) : Bool :=
  c = '/' || c = '?' || c = '#' || (c = '\x5c' && kind.isSpecial)

/-- What is before and after the last `@` of the authority. -/
def cutUserInfo (kind : SchemeKind) (input : List Char) : Option (List Char × List Char) :=
  let authority := input.takeWhile (!endsAuthority kind ·)
  if authority.contains '@' then
    let host := (authority.reverse.takeWhile (· ≠ '@')).reverse
    let user := authority.take (authority.length - host.length - 1)
    some (user, input.drop (user.length + 1))
  else none

/-- User name and password in normal form; a colon is kept only before a password. -/
def userInfoText (user : List Char) : List Char :=
  match cutAt ':' user with
  | some (name, password) =>
    escape escapedInUserInfo name
      ++ (if password.isEmpty then [] else ':' :: escape escapedInUserInfo password)
  | none => escape escapedInUserInfo user

/-- Reads user name and password, if there are any, leaving the host. An empty user name must be
followed by a host. -/
def readUserInfo? (kind : SchemeKind) (input : List Char) : Option (List Char × List Char) :=
  match cutUserInfo kind input with
  | none => some ([], input)
  | some ([], rest) =>
    match rest with
    | c :: _ => if endsAuthority kind c then none else some ([], rest)
    | [] => some ([], rest)
  | some (user, rest) => some (userInfoText user, rest)

/-- The length of the host at the start of the input; a colon within brackets belongs to it. -/
def hostLength (kind : SchemeKind) (inBrackets : Bool) : List Char → Nat
  | [] => 0
  | c :: rest =>
    if (c = ':' && !inBrackets) || endsAuthority kind c then 0
    else 1 + hostLength kind (if c = '[' then true else if c = ']' then false else inBrackets) rest

/-- Reads a port after its colon: digits up to the end of the authority, at most 65535. No digits
and the default of the scheme count as no port. -/
def readPort? (scheme : List Char) (input : List Char) : Option (Option Nat × List Char) := do
  let digits := input.takeWhile Char.isDigit
  let rest := input.drop digits.length
  let port ← numberIn? 10 digits
  if 65535 < port then none
  match rest with
  | [] => pure ()
  | c :: _ => if c = '/' || c = '\x5c' || c = '?' || c = '#' then pure () else none
  some (if digits.isEmpty || defaultPort? scheme = some port then none else some port, rest)

/-- Reads user information, host and port. -/
def readAuthority? (scheme : List Char) (input : List Char) : Option (Authority × List Char) := do
  let kind := SchemeKind.of scheme
  let (userInfo, input) ← readUserInfo? kind input
  let length := hostLength kind false input
  let name := input.take length
  let rest := input.drop length
  let host ← if kind = .other then opaqueHost? name else domainHost? name
  if host.isEmpty && (rest.head? = some ':' || !userInfo.isEmpty) then none
  match rest with
  | ':' :: rest =>
    let (port, rest) ← readPort? scheme rest
    some (⟨userInfo, host, port⟩, rest)
  | _ => some (⟨userInfo, host, none⟩, rest)

/-- Reads what follows the two slashes before an authority. -/
def readAfterSlashes? (scheme : List Char) (input : List Char) : Option Uri := do
  let (authority, rest) ← readAuthority? scheme input
  let (path, _, rest) := readPathStart (SchemeKind.of scheme) rest
  some (withTail scheme (some authority) path rest)

/-! ### File URIs -/

def fileScheme : List Char := ['f', 'i', 'l', 'e']

/-- A file URI with the host and the path read from `input` onto `path`. -/
def fileUri (host : List Char) (path input : List Char) : Uri :=
  let (path, _, rest) := readPath .file path input
  withTail fileScheme (some ⟨[], host, none⟩) path rest

/-- Reads a file URI after two slashes. `localhost` is no host, and a drive letter in the place of
the host starts the path. Where there is no host, a slash more than needed is the first empty
segment, so that a drive letter after it is not the first segment. -/
def readFileHost? (input : List Char) : Option Uri := do
  let inHost := fun c => !(isSlash c || c = '?' || c = '#')
  let name := dropBreaks (input.takeWhile inHost)
  if isDriveLetter name then some (fileUri [] ['/'] input)
  else
    let rest := input.dropWhile inHost
    let host ← if name.isEmpty then some [] else domainHost? name
    if host.isEmpty || String.ofList host = "localhost" then some (fileUri [] ['/'] rest)
    else
      let (path, dropsHost, rest) := readPathStart .file rest
      some (withTail fileScheme (some ⟨[], if dropsHost then [] else host, none⟩) path rest)

/-- What a path with one slash takes from the base: its drive letter or its host. -/
def fileRoot (base : Option Uri) (input : List Char) : List Char × List Char :=
  match base with
  | some base =>
    if startsWithDrive input then ([], [])
    else
      let first := (base.segments.getD []).headD []
      if isNormalDriveLetter first then ([], '/' :: first)
      else ((base.authority.map (·.host)).getD [], [])
  | none => ([], [])

/-- Reads a file URI after its scheme, or a reference relative to one. Tabs and line ends are still
in `input`. -/
def readFile? (base : Option Uri) (input : List Char) : Option Uri :=
  match input.dropWhile isBreak with
  | c :: rest =>
    if isSlash c then
      let oneSlash :=
        let (host, path) := fileRoot base (dropBreaks rest)
        fileUri host path (c :: rest)
      match rest.dropWhile isBreak with
      | d :: after => if isSlash d then readFileHost? after else some oneSlash
      | [] => some oneSlash
    else match base with
      | some base =>
        if c = '?' then some (withTail fileScheme base.authority base.path (dropBreaks input))
        else if c = '#' then some (withFragment base (dropBreaks input))
        else if startsWithDrive (dropBreaks input) then some (fileUri [] ['/'] input)
        else
          let (path, _, rest) := readPath .file (dropName .file base.path) input
          some (withTail fileScheme base.authority path rest)
      | none => some (fileUri [] ['/'] input)
  | [] =>
    match base with
    | some base => some { base with fragment := none }
    | none => some (fileUri [] ['/'] [])

/-! ### References -/

/-- Reads a reference relative to a base that is neither a file nor opaque. -/
def readRelative? (base : Uri) (input : List Char) : Option Uri :=
  let kind := SchemeKind.of base.scheme
  match input with
  | [] => some { base with fragment := none }
  | '?' :: _ => some (withTail base.scheme base.authority base.path input)
  | '#' :: _ => some (withFragment base input)
  | c :: rest =>
    if isSlash c then
      let slashes := input.takeWhile isSlash
      if 2 ≤ slashes.length then
        match input with
        | '/' :: '/' :: after => readAfterSlashes? base.scheme after
        | _ => readAfterSlashes? base.scheme (input.drop slashes.length)
      else
        let (path, _, rest) := readPath kind ['/'] rest
        some (withTail base.scheme base.authority path rest)
    else
      let folder := dropName kind base.path
      let folder := if folder.isEmpty then ['/'] else folder
      let (path, _, rest) := readPath kind folder input
      some (withTail base.scheme base.authority path rest)

/-- Reads what follows a scheme. Tabs and line ends are still in `input`. -/
def readAfterScheme? (base : Option Uri) (scheme : List Char) (input : List Char) : Option Uri :=
  let plain := dropBreaks input
  match SchemeKind.of scheme with
  | .file => readFile? (base.filter (·.scheme = fileScheme)) input
  | .hierarchical =>
    let slashes := plain.takeWhile isSlash
    match base with
    | some base =>
      if slashes.length < 2 && base.scheme = scheme then readRelative? base plain
      else readAfterSlashes? scheme (plain.drop slashes.length)
    | none => readAfterSlashes? scheme (plain.drop slashes.length)
  | .other =>
    match plain with
    | '/' :: '/' :: rest => readAfterSlashes? scheme rest
    | '/' :: rest =>
      let (path, _, rest) := readPath .other ['/'] rest
      some (withTail scheme none path rest)
    | _ =>
      let isTail := fun c => c = '?' || c = '#'
      let path := plain.takeWhile (!isTail ·)
      some (withTail scheme none (escape isControl path) (plain.drop path.length))

/-- The scheme at the start of a reference, in lower case, and what follows its colon. -/
def readScheme? (input : List Char) : Option (List Char × List Char) :=
  match input with
  | c :: _ =>
    if c.isAlpha then
      match cutAt ':' input with
      | some (scheme, rest) =>
        let scheme := dropBreaks scheme
        if scheme.all fun c => c.isAlphanum || c = '+' || c = '-' || c = '.' then
          some (scheme.map Char.toLower, rest)
        else none
      | none => none
    else none
  | [] => none

/-- Drops control characters and spaces around a reference. -/
def trimmed (reference : String) : List Char :=
  let outer := fun (c : Char) => c.toNat ≤ 0x20
  dropEndWhile outer (reference.toList.dropWhile outer)

/-- Reads a reference, a relative one with the help of a base. -/
def read? (base : Option Uri) (reference : String) : Option Uri :=
  let input := trimmed reference
  match readScheme? input with
  | some (scheme, rest) => readAfterScheme? base scheme rest
  | none =>
    match base with
    | none => none
    | some base =>
      if input.head? = some '#' then some (base.withFragment (dropBreaks input))
      else if base.isOpaque then none
      else if SchemeKind.of base.scheme = .file then readFile? (some base) input
      else readRelative? base (dropBreaks input)

end Transclusion.Uri
