import Transclusion.Uri.Host
/-!
# URIs

The parts of an absolute URI, each in its normal form, and the text that they make up.
-/

namespace Transclusion

/-- The kinds of schemes that differ in their syntax. -/
inductive Uri.SchemeKind where
  /-- `file`, whose paths may start with a drive letter. -/
  | file
  /-- Schemes with a host and a path of segments, such as `http`. -/
  | hierarchical
  /-- All others. -/
  | other
deriving DecidableEq, Repr

/-- The authority of a URI: user name and password as they are written, the host, and the port
unless it is the default of the scheme. -/
structure Uri.Authority where
  userInfo : List Char
  host : List Char
  port : Option Nat
deriving DecidableEq, Repr

/-- An absolute URI. -/
structure Uri where
  scheme : List Char
  authority : Option Uri.Authority
  path : List Char
  query : Option (List Char)
  fragment : Option (List Char)
deriving DecidableEq, Repr

namespace Uri

def SchemeKind.of (scheme : List Char) : SchemeKind :=
  match String.ofList scheme with
  | "file" => .file
  | "http" | "https" | "ws" | "wss" | "ftp" => .hierarchical
  | _ => .other

/-- Whether a backslash is a slash for this kind of scheme. -/
def SchemeKind.isSpecial : SchemeKind → Bool
  | .file | .hierarchical => true
  | .other => false

/-- The port that need not be written. -/
def defaultPort? (scheme : List Char) : Option Nat :=
  match String.ofList scheme with
  | "http" | "ws" => some 80
  | "https" | "wss" => some 443
  | "ftp" => some 21
  | _ => none

/-- The authority in writing, after `//`. -/
def Authority.text (a : Authority) : List Char :=
  (if a.userInfo.isEmpty then [] else a.userInfo ++ ['@']) ++ a.host
    ++ (match a.port with
      | some port => ':' :: Nat.toDigits 10 port
      | none => [])

/-- A path that would be taken for an authority is kept apart from the scheme by `/.`. -/
def pathGuard (u : Uri) : List Char :=
  match u.authority, u.path with
  | none, '/' :: '/' :: _ => ['/', '.']
  | _, _ => []

/-- The URI in writing. -/
def text (u : Uri) : String :=
  String.ofList <|
    u.scheme ++ [':']
      ++ (match u.authority with
        | some a => '/' :: '/' :: a.text
        | none => [])
      ++ u.pathGuard ++ u.path
      ++ (match u.query with
        | some query => '?' :: query
        | none => [])
      ++ (match u.fragment with
        | some fragment => '#' :: fragment
        | none => [])

/-- Whether the URI has no hierarchy, as `mailto:x`: only a fragment is relative to it. -/
def isOpaque (u : Uri) : Bool :=
  u.authority.isNone && u.path.head? ≠ some '/'

/-- The segments of a path that starts with a slash. -/
def segments (u : Uri) : Option (List (List Char)) :=
  match u.path with
  | '/' :: rest => some (Text.pieces '/' rest)
  | _ => none

end Uri

end Transclusion
