import Transclusion.Command.Expand
import Transclusion.Command.Line
/-!
# The program

Carries out a command line: it reads the files that the command needs, one after the other as they
are asked for, and writes the result to a file or to standard output.
-/

namespace Transclusion.Program

/-- The files that have been read, with their contents. -/
abbrev FilesRead := List (FilePath × Except SystemFault (List UInt8))

/-- The files that have been read as a file system that stops at any other. -/
def systemOf (files : FilesRead) : FileSystem where
  read path :=
    match files.find? fun file => file.1 = path with
    | some (_, answer) => .ok answer
    | none => .error (.unread path)

/-- What the operating system calls an error. -/
def descriptionOf (number : Nat) : Option String :=
  match number with
  | 2 => some SystemFault.noSuchFile.description
  | 13 => some "Permission denied"
  | 20 => some SystemFault.notDirectory.description
  | 21 => some SystemFault.isDirectory.description
  | 36 => some SystemFault.nameTooLong.description
  | _ => none

/-- An error of the operating system; its number may come with either sign. -/
def faultOf (e : IO.Error) : SystemFault :=
  let numbered := fun (number : UInt32) =>
    let number := (min number (0 - number)).toNat
    match descriptionOf number with
    | some description => SystemFault.mk description (some number)
    | none => ⟨toString e, none⟩
  match e with
  | .noFileOrDirectory _ number _ => numbered number
  | .permissionDenied _ number _ => numbered number
  | .inappropriateType _ number _ => numbered number
  | .invalidArgument _ number _ => numbered number
  | _ => ⟨toString e, none⟩

/-- The content of a file. -/
def readFile (path : FilePath) : IO (Except SystemFault (List UInt8)) := do
  if path.contains 0 then return .error .nulByte
  match String.fromUTF8? (ByteArray.mk path.toArray) with
  | none => return .error .noSuchFile
  | some name =>
    try return .ok (← IO.FS.readBinFile name).toList
    catch e => return .error (faultOf e)

/-- Runs the command, again each time that a file has been read for it. -/
partial def run (a : Arguments) (files : FilesRead) :
    IO (Except (List String) (Options × String)) := do
  match (a.run (systemOf files)).run with
  | .ok (.ok result) => return .ok result
  | .ok (.error e) => return .error e.chain
  | .error .tooDeep => return .error ["Includes are nested too deep"]
  | .error (.unread path) => run a ((path, ← readFile path) :: files)

/-- Writes the result to a file, or to standard output if there is none. -/
def writeResult (output : Option String) (text : String) : IO (Except CommandError Unit) := do
  match output with
  | none =>
    IO.println text
    return .ok ()
  | some path =>
    try
      IO.FS.writeFile path text
      return .ok ()
    catch e => return .error (.unwritableOutput path (faultOf e))

/-- An error and what it goes back to, in lines. -/
def report (chain : List String) : String :=
  match chain with
  | [] => "Error"
  | [e] => "Error: " ++ e
  | [e, cause] => "Error: " ++ e ++ "\n\nCaused by:\n    " ++ cause
  | e :: causes =>
    let numbered := causes.zipIdx.map fun (cause, i) => "\n    " ++ toString i ++ ": " ++ cause
    "Error: " ++ e ++ "\n\nCaused by:" ++ String.join numbered

def usage : String :=
  "Usage: xinclude [OPTIONS] <INPUT>\n\n"
    ++ "Arguments:\n"
    ++ "  <INPUT>  Input XML document\n\n"
    ++ "Options:\n"
    ++ "  -o, --output <OUTPUT>     Write output to FILE (default: stdout)\n"
    ++ "      --config <CONFIG>     TOML file with processor options\n"
    ++ "      --no-fixup-xml-base   Don't add xml:base to included elements\n"
    ++ "      --no-fixup-xml-lang   Don't add xml:lang to included elements\n"
    ++ "      --no-copy-attributes  Don't copy namespaced xi:include attributes onto included "
    ++ "elements\n"
    ++ "      --trim-text           Strip common indentation and trailing spaces from text "
    ++ "inclusions\n"
    ++ "  -v, --verbose             Show debug output\n"
    ++ "  -h, --help                Print help\n"
    ++ "  -V, --version             Print version"

/-- A path as an absolute one. -/
def absolute (path : String) : IO String := do
  if path.startsWith "/" then return path
  else return (← IO.currentDir).toString ++ "/" ++ path

/-- Carries out an invocation; the result is the exit code. -/
def carryOut (i : Invocation) : IO UInt32 := do
  let input ← absolute (i.input.getD "")
  match ← run ⟨input, i.config, i.overrides⟩ [] with
  | .error chain =>
    IO.eprintln (report chain)
    return 1
  | .ok (_, text) =>
    match ← writeResult i.output text with
    | .ok () => return 0
    | .error e =>
      IO.eprintln (report e.chain)
      return 1

end Transclusion.Program

open Transclusion in
def main (words : List String) : IO UInt32 := do
  match CommandLine.read words with
  | .ok .help =>
    IO.println ("Expand XInclude elements in an XML document\n\n" ++ Program.usage)
    return 0
  | .ok .version =>
    IO.println "xinclude 0.1.0"
    return 0
  | .ok (.run invocation) => Program.carryOut invocation
  | .error e =>
    IO.eprintln ("error: " ++ e.message ++ "\n\n" ++ Program.usage)
    return 2
