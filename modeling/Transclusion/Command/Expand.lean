import Transclusion.Command.Config
import Transclusion.Files.Resolver
import Transclusion.Inclusion.Expansion
/-!
# The command

What the command does once its arguments are known: it reads the options from the configuration
file, reads and parses the input, expands it, and has the result ready to be written.  All files
are read from a `FileSystem`; the paths are absolute.

When something fails, the command says what it was about to do and why that failed, then what that
goes back to (`CommandError.chain`).
-/

namespace Transclusion

open Text

/-- Why a text cannot be read from a file. -/
inductive TextFault where
  | system (fault : SystemFault)
  | notUtf8
deriving DecidableEq, Repr

/-- Why the command fails, with the path of the file concerned. -/
inductive CommandError where
  | unreadableConfig (path : String) (fault : TextFault)
  | invalidConfig (path : String)
  | unreadableInput (path : String) (fault : TextFault)
  | unparseableInput (path : String) (error : XmlError)
  | failedExpansion (path : String) (error : InclusionError)
  | unwritableOutput (path : String) (fault : SystemFault)
deriving DecidableEq, Repr

def TextFault.message : TextFault → String
  | system fault => fault.message
  | notUtf8 => "stream did not contain valid UTF-8"

/-- An error of inclusion and what it goes back to, in words. -/
def InclusionError.chain (e : InclusionError) : List String :=
  e.message :: (e.cause?.map (·.message)).toList

namespace CommandError

/-- What the command was about to do. -/
def message : CommandError → String
  | unreadableConfig path _ => "Failed to read config file: " ++ path
  | invalidConfig path => "Invalid config file: " ++ path
  | unreadableInput path _ => "Failed to read input: " ++ path
  | unparseableInput path _ => "Failed to parse " ++ path
  | failedExpansion path _ => "Failed to expand " ++ path
  | unwritableOutput path _ => "Failed to write output: " ++ path

/-- Why that failed, and what this goes back to. -/
def reasons : CommandError → List String
  | unreadableConfig _ fault => [fault.message]
  | invalidConfig _ => []
  | unreadableInput _ fault => [fault.message]
  | unparseableInput _ error => [error.message]
  | failedExpansion _ error => error.chain
  | unwritableOutput _ fault => [fault.message]

def chain (e : CommandError) : List String := e.message :: e.reasons

end CommandError

/-- The arguments of the command. -/
structure Arguments where
  input : String
  config : Option String
  overrides : Overrides
deriving DecidableEq, Repr

namespace Arguments

/-- Steps of the command: they can fail, or have to wait for a file. -/
abbrev Step := ExceptT CommandError (Except Halt)

/-- The text of a file. -/
def readText (system : FileSystem) (path : String) : Except Halt (Except TextFault String) := do
  match ← (system.read (FilePath.ofString path)).run with
  | .ok bytes =>
    match decodeUtf8 bytes with
    | .ok text => return .ok text
    | .error _ => return .error .notUtf8
  | .error fault => return .error (.system fault)

/-- Reads the options. -/
def options (a : Arguments) (system : FileSystem) : Step Options := do
  let configured ← match a.config with
    | none => pure {}
    | some path =>
      match ← ExceptT.lift (readText system path) with
      | .error fault => throw (.unreadableConfig path fault)
      | .ok text =>
        match Options.read? text with
        | none => throw (.invalidConfig path)
        | some options => pure options
  return a.overrides.apply configured

/-- Reads and expands the input under the options. -/
def expand (a : Arguments) (system : FileSystem) (options : Options) : Step Document := do
  let path := normalPath a.input
  match ← ExceptT.lift (readText system path) with
  | .error fault => throw (.unreadableInput path fault)
  | .ok text =>
    match Document.read ((Uri.ofPath? path).map (·.text)) text with
    | .error e => throw (.unparseableInput path e)
    | .ok d =>
      match ← ExceptT.lift ((Includer.standard options (.files system)).expand d) with
      | .error e => throw (.failedExpansion path e)
      | .ok expanded => return expanded

/-- Runs the command: the options, and the text to be written. -/
def run (a : Arguments) (system : FileSystem) : Step (Options × String) := do
  let options ← a.options system
  let expanded ← a.expand system options
  return (options, expanded.write)

end Arguments

/-- Writes a text to the file at a path. -/
def FileTree.writeText (tree : FileTree) (path text : String) : Except CommandError FileTree :=
  (tree.write (FilePath.ofString path) (utf8Bytes text)).mapError (.unwritableOutput path)

end Transclusion
