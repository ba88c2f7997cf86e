import Transclusion.Command.Config
/-!
# The command line

What the words of a command line ask for: help, the version, or a run with an input, an output and
options.  Words that start with a hyphen are options, up to a word `--`; a value follows its option
as the next word, or after an equals sign.
-/

namespace Transclusion

/-- A run that a command line asks for. -/
structure Invocation where
  input : Option String
  output : Option String
  config : Option String
  overrides : Overrides
  verbose : Bool
deriving DecidableEq, Repr, Inhabited

/-- What a command line asks for. -/
inductive CommandLine where
  | help
  | version
  | run (invocation : Invocation)
deriving DecidableEq, Repr

/-- Why a command line cannot be understood. -/
inductive CommandLineError where
  | unexpected (word : String)
  | missingValue (option : String)
  | unwantedValue (option : String)
  | repeated (option : String)
  | missingInput
deriving DecidableEq, Repr

def CommandLineError.message : CommandLineError → String
  | unexpected word => "unexpected argument '" ++ word ++ "' found"
  | missingValue option => "a value is required for '" ++ option ++ "' but none was supplied"
  | unwantedValue option => "unexpected value for '" ++ option ++ "' found"
  | repeated option => "the argument '" ++ option ++ "' cannot be used multiple times"
  | missingInput => "the following required arguments were not provided:\n  <INPUT>"

/-- The options that are flags. -/
inductive Flag where
  | noFixupXmlBase
  | noFixupXmlLang
  | noCopyAttributes
  | trimText
  | verbose
  | help
  | version
deriving DecidableEq, Repr

def Flag.ofWord? : String → Option Flag
  | "--no-fixup-xml-base" => some noFixupXmlBase
  | "--no-fixup-xml-lang" => some noFixupXmlLang
  | "--no-copy-attributes" => some noCopyAttributes
  | "--trim-text" => some trimText
  | "--verbose" | "-v" => some verbose
  | "--help" | "-h" => some help
  | "--version" | "-V" => some version
  | _ => none

namespace CommandLine

/-- Sets something that can be set once. -/
def setOnce (name : String) (old : Option String) (value : String) :
    Except CommandLineError (Option String) :=
  if old.isSome then .error (.repeated name) else .ok (some value)

/-- Takes the input. -/
def takeInput (i : Invocation) (word : String) : Except CommandLineError Invocation :=
  if i.input.isSome then .error (.unexpected word) else .ok { i with input := some word }

/-- Takes an option with a value; nothing if there is no such option. -/
def takeValue? (i : Invocation) (option value : String) :
    Option (Except CommandLineError Invocation) :=
  match option with
  | "--output" | "-o" => some do
    return { i with output := ← setOnce "--output <OUTPUT>" i.output value }
  | "--config" => some do
    return { i with config := ← setOnce "--config <CONFIG>" i.config value }
  | _ => none

/-- Whether an option takes a value. -/
def takesValue (option : String) : Bool := (takeValue? default option "").isSome

/-- Takes a flag. -/
def takeFlag (i : Invocation) (flag : Flag) (word : String) : Except CommandLineError Invocation :=
  let once := fun (old : Bool) (new : Invocation) =>
    if old then Except.error (CommandLineError.repeated word) else .ok new
  let o := i.overrides
  match flag with
  | .noFixupXmlBase =>
    once o.noFixupXmlBase { i with overrides := { o with noFixupXmlBase := true } }
  | .noFixupXmlLang =>
    once o.noFixupXmlLang { i with overrides := { o with noFixupXmlLang := true } }
  | .noCopyAttributes =>
    once o.noCopyAttributes { i with overrides := { o with noCopyAttributes := true } }
  | .trimText => once o.trimText { i with overrides := { o with trimText := true } }
  | .verbose => once i.verbose { i with verbose := true }
  | .help | .version => .ok i

/-- An option and its value, written with an equals sign between them. -/
def splitValue? (word : String) : Option (String × String) :=
  match word.toList.span (· ≠ '=') with
  | (option, '=' :: value) => some (String.ofList option, String.ofList value)
  | _ => none

/-- Reads the words that are left. -/
def readWords (i : Invocation) : List String → Except CommandLineError CommandLine
  | [] => if i.input.isNone then .error .missingInput else .ok (.run i)
  | "--" :: rest => do
    let i ← rest.foldlM takeInput i
    if i.input.isNone then throw .missingInput else return .run i
  | word :: rest =>
    if !word.startsWith "-" || word = "-" then do readWords (← takeInput i word) rest
    else match Flag.ofWord? word with
      | some .help => .ok .help
      | some .version => .ok .version
      | some flag => do readWords (← takeFlag i flag word) rest
      | none =>
        if takesValue word then
          match rest with
          | [] => .error (.missingValue word)
          | value :: rest => do
            match takeValue? i word value with
            | some taken => readWords (← taken) rest
            | none => throw (.unexpected word)
        else match splitValue? word with
          | none => .error (.unexpected word)
          | some (option, value) =>
            match takeValue? i option value with
            | some taken => do readWords (← taken) rest
            | none =>
              if (Flag.ofWord? option).isSome then .error (.unwantedValue option)
              else .error (.unexpected option)

/-- Reads a command line. -/
def read (words : List String) : Except CommandLineError CommandLine := readWords default words

end CommandLine

end Transclusion
