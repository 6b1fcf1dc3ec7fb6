import AnnotationContainers.Json.Reader
import AnnotationContainers.Metadata.Decoding
import AnnotationContainers.Report

/-! # The command line

`check --metadata FILE` and `resolve --metadata FILE --annotation FILE [--mode BASE]`, each with
`--log-format`, which may also stand before the command. Arguments are taken from left to right, and
the first one that is wrong, or asks for help or the version, decides. `CommandLine.run` reads
files by a function it is given, so what a command does can be stated of any file system.
-/

namespace AnnotationContainers.CommandLine

/-- The environment variable that stands in for `--metadata`. -/
def metadataVariable : String := "REPEATABLES_METADATA"

def versionText : String := "repeatables 0.1.0"

def helpText : String :=
  "Resolve repeatable annotation containers from declarative metadata\n\n" ++
  "Usage: repeatables [--log-format <pretty|json>] <COMMAND>\n\n" ++
  "Commands:\n" ++
  "  check    Validate a metadata document and print the configured chain\n" ++
  "           --metadata <FILE>\n" ++
  "  resolve  Resolve one annotation instance against the configured chain\n" ++
  "           --metadata <FILE> --annotation <FILE> [--mode <standard|none>]\n" ++
  "  help     Print this message"

inductive Command where
  | check (metadata : String)
  | resolve (metadata document : String) (base : Option BaseStrategy)
deriving DecidableEq

inductive NoCommand where
  | help
  | version
  | misuse
deriving DecidableEq

inductive Flag where
  | logFormat
  | metadata
  | document
  | mode
deriving DecidableEq

def Flag.text : Flag → String
  | .logFormat => "--log-format"
  | .metadata => "--metadata"
  | .document => "--annotation"
  | .mode => "--mode"

/-- File names must not be empty; the other flags have a choice of two values. -/
def Flag.accepts : Flag → String → Bool
  | .logFormat, value => value = "pretty" || value = "json"
  | .mode, value => value = "standard" || value = "none"
  | .metadata, value | .document, value => value ≠ ""

inductive Level where
  | program
  | check
  | resolve
deriving DecidableEq

def Level.flags : Level → List Flag
  | .program => [.logFormat]
  | .check => [.logFormat, .metadata]
  | .resolve => [.logFormat, .metadata, .document, .mode]

/-- The arguments of one level: the flags with their values, and what follows them. -/
structure Flags where
  values : List (Flag × String)
  rest : List String

/-- Take the value of a flag, which a level accepts once. -/
def addFlag (level : Level) (values : List (Flag × String)) (name value : String) :
    Except NoCommand (List (Flag × String)) :=
  match level.flags.find? (·.text = name) with
  | some flag =>
    if flag.accepts value ∧ (values.lookup flag).isNone then .ok ((flag, value) :: values)
    else .error .misuse
  | none => .error .misuse

/-- What `-h`, `-V` and their long forms ask for; the version is known to the program only. -/
def request (level : Level) (arg : String) : NoCommand :=
  match arg.toList with
  | '-' :: 'h' :: _ => .help
  | '-' :: 'V' :: _ => if level = .program then .version else .misuse
  | _ =>
    if arg = "--help" then .help
    else if arg = "--version" ∧ level = .program then .version
    else .misuse

/-- The argument is no value unless it is written after an equals sign. -/
def isDashed (arg : String) : Bool := arg.startsWith "-" && arg ≠ "-"

def splitValue (arg : String) : Option (String × String) :=
  let chars := arg.toList
  match chars, chars.dropWhile (· ≠ '=') with
  | '-' :: '-' :: _, '=' :: value =>
    some (String.ofList (chars.takeWhile (· ≠ '=')), String.ofList value)
  | _, _ => none

/-- Take flags up to the first argument that is none, or up to `--`. -/
def takeFlags (level : Level) (values : List (Flag × String)) :
    List String → Except NoCommand Flags
  | [] => .ok ⟨values, []⟩
  | arg :: rest =>
    if arg = "--" ∨ !isDashed arg then .ok ⟨values, arg :: rest⟩
    else
      match splitValue arg with
      | some (name, value) => do takeFlags level (← addFlag level values name value) rest
      | none =>
        if level.flags.any (·.text = arg) then
          match rest with
          | value :: rest =>
            if isDashed value then .error .misuse
            else do takeFlags level (← addFlag level values arg value) rest
          | [] => .error .misuse
        else .error (request level arg)

def commandFlags (level : Level) (args : List String) :
    Except NoCommand (List (Flag × String)) := do
  let flags ← takeFlags level [] args
  if flags.rest = [] ∨ flags.rest = ["--"] then return flags.values else throw .misuse

private def orMisuse {α : Type} : Option α → Except NoCommand α
  | some a => .ok a
  | none => .error .misuse

def metadataFile (values : List (Flag × String)) (environment : Option String) :
    Except NoCommand String :=
  orMisuse ((values.lookup .metadata).or (environment.filter (Flag.metadata.accepts ·)))

def helpRequest : List String → NoCommand
  | [] | ["check"] | ["resolve"] | ["help"] => .help
  | _ => .misuse

def parse (args : List String) (environment : Option String) : Except NoCommand Command := do
  match (← takeFlags .program [] args).rest with
  | "check" :: args =>
    let values ← commandFlags .check args
    return .check (← metadataFile values environment)
  | "resolve" :: args =>
    let values ← commandFlags .resolve args
    let metadata ← metadataFile values environment
    let document ← orMisuse (values.lookup .document)
    let base := (values.lookup .mode).map fun mode =>
      if mode = "none" then BaseStrategy.disabled else .standard
    return .resolve metadata document base
  | "help" :: names => throw (helpRequest names)
  | _ => throw .misuse

inductive Outcome where
  | printed (text : String)
  | failed (context : String) (cause : Option String)
  | misused
deriving DecidableEq

def Outcome.exitCode : Outcome → UInt8
  | .printed _ => 0
  | .failed .. => 1
  | .misused => 2

def hanging (text : String) : String :=
  String.join (text.toList.map fun c => if c = '\n' then "\n    " else c.toString)

/-- What is reported of a failure: its context and, as a block of its own, the cause. -/
def failureText (context : String) : Option String → String
  | none => "Error: " ++ context
  | some cause => "Error: " ++ context ++ "\n\nCaused by:\n    " ++ hanging cause

section Files

variable {m : Type → Type} [Monad m] (readFile : String → m (Option String))

def loadJson (file : String) : ExceptT Outcome m Json := do
  match ← readFile file with
  | none => throw (.failed ("failed to read " ++ file) none)
  | some text =>
    match Json.ofText? text with
    | some value => return value
    | none => throw (.failed ("failed to parse " ++ file) none)

def loadMetadata (file : String) : ExceptT Outcome m Metadata := do
  match Decoding.metadata (← loadJson readFile file) with
  | .ok metadata => return metadata
  | .error fault => throw (.failed ("invalid metadata document " ++ file) (some fault.message))

private def printed (report : Except Failure Json) : Outcome :=
  match report with
  | .ok report => .printed (report.pretty ++ "\n")
  | .error failure => .failed failure.context (some failure.cause)

def execute : Command → ExceptT Outcome m Outcome
  | .check file => do
    let metadata ← loadMetadata readFile file
    return printed (metadata.check.map (·.toJson))
  | .resolve file documentFile base => do
    let metadata ← loadMetadata readFile file
    let document ← loadJson readFile documentFile
    return printed ((metadata.resolve document base).map (·.toJson))

def run (args : List String) (environment : Option String) : m Outcome := do
  match parse args environment with
  | .ok command =>
    match ← (execute readFile command).run with
    | .ok outcome | .error outcome => return outcome
  | .error .help => return .printed (helpText ++ "\n")
  | .error .version => return .printed (versionText ++ "\n")
  | .error .misuse => return .misused

end Files

end AnnotationContainers.CommandLine
